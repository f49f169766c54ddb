import Cer.Lib.Sql
import Mathlib.Data.List.Induction

/-!
# Schema statements that commit one by one

A catalog of tables (with their rows) and indexes, and the statements of a schema file:
`CREATE TABLE IF NOT EXISTS`, `CREATE [UNIQUE] INDEX IF NOT EXISTS`, `DROP INDEX IF
EXISTS` and `ALTER TABLE ADD COLUMN`.

A statement is `Settled` where executing it would change nothing.  The first three kinds
are settled once executed, so that a file of them which no later statement undoes can be
executed again from any point of it (`rerun`); an added column makes its statement fail
(`exec_addColumn_again`).  What rows a table has matters to nothing but a unique index
(`run_bare`).
-/

namespace Ddl

open Sql

inductive Affinity
  | text
  | integer
  | real
deriving DecidableEq

structure Column where
  name : String
  affinity : Affinity
  notNull : Bool
deriving DecidableEq

structure TableDef where
  name : String
  columns : List Column
  primaryKey : List String
  foreignKeys : List (ForeignKey String)
deriving DecidableEq

structure Index where
  name : String
  table : String
  columns : List String
  unique : Bool
  whereNotNull : Option String
deriving DecidableEq

/-- The constraint of a unique index. -/
def Index.toUnique (ix : Index) : UniqueIndex := ⟨ix.name, ix.columns, ix.whereNotNull⟩

structure TableState where
  schema : TableDef
  rows : List Columns
deriving DecidableEq

structure Catalog where
  tables : List TableState
  indexes : List Index
deriving DecidableEq

inductive Statement
  | createTable (t : TableDef)
  | createIndex (ix : Index)
  | dropIndex (name : String)
  | addColumn (table : String) (column : Column)
deriving DecidableEq

inductive Refusal
  | noSuchTable (table : String)
  | noSuchColumn (index : String)
  | notUnique (index : String)
  | duplicateColumn (column : String)
deriving DecidableEq

def TableState.hasColumn (ts : TableState) (column : String) : Bool := ts.schema.columns.any (·.name == column)

/-- No two rows of the table clash in the index. -/
def TableState.Unique (ts : TableState) (ix : Index) : Prop :=
  ts.rows.Pairwise fun a b => ix.toUnique.clash a b = false

instance (ts : TableState) (ix : Index) : Decidable (ts.Unique ix) :=
  inferInstanceAs (Decidable (List.Pairwise _ _))

def TableState.addColumn (column : Column) (ts : TableState) : TableState where
  schema := { ts.schema with columns := ts.schema.columns ++ [column] }
  rows := ts.rows.map fun row => row ++ [(column.name, .null)]

def Catalog.exec (cat : Catalog) : Statement → Except Refusal Catalog
  | .createTable t =>
    if cat.tables.any (·.schema.name == t.name) then .ok cat
    else .ok { cat with tables := cat.tables ++ [⟨t, []⟩] }
  | .createIndex ix =>
    if cat.indexes.any (·.name == ix.name) then .ok cat
    else match cat.tables.find? (·.schema.name == ix.table) with
      | none => .error (.noSuchTable ix.table)
      | some ts =>
        if !ix.columns.all ts.hasColumn then .error (.noSuchColumn ix.name)
        else if ix.unique ∧ ¬ ts.Unique ix then .error (.notUnique ix.name)
        else .ok { cat with indexes := cat.indexes ++ [ix] }
  | .dropIndex name => .ok { cat with indexes := cat.indexes.filter (·.name != name) }
  | .addColumn table column =>
    match cat.tables.find? (·.schema.name == table) with
    | none => .error (.noSuchTable table)
    | some ts =>
      if ts.hasColumn column.name then .error (.duplicateColumn column.name)
      else .ok { cat with tables := cat.tables.map fun ts =>
        if ts.schema.name == table then ts.addColumn column else ts }

def Catalog.run (cat : Catalog) (l : List Statement) : Except Refusal Catalog := l.foldlM Catalog.exec cat

theorem run_append (cat : Catalog) (l l' : List Statement) : cat.run (l ++ l') = cat.run l >>= (·.run l') :=
  List.foldlM_append

theorem run_singleton (cat : Catalog) (s : Statement) : cat.run [s] = cat.exec s := by
  show (cat.exec s >>= fun c => Except.ok c) = cat.exec s
  cases cat.exec s <;> rfl

/-- A run in two parts. -/
theorem run_append_eq_ok {cat cat' : Catalog} {l l' : List Statement} :
    cat.run (l ++ l') = .ok cat' ↔ ∃ mid, cat.run l = .ok mid ∧ mid.run l' = .ok cat' := by
  rw [run_append]
  cases cat.run l with
  | error r =>
    constructor
    · intro h
      cases h
    · rintro ⟨mid, h, _⟩
      cases h
  | ok mid =>
    constructor
    · intro h
      exact ⟨mid, rfl, h⟩
    · rintro ⟨mid', h, h'⟩
      cases h
      exact h'

/-- What every statement keeps, a run keeps. -/
theorem run_kept {P : Catalog → Prop} (hP : ∀ {cat cat' : Catalog} {s : Statement}, P cat →
    cat.exec s = .ok cat' → P cat')
    {cat cat' : Catalog} {l : List Statement} (h : P cat) (hx : cat.run l = .ok cat') : P cat' := by
  induction l generalizing cat with
  | nil =>
    cases hx
    exact h
  | cons s l ih =>
    have hx : (cat.exec s >>= fun c => c.run l) = .ok cat' := hx
    cases hs : cat.exec s with
    | error e =>
      rw [hs] at hx
      cases hx
    | ok c =>
      rw [hs] at hx
      exact ih (hP h hs) hx

/-! ## Executing again -/

/-- Executing the statement would change nothing. -/
def Statement.Settled (cat : Catalog) : Statement → Prop
  | .createTable t => ∃ ts ∈ cat.tables, ts.schema.name = t.name
  | .createIndex ix => ∃ ix' ∈ cat.indexes, ix'.name = ix.name
  | .dropIndex name => ∀ ix ∈ cat.indexes, ix.name ≠ name
  | .addColumn _ _ => False

theorem exec_settled {cat : Catalog} {s : Statement} (h : s.Settled cat) : cat.exec s = .ok cat := by
  cases s with
  | createTable t =>
    obtain ⟨ts, hts, hname⟩ := h
    have hany : cat.tables.any (·.schema.name == t.name) = true := List.any_eq_true.2 ⟨ts, hts, beq_iff_eq.2 hname⟩
    simp only [Catalog.exec, hany, if_true]
  | createIndex ix =>
    obtain ⟨ix', hix, hname⟩ := h
    have hany : cat.indexes.any (·.name == ix.name) = true := List.any_eq_true.2 ⟨ix', hix, beq_iff_eq.2 hname⟩
    simp only [Catalog.exec, hany, if_true]
  | dropIndex name =>
    have hfilter : cat.indexes.filter (·.name != name) = cat.indexes :=
      List.filter_eq_self.2 fun ix hix => bne_iff_ne.2 (h ix hix)
    simp only [Catalog.exec, hfilter]
  | addColumn table column => exact h.elim

/-- A statement has no effect of its own twice, but for an added column. -/
def Statement.rerunnable : Statement → Bool
  | .addColumn _ _ => false
  | _ => true

/-- What an executed statement leaves: the catalog it found, or one more table, index or column, or
one index less. -/
theorem exec_cases {cat cat' : Catalog} {s : Statement} (h : cat.exec s = .ok cat') :
    cat' = cat ∧ s.Settled cat ∨
      (∃ t, s = .createTable t ∧ (∀ ts ∈ cat.tables, ts.schema.name ≠ t.name) ∧
        cat' = { cat with tables := cat.tables ++ [⟨t, []⟩] }) ∨
      (∃ ix, s = .createIndex ix ∧ (∀ ix' ∈ cat.indexes, ix'.name ≠ ix.name) ∧
        cat' = { cat with indexes := cat.indexes ++ [ix] }) ∨
      (∃ name, s = .dropIndex name ∧ cat' = { cat with indexes := cat.indexes.filter (·.name != name) }) ∨
      ∃ table column, s = .addColumn table column ∧ (∃ ts ∈ cat.tables, ts.schema.name = table) ∧
        cat' = { cat with tables := cat.tables.map fun ts =>
          if ts.schema.name == table then ts.addColumn column else ts } := by
  cases s with
  | createTable t =>
    simp only [Catalog.exec] at h
    split at h
    · next hany =>
      cases h
      obtain ⟨ts, hts, hname⟩ := List.any_eq_true.1 hany
      exact Or.inl ⟨rfl, ts, hts, beq_iff_eq.1 hname⟩
    · next hany =>
      cases h
      refine Or.inr (Or.inl ⟨t, rfl, fun ts hts hname => hany ?_, rfl⟩)
      exact List.any_eq_true.2 ⟨ts, hts, beq_iff_eq.2 hname⟩
  | createIndex ix =>
    simp only [Catalog.exec] at h
    split at h
    · next hany =>
      cases h
      obtain ⟨ix', hix, hname⟩ := List.any_eq_true.1 hany
      exact Or.inl ⟨rfl, ix', hix, beq_iff_eq.1 hname⟩
    · next hany =>
      split at h
      · cases h
      · split at h
        · cases h
        · split at h
          · cases h
          · cases h
            refine Or.inr (Or.inr (Or.inl ⟨ix, rfl, fun ix' hix hname => hany ?_, rfl⟩))
            exact List.any_eq_true.2 ⟨ix', hix, beq_iff_eq.2 hname⟩
  | dropIndex name =>
    cases h
    exact Or.inr (Or.inr (Or.inr (Or.inl ⟨name, rfl, rfl⟩)))
  | addColumn table column =>
    simp only [Catalog.exec] at h
    split at h
    · cases h
    · next ts hts =>
      split at h
      · cases h
      · cases h
        refine Or.inr (Or.inr (Or.inr (Or.inr ⟨table, column, rfl, ⟨ts, List.mem_of_find?_eq_some hts, ?_⟩, rfl⟩)))
        simpa using List.find?_some hts

/-- Tables stay, with their names and their columns. -/
theorem table_kept {cat cat' : Catalog} {s : Statement} (h : cat.exec s = .ok cat') {ts : TableState}
    (hts : ts ∈ cat.tables) : ∃ ts' ∈ cat'.tables, ts'.schema.name = ts.schema.name ∧
      ∀ c ∈ ts.schema.columns, c ∈ ts'.schema.columns := by
  rcases exec_cases h with ⟨rfl, _⟩ | ⟨t, _, _, rfl⟩ | ⟨ix, _, _, rfl⟩ | ⟨n, _, rfl⟩ | ⟨table, column, _, _, rfl⟩
  · exact ⟨ts, hts, rfl, fun _ hc => hc⟩
  · exact ⟨ts, List.mem_append_left _ hts, rfl, fun _ hc => hc⟩
  · exact ⟨ts, hts, rfl, fun _ hc => hc⟩
  · exact ⟨ts, hts, rfl, fun _ hc => hc⟩
  · refine ⟨_, List.mem_map_of_mem hts, ?_⟩
    split
    · exact ⟨rfl, fun c hc => List.mem_append_left _ hc⟩
    · exact ⟨rfl, fun _ hc => hc⟩

/-- Two statements of which neither undoes the other. -/
def Statement.compatible : Statement → Statement → Bool
  | .createIndex ix, .dropIndex name => ix.name != name
  | .dropIndex name, .createIndex ix => ix.name != name
  | _, _ => true

theorem settled_of_exec {cat cat' : Catalog} {s : Statement} (h : cat.exec s = .ok cat')
    (hs : s.rerunnable = true) :
    s.Settled cat' := by
  rcases exec_cases h with ⟨rfl, hset⟩ | ⟨t, rfl, _, rfl⟩ | ⟨ix, rfl, _, rfl⟩ | ⟨n, rfl, rfl⟩ |
    ⟨table, column, rfl, _⟩
  · exact hset
  · exact ⟨_, List.mem_append_right _ (List.mem_singleton_self _), rfl⟩
  · exact ⟨ix, List.mem_append_right _ (List.mem_singleton_self _), rfl⟩
  · intro ix hix
    exact bne_iff_ne.1 (List.mem_filter.1 hix).2
  · cases hs

/-- What is settled stays settled under a statement that does not undo it. -/
theorem settled_mono {cat cat' : Catalog} {s s' : Statement} (h : cat.exec s' = .ok cat')
    (hc : s.compatible s' = true) (hs : s.Settled cat) : s.Settled cat' := by
  cases s with
  | createTable t =>
    obtain ⟨ts, hts, hname⟩ := hs
    obtain ⟨ts', hts', hname', _⟩ := table_kept h hts
    exact ⟨ts', hts', hname'.trans hname⟩
  | createIndex ix =>
    obtain ⟨ix', hix, hname⟩ := hs
    rcases exec_cases h with ⟨rfl, _⟩ | ⟨t, _, _, rfl⟩ | ⟨_, _, _, rfl⟩ | ⟨n, rfl, rfl⟩ |
      ⟨table, column, _, _, rfl⟩
    · exact ⟨ix', hix, hname⟩
    · exact ⟨ix', hix, hname⟩
    · exact ⟨ix', List.mem_append_left _ hix, hname⟩
    · refine ⟨ix', List.mem_filter.2 ⟨hix, ?_⟩, hname⟩
      rw [hname]
      exact hc
    · exact ⟨ix', hix, hname⟩
  | dropIndex n =>
    intro ix' hix'
    rcases exec_cases h with ⟨rfl, _⟩ | ⟨t, _, _, rfl⟩ | ⟨ix, rfl, _, rfl⟩ | ⟨_, _, rfl⟩ |
      ⟨table, column, _, _, rfl⟩
    · exact hs ix' hix'
    · exact hs ix' hix'
    · rcases List.mem_append.1 hix' with hix' | hix'
      · exact hs ix' hix'
      · rw [List.mem_singleton.1 hix']
        exact bne_iff_ne.1 hc
    · exact hs ix' (List.mem_filter.1 hix').1
    · exact hs ix' hix'
  | addColumn table column => exact hs.elim

/-- After a file, or a part of it, every statement executed is settled. -/
theorem settled_of_run {l : List Statement} (hr : ∀ s ∈ l, s.rerunnable = true)
    (hc : ∀ s ∈ l, ∀ s' ∈ l, s.compatible s' = true) {cat cat' : Catalog} (h : cat.run l = .ok cat') :
    ∀ s ∈ l, s.Settled cat' := by
  induction l using List.reverseRecOn generalizing cat' with
  | nil =>
    intro s hs
    cases hs
  | append_singleton l s ih =>
    obtain ⟨mid, hmid, hlast⟩ := run_append_eq_ok.1 h
    rw [run_singleton] at hlast
    have hsub : ∀ x ∈ l, x ∈ l ++ [s] := fun x hx => List.mem_append_left _ hx
    have hself : s ∈ l ++ [s] := List.mem_append_right _ (List.mem_singleton_self _)
    intro x hx
    rcases List.mem_append.1 hx with hx | hx
    · exact settled_mono hlast (hc x (hsub x hx) s hself)
        (ih (fun y hy => hr y (hsub y hy)) (fun y hy z hz => hc y (hsub y hy) z (hsub z hz)) hmid x hx)
    · rw [List.mem_singleton.1 hx]
      exact settled_of_exec hlast (hr s hself)

theorem run_settled {l : List Statement} {cat : Catalog} (h : ∀ s ∈ l, s.Settled cat) : cat.run l = .ok cat := by
  induction l with
  | nil => rfl
  | cons s l ih =>
    show (cat.exec s >>= fun c => c.run l) = .ok cat
    rw [exec_settled (h s List.mem_cons_self)]
    exact ih fun x hx => h x (List.mem_cons_of_mem _ hx)

/-- **A file of such statements may be executed again** from wherever it was stopped, with what it
would have left. -/
theorem rerun {l : List Statement} (hr : ∀ s ∈ l, s.rerunnable = true)
    (hc : ∀ s ∈ l, ∀ s' ∈ l, s.compatible s' = true) {cat stopped : Catalog} {n : Nat}
    (h : cat.run (l.take n) = .ok stopped) : stopped.run l = cat.run l := by
  have hmem : ∀ s ∈ l.take n, s ∈ l := fun s hs => List.mem_of_mem_take hs
  have hsettled := settled_of_run (fun s hs => hr s (hmem s hs))
    (fun s hs s' hs' => hc s (hmem s hs) s' (hmem s' hs')) h
  rw [← List.take_append_drop n l, run_append, run_append, h, run_settled hsettled]

/-! ## Columns that are there already -/

def HasColumn (cat : Catalog) (table column : String) : Prop :=
  ∃ ts ∈ cat.tables, ts.schema.name = table ∧ ∃ c ∈ ts.schema.columns, c.name = column

theorem HasColumn.exec {cat cat' : Catalog} {s : Statement} {table column : String}
    (h : HasColumn cat table column)
    (hx : cat.exec s = .ok cat') : HasColumn cat' table column := by
  obtain ⟨ts, hts, hname, c, hc, hcol⟩ := h
  obtain ⟨ts', hts', hname', hcols⟩ := table_kept hx hts
  exact ⟨ts', hts', hname'.trans hname, c, hcols c hc, hcol⟩

theorem HasColumn.run {cat cat' : Catalog} {l : List Statement} {table column : String}
    (h : HasColumn cat table column) (hx : cat.run l = .ok cat') : HasColumn cat' table column :=
  run_kept HasColumn.exec h hx

theorem hasColumn_of_exec {cat cat' : Catalog} {table : String} {column : Column}
    (h : cat.exec (.addColumn table column) = .ok cat') : HasColumn cat' table column.name := by
  rcases exec_cases h with ⟨_, hset⟩ | ⟨t, ht, _⟩ | ⟨ix, hix, _⟩ | ⟨n, hn, _⟩ |
    ⟨table', column', heq, ⟨ts, hts, hname⟩, rfl⟩
  · exact hset.elim
  · cases ht
  · cases hix
  · cases hn
  · cases heq
    refine ⟨_, List.mem_map_of_mem hts, ?_⟩
    rw [if_pos (beq_iff_eq.2 hname)]
    exact ⟨hname, column, List.mem_append_right _ (List.mem_singleton_self _), rfl⟩

/-- Table names are not shared. -/
def NamesDistinct (cat : Catalog) : Prop := (cat.tables.map (·.schema.name)).Nodup

/-- A column that is there cannot be added again. -/
theorem exec_addColumn_again {cat : Catalog} {table : String} {column : Column} (hd : NamesDistinct cat)
    (h : HasColumn cat table column.name) :
    cat.exec (.addColumn table column) = .error (.duplicateColumn column.name) := by
  obtain ⟨ts, hts, hname, c, hc, hcol⟩ := h
  have hfind : cat.tables.find? (·.schema.name == table) = some ts := by
    cases hf : cat.tables.find? (·.schema.name == table) with
    | none => exact absurd (beq_iff_eq.2 hname) (List.find?_eq_none.1 hf ts hts)
    | some ts' =>
      have hname' : ts'.schema.name = table := by simpa using List.find?_some hf
      rw [List.inj_on_of_nodup_map hd (List.mem_of_find?_eq_some hf) hts (hname'.trans hname.symm)]
  have hhas : ts.hasColumn column.name = true := List.any_eq_true.2 ⟨c, hc, beq_iff_eq.2 hcol⟩
  simp only [Catalog.exec, hfind, hhas, if_true]

theorem NamesDistinct.exec {cat cat' : Catalog} {s : Statement} (h : NamesDistinct cat)
    (hx : cat.exec s = .ok cat') :
    NamesDistinct cat' := by
  rcases exec_cases hx with ⟨rfl, _⟩ | ⟨t, _, hfresh, rfl⟩ | ⟨ix, _, _, rfl⟩ | ⟨n, _, rfl⟩ |
    ⟨table, column, _, _, rfl⟩
  · exact h
  · unfold NamesDistinct
    rw [List.map_append, List.nodup_append]
    refine ⟨h, List.nodup_singleton _, fun a ha b hb hab => ?_⟩
    obtain ⟨ts, hts, rfl⟩ := List.mem_map.1 ha
    obtain rfl := List.mem_singleton.1 hb
    exact hfresh ts hts hab
  · exact h
  · exact h
  · have hmap : (cat.tables.map fun ts => if ts.schema.name == table then ts.addColumn column else ts).map
        (·.schema.name) = cat.tables.map (·.schema.name) := by
      rw [List.map_map]
      refine List.map_congr_left fun ts _ => ?_
      show (if ts.schema.name == table then ts.addColumn column else ts).schema.name = ts.schema.name
      split <;> rfl
    unfold NamesDistinct
    rw [hmap]
    exact h

theorem NamesDistinct.run {cat cat' : Catalog} {l : List Statement} (h : NamesDistinct cat)
    (hx : cat.run l = .ok cat') : NamesDistinct cat' :=
  run_kept NamesDistinct.exec h hx

/-! ## Rows -/

/-- The catalog without its rows. -/
def Catalog.bare (cat : Catalog) : Catalog :=
  { cat with tables := cat.tables.map fun ts => { ts with rows := [] } }

/-- The rows satisfy every unique index that the statements create. -/
def Ready (l : List Statement) (cat : Catalog) : Prop :=
  ∀ ix, .createIndex ix ∈ l → ix.unique = true → ∀ ts ∈ cat.tables, ts.schema.name = ix.table → ts.Unique ix

theorem get_append_null (row : Columns) (column x : String) :
    Columns.get (row ++ [(column, .null)]) x = row.get x := by
  unfold Columns.get
  rw [List.lookup_append]
  cases row.lookup x with
  | some v => rfl
  | none =>
    show ((([(column, Value.null)] : Columns).lookup x).getD .null) = .null
    by_cases h : x == column
    · simp [List.lookup_cons, h]
    · simp [List.lookup_cons, h]

/-- A NULL in a further column makes no two rows clash. -/
theorem clash_append_null (ix : UniqueIndex) (column : String) (a b : Columns) :
    ix.clash (a ++ [(column, .null)]) (b ++ [(column, .null)]) = ix.clash a b := by
  unfold UniqueIndex.clash UniqueIndex.covers sameOn
  simp only [get_append_null]

theorem unique_addColumn {ts : TableState} {ix : Index} (h : ts.Unique ix) (column : Column) :
    (ts.addColumn column).Unique ix := by
  unfold TableState.Unique TableState.addColumn
  rw [List.pairwise_map]
  exact h.imp fun hab => (clash_append_null _ _ _ _).trans hab

theorem Ready.exec {l : List Statement} {cat cat' : Catalog} {s : Statement} (h : Ready l cat)
    (hx : cat.exec s = .ok cat') : Ready l cat' := by
  intro ix hix hu ts hts hname
  rcases exec_cases hx with ⟨rfl, _⟩ | ⟨t, _, _, rfl⟩ | ⟨_, _, _, rfl⟩ | ⟨n, _, rfl⟩ | ⟨table, column, _, _, rfl⟩
  · exact h ix hix hu ts hts hname
  · rcases List.mem_append.1 hts with hts | hts
    · exact h ix hix hu ts hts hname
    · rw [List.mem_singleton.1 hts]
      exact List.Pairwise.nil
  · exact h ix hix hu ts hts hname
  · exact h ix hix hu ts hts hname
  · obtain ⟨ts₀, hts₀, rfl⟩ := List.mem_map.1 hts
    by_cases ht : ts₀.schema.name == table
    · rw [if_pos ht] at hname ⊢
      exact unique_addColumn (h ix hix hu ts₀ hts₀ hname) column
    · rw [if_neg ht] at hname ⊢
      exact h ix hix hu ts₀ hts₀ hname

theorem find?_bare (cat : Catalog) (name : String) : cat.bare.tables.find? (·.schema.name == name) =
    (cat.tables.find? (·.schema.name == name)).map fun ts => { ts with rows := [] } := by
  show (cat.tables.map _).find? _ = _
  rw [List.find?_map]
  rfl

/-- Where the rows satisfy what it creates, a statement does to a catalog what it does without the rows. -/
theorem exec_bare {cat : Catalog} {s : Statement} (h : Ready [s] cat) :
    (cat.exec s).map Catalog.bare = cat.bare.exec s := by
  cases s with
  | createTable t =>
    have hany : cat.bare.tables.any (·.schema.name == t.name) = cat.tables.any (·.schema.name == t.name) := by
      show (cat.tables.map _).any _ = _
      rw [List.any_map]
      rfl
    simp only [Catalog.exec, hany]
    split
    · rfl
    · simp [Except.map, Catalog.bare]
  | createIndex ix =>
    have hindexes : cat.bare.indexes = cat.indexes := rfl
    simp only [Catalog.exec, hindexes, find?_bare]
    split
    · rfl
    · cases hfind : cat.tables.find? (·.schema.name == ix.table) with
      | none => rfl
      | some ts =>
        have hname : ts.schema.name = ix.table := by simpa using List.find?_some hfind
        have hunique : ¬ (ix.unique = true ∧ ¬ ts.Unique ix) := fun hu =>
          hu.2 (h ix (List.mem_singleton_self _) hu.1 ts (List.mem_of_find?_eq_some hfind) hname)
        have hnone : ¬ (ix.unique = true ∧ ¬ (⟨ts.schema, []⟩ : TableState).Unique ix) := fun hu =>
          hu.2 List.Pairwise.nil
        have hcols : ix.columns.all (⟨ts.schema, []⟩ : TableState).hasColumn = ix.columns.all ts.hasColumn := rfl
        simp only [Option.map_some, hcols, if_neg hunique, if_neg hnone]
        split
        · rfl
        · rfl
  | dropIndex name => rfl
  | addColumn table column =>
    simp only [Catalog.exec, find?_bare]
    cases cat.tables.find? (·.schema.name == table) with
    | none => rfl
    | some ts =>
      have hcol : (⟨ts.schema, []⟩ : TableState).hasColumn column.name = ts.hasColumn column.name := rfl
      simp only [Option.map_some, hcol]
      split
      · rfl
      · refine congrArg Except.ok ?_
        simp only [Catalog.bare, List.map_map, Catalog.mk.injEq, and_true]
        refine List.map_congr_left fun ts _ => ?_
        show (⟨(if ts.schema.name == table then ts.addColumn column else ts).schema, []⟩ : TableState) =
          if ts.schema.name == table then TableState.addColumn column ⟨ts.schema, []⟩ else ⟨ts.schema, []⟩
        split <;> rfl

/-- **The rows matter to nothing but the unique indexes**: a run is what it is without them. -/
theorem run_bare {l : List Statement} {cat : Catalog} (h : Ready l cat) :
    (cat.run l).map Catalog.bare = cat.bare.run l := by
  induction l generalizing cat with
  | nil => rfl
  | cons s l ih =>
    have hs : Ready [s] cat := fun ix hix => h ix (List.mem_singleton.1 hix ▸ List.mem_cons_self)
    have hhead := exec_bare hs
    show (cat.exec s >>= fun c => c.run l).map Catalog.bare = cat.bare.exec s >>= fun c => c.run l
    rw [← hhead]
    cases hx : cat.exec s with
    | error e => rfl
    | ok c =>
      have hl : Ready l c := fun ix hix => (h.exec hx) ix (List.mem_cons_of_mem _ hix)
      exact ih hl

/-! ## Rows a new index finds in order -/

/-- The rows have the columns of their table and satisfy the unique indexes. -/
structure Catalog.Sound (cat : Catalog) : Prop where
  columns : ∀ ts ∈ cat.tables, ∀ row ∈ ts.rows, row.map Prod.fst = ts.schema.columns.map (·.name)
  unique : ∀ ix ∈ cat.indexes, ix.unique = true → ∀ ts ∈ cat.tables, ts.schema.name = ix.table → ts.Unique ix

/-- A partial index covers no row of a table without the column it asks for. -/
def Index.coversNone (ix : Index) (ts : TableState) : Bool :=
  match ix.whereNotNull with
  | some c => !ts.hasColumn c
  | none => false

/-- The schema alone says that no rows clash in the index: a stricter index stands, or the index
covers none of them. -/
def Catalog.vouches (cat : Catalog) (ix : Index) : Bool :=
  (cat.indexes.any fun ix' => ix'.unique && ix'.table == ix.table && ix'.whereNotNull == ix.whereNotNull &&
    ix'.columns.all ix.columns.contains) ||
  cat.tables.all fun ts => ts.schema.name != ix.table || ix.coversNone ts

def Statement.vouched (cat : Catalog) : Statement → Bool
  | .createIndex ix => !ix.unique || cat.vouches ix
  | _ => true

/-- Rows that clash in an index clash in one of fewer columns. -/
theorem clash_of_subset {ix ix' : Index} (hw : ix'.whereNotNull = ix.whereNotNull)
    (hcols : ∀ c ∈ ix'.columns, c ∈ ix.columns) {a b : Columns} (h : ix.toUnique.clash a b = true) :
    ix'.toUnique.clash a b = true := by
  unfold UniqueIndex.clash at h ⊢
  rw [Bool.and_eq_true] at h ⊢
  constructor
  · have hcovers : ∀ row, ix'.toUnique.covers row = ix.toUnique.covers row := by
      intro row
      unfold UniqueIndex.covers Index.toUnique
      rw [hw]
    rw [hcovers, hcovers]
    exact h.1
  · refine List.all_eq_true.2 fun c hc => ?_
    exact List.all_eq_true.1 h.2 c (hcols c hc)

theorem get_of_notMem {row : Columns} {c : String} (h : c ∉ row.map Prod.fst) : row.get c = .null := by
  unfold Columns.get
  have hnone : row.lookup c = none := by
    rw [List.lookup_eq_none_iff]
    intro p hp
    refine bne_iff_ne.2 ?_
    rintro rfl
    exact h (List.mem_map_of_mem hp)
  rw [hnone]
  rfl

theorem covers_of_coversNone {cat : Catalog} (hs : cat.Sound) {ix : Index} {ts : TableState}
    (hts : ts ∈ cat.tables)
    (h : ix.coversNone ts = true) {row : Columns} (hrow : row ∈ ts.rows) : ix.toUnique.covers row = false := by
  unfold Index.coversNone at h
  cases hw : ix.whereNotNull with
  | none =>
    rw [hw] at h
    cases h
  | some c =>
    rw [hw] at h
    have hnull : row.get c = .null := by
      refine get_of_notMem ?_
      rw [hs.columns ts hts row hrow]
      intro hc
      obtain ⟨col, hcol, rfl⟩ := List.mem_map.1 hc
      have hhas : ts.hasColumn col.name = true := List.any_eq_true.2 ⟨col, hcol, beq_iff_eq.2 rfl⟩
      simp only [hhas, Bool.not_true, Bool.false_eq_true] at h
    unfold UniqueIndex.covers Index.toUnique
    rw [hw]
    show (row.get c != .null) = false
    rw [hnull]
    rfl

theorem unique_of_vouches {cat : Catalog} (hs : cat.Sound) {ix : Index} (h : cat.bare.vouches ix = true)
    {ts : TableState} (hts : ts ∈ cat.tables) (hname : ts.schema.name = ix.table) : ts.Unique ix := by
  rcases Bool.or_eq_true_iff.1 h with h | h
  · obtain ⟨ix', hix', h⟩ := List.any_eq_true.1 h
    simp only [Bool.and_eq_true, beq_iff_eq, List.all_eq_true, List.contains_iff_mem] at h
    obtain ⟨⟨⟨hunique, htable⟩, hw⟩, hcols⟩ := h
    refine (hs.unique ix' hix' hunique ts hts (hname.trans htable.symm)).imp fun hab => ?_
    by_contra hclash
    rw [clash_of_subset hw hcols (Bool.eq_true_of_not_eq_false hclash)] at hab
    cases hab
  · have hts' : (⟨ts.schema, []⟩ : TableState) ∈ cat.bare.tables :=
      List.mem_map_of_mem (f := fun ts : TableState => { ts with rows := [] }) hts
    have hnone : ix.coversNone ts = true := by
      rcases Bool.or_eq_true_iff.1 (List.all_eq_true.1 h _ hts') with h | h
      · exact absurd hname (bne_iff_ne.1 h)
      · exact h
    refine List.pairwise_of_forall_sublist fun {a b} hab => ?_
    unfold UniqueIndex.clash
    rw [covers_of_coversNone hs hts hnone (hab.subset List.mem_cons_self)]
    rfl

theorem ready_of_vouched {cat : Catalog} (hs : cat.Sound) {l : List Statement}
    (h : l.all (·.vouched cat.bare) = true) : Ready l cat := by
  intro ix hix hunique ts hts hname
  have hv : (!ix.unique || cat.bare.vouches ix) = true := List.all_eq_true.1 h _ hix
  rw [hunique] at hv
  exact unique_of_vouches hs hv hts hname

end Ddl
