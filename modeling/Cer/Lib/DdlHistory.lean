import Cer.Lib.Ddl

/-!
# Schema statements executed by many

Statements of a list `l`, executed by anyone in any order.  What a statement builds stays
(`Done`) until a statement that undoes it is executed; the statements executed and not
undone since are `Standing`.  Where a name is given to one object of the list
(`NamesOnce`), a statement once executed is done, or else undone by a standing one
(`Traced`).
-/

namespace Ddl

open Sql

/-- What the statement is for is there: its table with its columns, its index, no index of the name, its column. -/
def Statement.Done (cat : Catalog) : Statement → Prop
  | .createTable t => ∃ ts ∈ cat.tables, ts.schema.name = t.name ∧ ∀ c ∈ t.columns, c ∈ ts.schema.columns
  | .createIndex ix => ix ∈ cat.indexes
  | .dropIndex name => ∀ ix ∈ cat.indexes, ix.name ≠ name
  | .addColumn table column => ∃ ts ∈ cat.tables, ts.schema.name = table ∧ column ∈ ts.schema.columns

/-- Two statements create something under one name. -/
def Statement.sameName : Statement → Statement → Bool
  | .createTable t, .createTable t' => t.name == t'.name
  | .createIndex ix, .createIndex ix' => ix.name == ix'.name
  | _, _ => false

/-- A name is given to one table, and to one index. -/
def NamesOnce (l : List Statement) : Prop := ∀ s ∈ l, ∀ s' ∈ l, s.sameName s' = true → s = s'

instance (l : List Statement) : Decidable (NamesOnce l) := inferInstanceAs (Decidable (∀ s ∈ l, ∀ s' ∈ l, _ → _))

/-- Every table and every index of the catalog stems from the list. -/
structure Genuine (l : List Statement) (cat : Catalog) : Prop where
  tables : ∀ ts ∈ cat.tables, ∃ t, .createTable t ∈ l ∧ t.name = ts.schema.name ∧
      ∀ c ∈ t.columns, c ∈ ts.schema.columns
  indexes : ∀ ix ∈ cat.indexes, .createIndex ix ∈ l

variable {l : List Statement} {cat cat' : Catalog}

theorem Genuine.exec (h : Genuine l cat) {s : Statement} (hs : s ∈ l) (hx : cat.exec s = .ok cat') :
    Genuine l cat' := by
  rcases exec_cases hx with ⟨rfl, _⟩ | ⟨t, rfl, _, rfl⟩ | ⟨ix, rfl, _, rfl⟩ | ⟨n, _, rfl⟩ |
    ⟨table, column, _, _, rfl⟩
  · exact h
  · refine ⟨fun ts hts => ?_, h.indexes⟩
    rcases List.mem_append.1 hts with hts | hts
    · exact h.tables ts hts
    · rw [List.mem_singleton.1 hts]
      exact ⟨t, hs, rfl, fun _ hc => hc⟩
  · refine ⟨h.tables, fun ix' hix => ?_⟩
    rcases List.mem_append.1 hix with hix | hix
    · exact h.indexes ix' hix
    · rw [List.mem_singleton.1 hix]
      exact hs
  · exact ⟨h.tables, fun ix hix => h.indexes ix (List.mem_filter.1 hix).1⟩
  · refine ⟨fun ts hts => ?_, h.indexes⟩
    obtain ⟨ts₀, hts₀, rfl⟩ := List.mem_map.1 hts
    obtain ⟨t, ht, hname, hcols⟩ := h.tables ts₀ hts₀
    split
    · exact ⟨t, ht, hname, fun c hc => List.mem_append_left _ (hcols c hc)⟩
    · exact ⟨t, ht, hname, hcols⟩

/-- An executed statement is done, whether it found its object or made it. -/
theorem done_of_exec (hg : Genuine l cat) (hn : NamesOnce l) {s : Statement} (hs : s ∈ l)
    (hx : cat.exec s = .ok cat') :
    s.Done cat' := by
  rcases exec_cases hx with ⟨rfl, hset⟩ | ⟨t, rfl, _, rfl⟩ | ⟨ix, rfl, _, rfl⟩ | ⟨n, rfl, rfl⟩ |
    ⟨table, column, rfl, ⟨ts, hts, hname⟩, rfl⟩
  · cases s with
    | createTable t =>
      obtain ⟨ts, hts, hname⟩ := hset
      obtain ⟨t', ht', hname', hcols⟩ := hg.tables ts hts
      have heq := hn _ hs _ ht' (beq_iff_eq.2 (hname.symm.trans hname'.symm))
      cases heq
      exact ⟨ts, hts, hname, hcols⟩
    | createIndex ix =>
      obtain ⟨ix', hix, hname⟩ := hset
      have heq := hn _ (hg.indexes ix' hix) _ hs (beq_iff_eq.2 hname)
      cases heq
      exact hix
    | dropIndex n => exact hset
    | addColumn table column => exact hset.elim
  · exact ⟨_, List.mem_append_right _ (List.mem_singleton_self _), rfl, fun _ hc => hc⟩
  · exact List.mem_append_right _ (List.mem_singleton_self _)
  · intro ix hix
    exact bne_iff_ne.1 (List.mem_filter.1 hix).2
  · refine ⟨_, List.mem_map_of_mem hts, ?_⟩
    rw [if_pos (beq_iff_eq.2 hname)]
    exact ⟨hname, List.mem_append_right _ (List.mem_singleton_self _)⟩

/-- What is done stays done under a statement that does not undo it. -/
theorem done_kept {s s' : Statement} (h : s.Done cat) (hc : s.compatible s' = true) (hx : cat.exec s' = .ok cat') :
    s.Done cat' := by
  cases s with
  | createTable t =>
    obtain ⟨ts, hts, hname, hcols⟩ := h
    obtain ⟨ts', hts', hname', hcols'⟩ := table_kept hx hts
    exact ⟨ts', hts', hname'.trans hname, fun c hmem => hcols' c (hcols c hmem)⟩
  | createIndex ix =>
    rcases exec_cases hx with ⟨rfl, _⟩ | ⟨t, _, _, rfl⟩ | ⟨_, _, _, rfl⟩ | ⟨n, rfl, rfl⟩ |
      ⟨table, column, _, _, rfl⟩
    · exact h
    · exact h
    · exact List.mem_append_left _ h
    · exact List.mem_filter.2 ⟨h, hc⟩
    · exact h
  | dropIndex n =>
    have hset : (Statement.dropIndex n).Settled cat := h
    exact settled_mono hx hc hset
  | addColumn table column =>
    obtain ⟨ts, hts, hname, hcol⟩ := h
    obtain ⟨ts', hts', hname', hcols'⟩ := table_kept hx hts
    exact ⟨ts', hts', hname'.trans hname, hcols' column hcol⟩

/-- Of two statements of which one undoes the other, one is not done. -/
theorem not_done_of_incompatible {s s' : Statement} (h : s'.Done cat) (hc : s.compatible s' = false) :
    ¬ s.Done cat := by
  intro hs
  cases s with
  | createTable t => cases hc
  | createIndex ix =>
    cases s' with
    | dropIndex n => exact h ix hs (bne_eq_false_iff_eq.1 hc)
    | createTable t => cases hc
    | createIndex ix' => cases hc
    | addColumn table column => cases hc
  | dropIndex n =>
    cases s' with
    | createIndex ix => exact hs ix h (bne_eq_false_iff_eq.1 hc)
    | createTable t => cases hc
    | dropIndex n' => cases hc
    | addColumn table column => cases hc
  | addColumn table column => cases hc

/-- What undoes the undoing of a statement is that statement. -/
theorem undo_undo (hn : NamesOnce l) {s s' s'' : Statement} (hs : s ∈ l) (hs'' : s'' ∈ l)
    (h : s.compatible s' = false) (h' : s'.compatible s'' = false) : s'' = s := by
  cases s with
  | createTable t => cases h
  | addColumn table column => cases h
  | createIndex ix =>
    cases s' with
    | dropIndex n =>
      cases s'' with
      | createIndex ix' =>
        have hname : ix'.name = ix.name := (bne_eq_false_iff_eq.1 h').trans (bne_eq_false_iff_eq.1 h).symm
        exact hn _ hs'' _ hs (beq_iff_eq.2 hname)
      | createTable t => cases h'
      | dropIndex n' => cases h'
      | addColumn table column => cases h'
    | createTable t => cases h
    | createIndex ix' => cases h
    | addColumn table column => cases h
  | dropIndex n =>
    cases s' with
    | createIndex ix =>
      cases s'' with
      | dropIndex n' =>
        have hname : ix.name = n' := bne_eq_false_iff_eq.1 h'
        rw [← hname, bne_eq_false_iff_eq.1 h]
      | createTable t => cases h'
      | createIndex ix' => cases h'
      | addColumn table column => cases h'
    | createTable t => cases h
    | dropIndex n' => cases h
    | addColumn table column => cases h

/-! ## Executed and not undone since -/

/-- The statement was executed, and none that undoes it after it. -/
def Standing (log : List Statement) (s : Statement) : Prop :=
  ∃ before after, log = before ++ s :: after ∧ ∀ s' ∈ after, s.compatible s' = true

/-- A standing statement undid it. -/
def Undone (log : List Statement) (s : Statement) : Prop := ∃ s', s.compatible s' = false ∧ Standing log s'

theorem standing_snoc {log : List Statement} {x s : Statement} :
    Standing (log ++ [x]) s ↔ x = s ∨ Standing log s ∧ s.compatible x = true := by
  constructor
  · rintro ⟨before, after, hlog, hafter⟩
    rcases List.eq_nil_or_concat after with rfl | ⟨after, y, rfl⟩
    · exact Or.inl (List.cons.inj (List.append_inj' hlog rfl).2).1
    · rw [List.concat_eq_append, ← List.cons_append, ← List.append_assoc] at hlog
      obtain ⟨hinit, hy⟩ := List.append_inj' hlog rfl
      cases hy
      rw [List.concat_eq_append] at hafter
      refine Or.inr ⟨⟨before, after, hinit, fun s' hs' => hafter s' (List.mem_append_left _ hs')⟩, ?_⟩
      exact hafter x (List.mem_append_right _ (List.mem_singleton_self _))
  · rintro (rfl | ⟨⟨before, after, rfl, hafter⟩, hx⟩)
    · refine ⟨log, [], rfl, fun s' hs' => ?_⟩
      cases hs'
    · refine ⟨before, after ++ [x], by simp, fun s' hs' => ?_⟩
      rcases List.mem_append.1 hs' with hs' | hs'
      · exact hafter s' hs'
      · rw [List.mem_singleton.1 hs']
        exact hx

theorem Standing.mem {log : List Statement} {s : Statement} (h : Standing log s) : s ∈ log := by
  obtain ⟨before, after, rfl, _⟩ := h
  exact List.mem_append_right _ List.mem_cons_self

/-- The catalog is what the executed statements made of an empty one. -/
structure Traced (l log : List Statement) (cat : Catalog) : Prop where
  genuine : Genuine l cat
  listed : ∀ s ∈ log, s ∈ l
  standing : ∀ s, Standing log s → s.Done cat
  executed : ∀ s ∈ log, s.Done cat ∨ Undone log s

/-- What was done is done, or undone by a standing statement. -/
theorem Traced.done_or_undone {log : List Statement} (h : Traced l log cat) (hn : NamesOnce l) {s x : Statement}
    (hs : s ∈ l) (hx : x ∈ l) (hexec : cat.exec x = .ok cat') (hdone : s.Done cat ∨ Undone log s) :
    s.Done cat' ∨ Undone (log ++ [x]) s := by
  by_cases hc : s.compatible x = true
  · rcases hdone with hdone | ⟨s', hs', hstanding⟩
    · exact Or.inl (done_kept hdone hc hexec)
    · by_cases hc' : s'.compatible x = true
      · exact Or.inr ⟨s', hs', standing_snoc.2 (Or.inr ⟨hstanding, hc'⟩)⟩
      · have hsame : x = s := undo_undo hn hs hx hs' (Bool.eq_false_of_not_eq_true hc')
        rw [hsame] at hexec
        exact Or.inl (done_of_exec h.genuine hn hs hexec)
  · exact Or.inr ⟨x, Bool.eq_false_of_not_eq_true hc, standing_snoc.2 (Or.inl rfl)⟩

theorem Traced.exec {log : List Statement} (h : Traced l log cat) (hn : NamesOnce l) {x : Statement} (hx : x ∈ l)
    (hexec : cat.exec x = .ok cat') : Traced l (log ++ [x]) cat' where
  genuine := h.genuine.exec hx hexec
  listed s hs := by
    rcases List.mem_append.1 hs with hs | hs
    · exact h.listed s hs
    · rw [List.mem_singleton.1 hs]
      exact hx
  standing s hs := by
    rcases standing_snoc.1 hs with rfl | ⟨hs, hc⟩
    · exact done_of_exec h.genuine hn hx hexec
    · exact done_kept (h.standing s hs) hc hexec
  executed s hs := by
    rcases List.mem_append.1 hs with hs | hs
    · exact h.done_or_undone hn (h.listed s hs) hx hexec (h.executed s hs)
    · rw [List.mem_singleton.1 hs]
      exact Or.inl (done_of_exec h.genuine hn hx hexec)

theorem traced_empty (l : List Statement) : Traced l [] ⟨[], []⟩ where
  genuine := ⟨by simp, by simp⟩
  listed := by simp
  standing s hs := absurd hs.mem (by simp)
  executed := by simp

/-- **A run from an empty catalog**, of statements of the list in any order. -/
theorem traced_run (hn : NamesOnce l) {log log' : List Statement} (h : Traced l log cat) (hl : ∀ s ∈ log', s ∈ l)
    (hx : cat.run log' = .ok cat') : Traced l (log ++ log') cat' := by
  induction log' generalizing log cat with
  | nil =>
    cases hx
    rwa [List.append_nil]
  | cons s log' ih =>
    have hx : (cat.exec s >>= fun c => c.run log') = .ok cat' := hx
    cases hs : cat.exec s with
    | error e =>
      rw [hs] at hx
      cases hx
    | ok c =>
      rw [hs] at hx
      have hrest := ih (h.exec hn (hl s List.mem_cons_self) hs) (fun x hx => hl x (List.mem_cons_of_mem _ hx)) hx
      rwa [List.append_assoc] at hrest

/-! ## Other rows -/

/-- The same schema over other rows. -/
def Catalog.withRows (cat : Catalog) (rows : String → List Columns) : Catalog :=
  { cat with tables := cat.tables.map fun ts => { ts with rows := rows ts.schema.name } }

theorem exists_withRows {rows : String → List Columns} {Q : TableDef → Prop} :
    (∃ ts ∈ (cat.withRows rows).tables, Q ts.schema) ↔ ∃ ts ∈ cat.tables, Q ts.schema := by
  constructor
  · rintro ⟨ts, hts, h⟩
    obtain ⟨ts₀, hts₀, rfl⟩ := List.mem_map.1 hts
    exact ⟨ts₀, hts₀, h⟩
  · rintro ⟨ts, hts, h⟩
    exact ⟨_, List.mem_map_of_mem hts, h⟩

theorem done_withRows {s : Statement} {rows : String → List Columns} : s.Done (cat.withRows rows) ↔
    s.Done cat := by
  cases s with
  | createTable t => exact exists_withRows (Q := fun d => d.name = t.name ∧ ∀ c ∈ t.columns, c ∈ d.columns)
  | createIndex ix => exact Iff.rfl
  | dropIndex n => exact Iff.rfl
  | addColumn table column => exact exists_withRows (Q := fun d => d.name = table ∧ column ∈ d.columns)

theorem genuine_withRows {rows : String → List Columns} : Genuine l (cat.withRows rows) ↔ Genuine l cat := by
  constructor
  · intro h
    refine ⟨fun ts hts => ?_, h.indexes⟩
    have hmem : (⟨ts.schema, rows ts.schema.name⟩ : TableState) ∈ (cat.withRows rows).tables :=
      List.mem_map_of_mem (f := fun ts : TableState => { ts with rows := rows ts.schema.name }) hts
    obtain ⟨t, ht, hname, hcols⟩ := h.tables _ hmem
    exact ⟨t, ht, hname, hcols⟩
  · intro h
    refine ⟨fun ts hts => ?_, h.indexes⟩
    obtain ⟨ts₀, hts₀, rfl⟩ := List.mem_map.1 hts
    exact h.tables ts₀ hts₀

theorem traced_withRows {log : List Statement} {rows : String → List Columns} :
    Traced l log (cat.withRows rows) ↔ Traced l log cat := by
  constructor
  · intro h
    exact ⟨genuine_withRows.1 h.genuine, h.listed, fun s hs => done_withRows.1 (h.standing s hs),
      fun s hs => (h.executed s hs).imp_left done_withRows.1⟩
  · intro h
    exact ⟨genuine_withRows.2 h.genuine, h.listed, fun s hs => done_withRows.2 (h.standing s hs),
      fun s hs => (h.executed s hs).imp_left done_withRows.2⟩

end Ddl
