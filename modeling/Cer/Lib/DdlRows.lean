import Cer.Lib.Ddl

/-!
# What schema statements do to rows

No statement takes a row away or changes a value in it: an added column appends a NULL to
each row of its table (`run_rows`).  A catalog is `Admitted` where its rows satisfy every
constraint that it declares; statements that add only nullable columns, and indexes that
the rows are ready for, keep it so (`Admitted.run`).
-/

namespace Ddl

open Sql

/-! ## Added columns -/

/-- The column that a statement adds to the table. -/
def Statement.added (table : String) : Statement → Option String
  | .addColumn t column => if t = table then some column.name else none
  | _ => none

/-- The columns that statements add to the table, in order. -/
def addedColumns (table : String) (l : List Statement) : List String := l.filterMap (·.added table)

def nulls (columns : List String) : Columns := columns.map fun c => (c, .null)

section rows
variable {cat cat' : Catalog} {ts : TableState}

theorem exec_rows {s : Statement} (h : cat.exec s = .ok cat') (hts : ts ∈ cat.tables) :
    ∃ ts' ∈ cat'.tables, ts'.schema.name = ts.schema.name ∧
      ts'.rows = ts.rows.map (· ++ nulls (addedColumns ts.schema.name [s])) := by
  have hnone : ∀ {s : Statement}, s.added ts.schema.name = none →
      ts.rows = ts.rows.map (· ++ nulls (addedColumns ts.schema.name [s])) := by
    intro s hs
    have hempty : addedColumns ts.schema.name [s] = [] := List.filterMap_cons_none hs
    rw [hempty]
    show ts.rows = ts.rows.map (· ++ [])
    simp
  rcases exec_cases h with ⟨rfl, hset⟩ | ⟨t, rfl, _, rfl⟩ | ⟨ix, rfl, _, rfl⟩ | ⟨n, rfl, rfl⟩ |
    ⟨table, column, rfl, _, rfl⟩
  · refine ⟨ts, hts, rfl, hnone ?_⟩
    cases s with
    | addColumn table column => exact hset.elim
    | _ => rfl
  · exact ⟨ts, List.mem_append_left _ hts, rfl, hnone rfl⟩
  · exact ⟨ts, hts, rfl, hnone rfl⟩
  · exact ⟨ts, hts, rfl, hnone rfl⟩
  · refine ⟨_, List.mem_map_of_mem hts, ?_⟩
    by_cases ht : ts.schema.name = table
    · have hadded : addedColumns ts.schema.name [.addColumn table column] = [column.name] :=
        List.filterMap_cons_some (if_pos ht.symm)
      rw [if_pos (beq_iff_eq.2 ht), hadded]
      exact ⟨rfl, rfl⟩
    · rw [if_neg (by simpa using ht)]
      exact ⟨rfl, hnone (if_neg (Ne.symm ht))⟩

/-- **Rows stay**, with a NULL in each column added to their table. -/
theorem run_rows {l : List Statement} (h : cat.run l = .ok cat') (hts : ts ∈ cat.tables) :
    ∃ ts' ∈ cat'.tables, ts'.schema.name = ts.schema.name ∧
      ts'.rows = ts.rows.map (· ++ nulls (addedColumns ts.schema.name l)) := by
  induction l generalizing cat ts with
  | nil =>
    cases h
    refine ⟨ts, hts, rfl, ?_⟩
    show ts.rows = ts.rows.map (· ++ [])
    simp
  | cons s l ih =>
    have hsplit : cat.run ([s] ++ l) = .ok cat' := h
    obtain ⟨mid, hs, hl⟩ := run_append_eq_ok.1 hsplit
    rw [run_singleton] at hs
    obtain ⟨ts₁, hts₁, hname₁, hrows₁⟩ := exec_rows hs hts
    obtain ⟨ts₂, hts₂, hname₂, hrows₂⟩ := ih hl hts₁
    refine ⟨ts₂, hts₂, hname₂.trans hname₁, ?_⟩
    have hcolumns : addedColumns ts.schema.name (s :: l) =
        addedColumns ts.schema.name [s] ++ addedColumns ts.schema.name l :=
      List.filterMap_append (l := [s])
    rw [hrows₂, hname₁, hrows₁, List.map_map, hcolumns]
    refine List.map_congr_left fun row _ => ?_
    show row ++ nulls _ ++ nulls _ = row ++ nulls _
    unfold nulls
    rw [List.append_assoc, List.map_append]

end rows

/-! ## Constraints -/

/-- The rows of the tables of a name. -/
def Catalog.rowsOf (cat : Catalog) (name : String) : List Columns :=
  (cat.tables.filter (·.schema.name == name)).flatMap (·.rows)

theorem mem_rowsOf {cat : Catalog} {name : String} {row : Columns} :
    row ∈ cat.rowsOf name ↔ ∃ ts ∈ cat.tables, ts.schema.name = name ∧ row ∈ ts.rows := by
  unfold Catalog.rowsOf
  rw [List.mem_flatMap]
  constructor
  · rintro ⟨ts, hts, hrow⟩
    obtain ⟨hts, hname⟩ := List.mem_filter.1 hts
    exact ⟨ts, hts, beq_iff_eq.1 hname, hrow⟩
  · rintro ⟨ts, hts, hname, hrow⟩
    exact ⟨ts, List.mem_filter.2 ⟨hts, beq_iff_eq.2 hname⟩, hrow⟩

/-- The rows satisfy every constraint that the catalog declares. -/
structure Catalog.Admitted (cat : Catalog) : Prop extends cat.Sound where
  notNull : ∀ ts ∈ cat.tables, ∀ c ∈ ts.schema.columns, c.notNull = true → ∀ row ∈ ts.rows, row.get c.name ≠ .null
  primaryKey : ∀ ts ∈ cat.tables, ts.rows.Pairwise fun a b => sameOn ts.schema.primaryKey a b = false
  foreignKeys : ∀ ts ∈ cat.tables, ∀ fk ∈ ts.schema.foreignKeys, ∀ row ∈ ts.rows,
      fk.satisfied cat.rowsOf row = true

/-- The statement adds no column that forbids NULL. -/
def Statement.addsNullable : Statement → Bool
  | .addColumn _ column => !column.notNull
  | _ => true

theorem sameOn_append_null (columns : List String) (c : String) (a b : Columns) :
    sameOn columns (a ++ [(c, .null)]) (b ++ [(c, .null)]) = sameOn columns a b := by
  unfold sameOn
  simp only [get_append_null]

/-- A foreign key stays satisfied where every parent row keeps its values. -/
theorem satisfied_mono {fk : ForeignKey String} {parents parents' : String → List Columns} {row row' : Columns}
    (hrow : row'.get fk.column = row.get fk.column)
    (hparents : ∀ p ∈ parents fk.parent, ∃ p' ∈ parents' fk.parent, p'.get fk.parentColumn = p.get fk.parentColumn)
    (h : fk.satisfied parents row = true) : fk.satisfied parents' row' = true := by
  unfold ForeignKey.satisfied at h ⊢
  rw [hrow]
  rcases Bool.or_eq_true_iff.1 h with h | h
  · exact Bool.or_eq_true_iff.2 (Or.inl h)
  · obtain ⟨p, hp, heq⟩ := List.any_eq_true.1 h
    obtain ⟨p', hp', hget⟩ := hparents p hp
    refine Bool.or_eq_true_iff.2 (Or.inr (List.any_eq_true.2 ⟨p', hp', ?_⟩))
    rw [hget]
    exact heq

theorem Catalog.Admitted.createTable {cat : Catalog} (h : cat.Admitted) (t : TableDef) :
    Catalog.Admitted { cat with tables := cat.tables ++ [⟨t, []⟩] } := by
  have hsplit : ∀ {P : TableState → Prop}, (∀ ts ∈ cat.tables, P ts) → P ⟨t, []⟩ →
      ∀ ts ∈ cat.tables ++ [⟨t, []⟩], P ts := by
    intro P hold hnew ts hts
    rcases List.mem_append.1 hts with hts | hts
    · exact hold ts hts
    · rw [List.mem_singleton.1 hts]
      exact hnew
  refine ⟨⟨hsplit h.columns (by simp), fun ix hix hu => hsplit (h.unique ix hix hu) fun _ => List.Pairwise.nil⟩,
    hsplit h.notNull (by simp), hsplit h.primaryKey List.Pairwise.nil,
    hsplit (fun ts hts fk hfk row hrow => ?_) (by simp)⟩
  refine satisfied_mono rfl (fun p hp => ⟨p, ?_, rfl⟩) (h.foreignKeys ts hts fk hfk row hrow)
  obtain ⟨ps, hps, hname, hp⟩ := mem_rowsOf.1 hp
  exact mem_rowsOf.2 ⟨ps, List.mem_append_left _ hps, hname, hp⟩

/-- A change to each table that leaves its values, its keys and what its columns forbid. -/
theorem Catalog.Admitted.addColumn {cat : Catalog} (h : cat.Admitted) (table : String) {column : Column}
    (hnull : column.notNull = false) :
    Catalog.Admitted
      { cat with tables := cat.tables.map fun ts =>
                  if ts.schema.name == table then ts.addColumn column else ts } := by
  have hsplit : ∀ {P : TableState → Prop}, (∀ ts ∈ cat.tables, P ts) → (∀ ts, P ts → P (ts.addColumn column)) →
      ∀ ts ∈ cat.tables.map fun ts => if ts.schema.name == table then ts.addColumn column else ts, P ts := by
    intro P hold hadd ts hts
    obtain ⟨old, hin, rfl⟩ := List.mem_map.1 hts
    split
    · exact hadd old (hold old hin)
    · exact hold old hin
  have hparents : ∀ name, ∀ p ∈ cat.rowsOf name, ∃ p' ∈ Catalog.rowsOf
      { cat with tables := cat.tables.map fun ts =>
                  if ts.schema.name == table then ts.addColumn column else ts } name,
        ∀ c, p'.get c = p.get c := by
    intro name p hp
    obtain ⟨ps, hps, hname, hp⟩ := mem_rowsOf.1 hp
    by_cases ht : ps.schema.name == table
    · refine ⟨p ++ [(column.name, .null)], mem_rowsOf.2 ⟨ps.addColumn column, ?_, hname, List.mem_map_of_mem hp⟩,
        get_append_null p column.name⟩
      exact List.mem_map.2 ⟨ps, hps, if_pos ht⟩
    · exact ⟨p, mem_rowsOf.2 ⟨ps, List.mem_map.2 ⟨ps, hps, if_neg ht⟩, hname, hp⟩, fun _ => rfl⟩
  refine ⟨⟨hsplit h.columns fun ts hcols row hrow => ?_,
    fun ix hix hu => hsplit (h.unique ix hix hu) fun ts huniq hname =>
    unique_addColumn (huniq hname) column⟩, hsplit h.notNull fun ts hnn c hc hcn row hrow => ?_,
    hsplit h.primaryKey fun ts hpk => ?_,
    hsplit (fun ts hts fk hfk row hrow => ?_) fun ts hfks fk hfk row hrow => ?_⟩
  · obtain ⟨old, hin, rfl⟩ := List.mem_map.1 hrow
    show (old ++ [_]).map Prod.fst = (ts.schema.columns ++ [column]).map (·.name)
    rw [List.map_append, List.map_append, hcols old hin]
    rfl
  · obtain ⟨old, hin, rfl⟩ := List.mem_map.1 hrow
    rw [get_append_null]
    rcases List.mem_append.1 hc with hc | hc
    · exact hnn c hc hcn old hin
    · rw [List.mem_singleton.1 hc, hnull] at hcn
      cases hcn
  · show (ts.rows.map _).Pairwise _
    rw [List.pairwise_map]
    exact hpk.imp fun hab => (sameOn_append_null _ _ _ _).trans hab
  · refine satisfied_mono rfl (fun p hp => ?_) (h.foreignKeys ts hts fk hfk row hrow)
    obtain ⟨p', hp', hget⟩ := hparents _ p hp
    exact ⟨p', hp', hget _⟩
  · obtain ⟨old, hin, rfl⟩ := List.mem_map.1 hrow
    exact satisfied_mono (get_append_null old column.name _) (fun p hp => ⟨p, hp, rfl⟩) (hfks fk hfk old hin)

theorem Catalog.Admitted.exec {cat cat' : Catalog} {s : Statement} (h : cat.Admitted) (hready : Ready [s] cat)
    (hnull : s.addsNullable = true) (hx : cat.exec s = .ok cat') : cat'.Admitted := by
  rcases exec_cases hx with ⟨rfl, _⟩ | ⟨t, _, _, rfl⟩ | ⟨ix, rfl, _, rfl⟩ | ⟨n, _, rfl⟩ |
    ⟨table, column, rfl, _, rfl⟩
  · exact h
  · exact h.createTable t
  · refine ⟨⟨h.columns, fun ix' hix' hu => ?_⟩, h.notNull, h.primaryKey, h.foreignKeys⟩
    rcases List.mem_append.1 hix' with hix' | hix'
    · exact h.unique ix' hix' hu
    · rw [List.mem_singleton.1 hix'] at hu ⊢
      exact hready ix (List.mem_singleton_self _) hu
  · exact ⟨⟨h.columns, fun ix' hix' hu => h.unique ix' (List.mem_filter.1 hix').1 hu⟩, h.notNull, h.primaryKey,
      h.foreignKeys⟩
  · exact h.addColumn table (by simpa [Statement.addsNullable] using hnull)

/-- **Rows stay admitted.** -/
theorem Catalog.Admitted.run {cat cat' : Catalog} {l : List Statement} (h : cat.Admitted) (hready : Ready l cat)
    (hnull : l.all (·.addsNullable) = true) (hx : cat.run l = .ok cat') : cat'.Admitted := by
  induction l generalizing cat with
  | nil =>
    cases hx
    exact h
  | cons s l ih =>
    have hsplit : cat.run ([s] ++ l) = .ok cat' := hx
    obtain ⟨mid, hs, hl⟩ := run_append_eq_ok.1 hsplit
    rw [run_singleton] at hs
    rw [List.all_cons, Bool.and_eq_true] at hnull
    have hhead : Ready [s] cat := fun ix hix => hready ix (List.mem_singleton.1 hix ▸ List.mem_cons_self)
    exact ih (h.exec hhead hnull.1 hs) (fun ix hix => (hready.exec hs) ix (List.mem_cons_of_mem _ hix)) hnull.2 hl

end Ddl
