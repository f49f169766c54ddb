import Cer.Lib.DdlRows
import Cer.Metadata.Constraints
import Cer.Metadata.Resumption

/-!
# Upgrades of populated databases

The files after version `k` are executed on a database whose rows satisfy the constraints
of the first `k`.  They succeed whatever the rows are (`Completed.upgrade`), the rows stay
admitted, and as rows of the store's tables they have distinct identities and keys and no
dangling references (`Database.Admitted.lawful`).
-/

namespace Cer

open Ddl Sql

/-! ## The files that remain -/

/-- The statements of the versions after `k`. -/
def laterStatements (k : Nat) : List Statement := ((migrations fun _ => "").drop k).flatMap (·.statements)

theorem statements_drop (sums : Nat → String) (k : Nat) :
    ((migrations sums).drop k).flatMap (·.statements) = laterStatements k := by
  have hmap : (migrations sums).map (·.statements) = (migrations fun _ => "").map (·.statements) := rfl
  unfold laterStatements
  rw [List.flatMap_def, List.flatMap_def, List.map_drop, List.map_drop, hmap]

theorem laterStatements_addsNullable (k : Nat) : (laterStatements k).all (·.addsNullable) = true := by
  have hall : ((migrations fun _ => "").flatMap (·.statements)).all (·.addsNullable) = true := by decide +kernel
  refine List.all_eq_true.2 fun s hs => List.all_eq_true.1 hall s ?_
  obtain ⟨m, hm, hs⟩ := List.mem_flatMap.1 hs
  exact List.mem_flatMap.2 ⟨m, List.mem_of_mem_drop hm, hs⟩

section upgrade
variable {sums : Nat → String} {k : Nat} {σ : SchemaState} {c : Catalog}

theorem Completed.ready (h : Completed sums k σ) : Ready (laterStatements k) σ.catalog := by
  obtain ⟨_, hvouched, _⟩ := schemaAfter_remaining sums h.le
  rw [← h.schema, statements_drop] at hvouched
  exact ready_of_vouched h.rows hvouched

/-- **The remaining versions are applied**, whatever the rows. -/
theorem Completed.upgrade (h : Completed sums k σ) : ∃ c, σ.catalog.run (laterStatements k) = .ok c ∧
    applyMigrations (migrations sums) σ = .ok (some 4, ⟨c, some ((migrations sums).map (·.recorded))⟩) := by
  obtain ⟨c, hc⟩ := h.remaining
  have hdone := h.finished hc
  rw [statements_drop] at hc
  exact ⟨c, hc, hdone⟩

theorem Completed.upgraded_bare (h : Completed sums k σ) (hc : σ.catalog.run (laterStatements k) = .ok c) :
    c.bare = schemaAfter 4 := by
  obtain ⟨hrun, _, _⟩ := schemaAfter_remaining sums h.le
  have hbare := run_bare h.ready
  rw [hc, h.schema, ← statements_drop sums, hrun] at hbare
  exact Except.ok.inj hbare

end upgrade

/-! ## The catalog's rows as the store's -/

/-- The rows of the store's tables are those of the catalog. -/
def Database.Stands (db : Database) (cat : Catalog) : Prop :=
  ∀ t, ∃ ts ∈ cat.tables, ts.schema.name = (schemaOf t).name ∧ ts.rows = db.table t

/-- They are those of a catalog of version `k`, with NULL in the columns that come later. -/
def Database.StandsAfter (db : Database) (k : Nat) (cat : Catalog) : Prop :=
  ∀ t, ∃ ts ∈ cat.tables, ts.schema.name = (schemaOf t).name ∧
    db.table t = ts.rows.map (· ++ nulls (addedColumns (schemaOf t).name (laterStatements k)))

theorem Database.StandsAfter.stands {db : Database} {k : Nat} {cat c : Catalog} (h : db.StandsAfter k cat)
    (hc : cat.run (laterStatements k) = .ok c) : db.Stands c := by
  intro t
  obtain ⟨ts, hts, hname, hrows⟩ := h t
  obtain ⟨ts', hts', hname', hrows'⟩ := run_rows hc hts
  exact ⟨ts', hts', hname'.trans hname, by rw [hrows', hname, hrows]⟩

/-- The rows satisfy the constraints of the store's tables. -/
structure Database.Admitted (db : Database) : Prop where
  primaryKey : ∀ t, (db.table t).Pairwise fun a b => sameOn (schemaOf t).primaryKey a b = false
  uniques : ∀ t, ∀ ix ∈ (schemaOf t).uniques, (db.table t).Pairwise fun a b => ix.clash a b = false
  foreignKeys : ∀ t, ∀ fk ∈ (schemaOf t).foreignKeys, ∀ row ∈ db.table t, fk.satisfied db.table row = true

section stands
variable {db : Database} {c : Catalog}

/-- The table of a name, in a catalog of the shipped schema. -/
theorem table_spec (hbare : c.bare = schemaAfter 4) (hd : NamesDistinct c) (t : TableName) {ts : TableState}
    (hts : ts ∈ c.tables) (hname : ts.schema.name = (schemaOf t).name) :
    ts.schema.primaryKey = (schemaOf t).primaryKey ∧
      (∀ ix ∈ (schemaOf t).uniques, ∃ ix' ∈ c.indexes, ix'.unique = true ∧
        ts.schema.name = ix'.table ∧ ix'.toUnique = ix) ∧
      ts.schema.foreignKeys = (schemaOf t).foreignKeys.map fun fk =>
        ⟨fk.column, (schemaOf fk.parent).name, fk.parentColumn⟩ := by
  obtain ⟨ts₄, hts₄, hname₄, _, hpk, huniques, hfks⟩ := migrated_constraints t
  rw [← hbare] at hts₄ huniques
  obtain ⟨ts', hts', rfl⟩ := List.mem_map.1 hts₄
  obtain rfl : ts' = ts := List.inj_on_of_nodup_map hd hts' hts (hname₄.trans hname.symm)
  refine ⟨hpk, fun ix hix => ?_, hfks⟩
  rw [← huniques] at hix
  obtain ⟨ix', hix', rfl⟩ := List.mem_map.1 hix
  obtain ⟨hix', hu⟩ := List.mem_filter.1 hix'
  rw [Bool.and_eq_true, beq_iff_eq] at hu
  exact ⟨ix', hix', hu.1, hu.2.symm, rfl⟩

theorem Database.Stands.admitted (h : db.Stands c) (hbare : c.bare = schemaAfter 4) (hd : NamesDistinct c)
    (ha : c.Admitted) : db.Admitted := by
  have hrowsOf : ∀ t, ∀ p ∈ c.rowsOf (schemaOf t).name, p ∈ db.table t := by
    intro t p hp
    obtain ⟨ts, hts, hname, hp⟩ := mem_rowsOf.1 hp
    obtain ⟨ts', hts', hname', hrows⟩ := h t
    obtain rfl : ts = ts' := List.inj_on_of_nodup_map hd hts hts' (hname.trans hname'.symm)
    exact hrows ▸ hp
  refine ⟨fun t => ?_, fun t ix hix => ?_, fun t fk hfk row hrow => ?_⟩
  · obtain ⟨ts, hts, hname, hrows⟩ := h t
    obtain ⟨hpk, _, _⟩ := table_spec hbare hd t hts hname
    have hpairs := ha.primaryKey ts hts
    rwa [hpk, hrows] at hpairs
  · obtain ⟨ts, hts, hname, hrows⟩ := h t
    obtain ⟨_, huniques, _⟩ := table_spec hbare hd t hts hname
    obtain ⟨ix', hix', hu, htable, rfl⟩ := huniques ix hix
    have hpairs := ha.unique ix' hix' hu ts hts htable
    unfold TableState.Unique at hpairs
    rwa [hrows] at hpairs
  · obtain ⟨ts, hts, hname, hrows⟩ := h t
    obtain ⟨_, _, hfks⟩ := table_spec hbare hd t hts hname
    have hsat := ha.foreignKeys ts hts ⟨fk.column, (schemaOf fk.parent).name, fk.parentColumn⟩
      (by rw [hfks]; exact List.mem_map_of_mem hfk) row (by rw [hrows]; exact hrow)
    unfold ForeignKey.satisfied at hsat ⊢
    rcases Bool.or_eq_true_iff.1 hsat with hnull | hparent
    · exact Bool.or_eq_true_iff.2 (Or.inl hnull)
    · obtain ⟨p, hp, heq⟩ := List.any_eq_true.1 hparent
      exact Bool.or_eq_true_iff.2 (Or.inr (List.any_eq_true.2 ⟨p, hrowsOf _ p hp, heq⟩))

end stands

/-! ## From constraints to identities, keys and references -/

/-- Rows of one identity agree on the primary key, rows of one key clash in an index. -/
structure Table.Separates {Row I : Type} (t : Table Row) (ident : Row → I) (keyOf : Row →
    Option (String × String)) :
    Prop where
  primaryKey : ∀ a b, ident a = ident b → sameOn (schemaOf t.name).primaryKey (t.columns a) (t.columns b) = true
  uniques : ∀ a b k, keyOf a = some k → keyOf b = some k →
    ∃ ix ∈ (schemaOf t.name).uniques, ix.clash (t.columns a) (t.columns b) = true

theorem Table.Separates.distinct {Row I : Type} {t : Table Row} {ident : Row → I}
    {keyOf : Row → Option (String × String)} (h : t.Separates ident keyOf) {rows : List Row}
    (hpk : (rows.map t.columns).Pairwise fun a b => sameOn (schemaOf t.name).primaryKey a b = false)
    (huniq : ∀ ix ∈ (schemaOf t.name).uniques, (rows.map t.columns).Pairwise fun a b => ix.clash a b = false) :
    Ledger.Distinct ident keyOf rows := by
  constructor
  · refine List.pairwise_map.2 ((List.pairwise_map.1 hpk).imp fun {a b} hab he => ?_)
    rw [h.primaryKey a b he] at hab
    cases hab
  · refine List.pairwise_filterMap.2 (List.pairwise_of_forall_sublist fun {a b} hsub k hk l hl he => ?_)
    rw [← he] at hl
    obtain ⟨ix, hix, hclash⟩ := h.uniques a b k hk hl
    have hab := List.pairwise_iff_forall_sublist.1 (List.pairwise_map.1 (huniq ix hix)) hsub
    rw [hclash] at hab
    cases hab

theorem producerKey_some {p : String} {k : Option String} {x : String × String} (h : producerKey p k = some x) :
    p = x.1 ∧ k = some x.2 := by
  obtain ⟨i, rfl, rfl⟩ := Option.map_eq_some_iff.1 h
  exact ⟨rfl, rfl⟩

theorem strategiesTable_separates : strategiesTable.Separates StrategyRow.ident noKey where
  primaryKey a b h := by
    simp [strategiesTable, schemaOf, StrategyRow.columns, sameOn, Columns.get, sqlEq_text]
    exact h
  uniques a b k hk := by cases hk

theorem strategyVersionsTable_separates : strategyVersionsTable.Separates StrategyVersionRow.ident noKey where
  primaryKey a b h := by
    obtain ⟨h1, h2⟩ := Prod.mk.inj h
    simp [strategyVersionsTable, schemaOf, StrategyVersionRow.columns, sameOn, Columns.get,
      List.lookup_cons, sqlEq_text]
    exact ⟨h1, h2⟩
  uniques a b k hk := by cases hk

theorem sqlEq_text_self (i : String) : sqlEq (.text i) (.text i) = true := by
  rw [sqlEq_text]
  exact beq_self_eq_true i

/-- A table with one identity column and an index on producer and key, whatever else it has. -/
theorem separates_of_index {Row : Type} {t : Table Row} {ident : Row → String}
    {keyOf : Row → Option (String × String)} {column : String} (ix : UniqueIndex)
    (hpk : (schemaOf t.name).primaryKey = [column]) (hix : ix ∈ (schemaOf t.name).uniques)
    (hcolumns : ix.columns = ["producer", "idempotency_key"])
    (hwhere : ∀ c ∈ ix.whereNotNull, c = "idempotency_key") (hid : ∀ r, (t.columns r).get column = .text (ident r))
    (hkey : ∀ r x, keyOf r = some x →
      (t.columns r).get "producer" = .text x.1 ∧ (t.columns r).get "idempotency_key" = .text x.2) :
    t.Separates ident keyOf where
  primaryKey a b h := by
    rw [hpk]
    simp only [sameOn, List.all_cons, List.all_nil, Bool.and_true]
    rw [hid, hid, h]
    exact sqlEq_text_self _
  uniques a b k ha hb := by
    obtain ⟨hpa, hka⟩ := hkey a k ha
    obtain ⟨hpb, hkb⟩ := hkey b k hb
    have hcovers : ∀ row : Columns, row.get "idempotency_key" = .text k.2 → ix.covers row = true := by
      intro row hrow
      unfold UniqueIndex.covers
      split
      · rfl
      · next c hc =>
        rw [hwhere c hc, hrow]
        rfl
    refine ⟨ix, hix, ?_⟩
    unfold UniqueIndex.clash
    rw [hcovers _ hka, hcovers _ hkb, hcolumns]
    simp only [sameOn, List.all_cons, List.all_nil, Bool.true_and, Bool.and_true]
    rw [hpa, hpb, hka, hkb, sqlEq_text_self, sqlEq_text_self]
    rfl

theorem experimentsTable_separates : experimentsTable.Separates ExperimentRow.ident ExperimentRow.key :=
  separates_of_index (producerKeyIndex "experiments") rfl (List.mem_singleton_self _) rfl
    (fun _ hc => (Option.some.inj hc).symm) (fun _ => rfl) fun r x h => by
      obtain ⟨hp, hk⟩ := producerKey_some h
      simp [experimentsTable, ExperimentRow.columns, Columns.get, List.lookup_cons, hp, hk]

theorem runsTable_separates : runsTable.Separates RunRow.ident RunRow.key :=
  separates_of_index (producerKeyIndex "runs") rfl (List.mem_singleton_self _) rfl
    (fun _ hc => (Option.some.inj hc).symm) (fun _ => rfl) fun r x h => by
      obtain ⟨hp, hk⟩ := producerKey_some h
      simp [runsTable, RunRow.columns, Columns.get, List.lookup_cons, hp, hk]

theorem evidenceTable_separates : evidenceTable.Separates EvidenceRow.ident EvidenceRow.key :=
  separates_of_index _ rfl (List.mem_singleton_self _) rfl (fun _ hc => by cases hc) (fun _ => rfl) fun r x h => by
    obtain rfl := Option.some.inj h
    simp [evidenceTable, EvidenceRow.columns, Columns.get, List.lookup_cons]

theorem artifactRow_key_some {r : ArtifactRow} {x : String × String} (h : r.key = some x) :
    r.producer = some x.1 ∧ r.idempotencyKey = some x.2 := by
  obtain ⟨p, hp, h⟩ := Option.bind_eq_some_iff.1 h
  obtain ⟨k, hk, rfl⟩ := Option.map_eq_some_iff.1 h
  exact ⟨hp, hk⟩

theorem artifactsTable_separates : artifactsTable.Separates ArtifactRow.ident ArtifactRow.key :=
  separates_of_index (producerKeyIndex "artifacts") rfl (List.mem_singleton_self _) rfl
    (fun _ hc => (Option.some.inj hc).symm) (fun _ => rfl) fun r x h => by
      obtain ⟨hp, hk⟩ := artifactRow_key_some h
      simp [artifactsTable, ArtifactRow.columns, Columns.get, List.lookup_cons, hp, hk]

theorem promotionsTable_separates : promotionsTable.Separates PromotionRow.ident PromotionRow.key :=
  separates_of_index (producerKeyIndex "promotions") rfl (List.mem_singleton_self _) rfl
    (fun _ hc => (Option.some.inj hc).symm) (fun _ => rfl) fun r x h => by
      obtain ⟨hp, hk⟩ := producerKey_some h
      simp [promotionsTable, PromotionRow.columns, Columns.get, List.lookup_cons, hp, hk]

theorem healthRecordsTable_separates : healthRecordsTable.Separates HealthRow.ident HealthRow.key :=
  separates_of_index (producerKeyIndex "health_records") rfl (List.mem_singleton_self _) rfl
    (fun _ hc => (Option.some.inj hc).symm) (fun _ => rfl) fun r x h => by
      obtain ⟨hp, hk⟩ := producerKey_some h
      simp [healthRecordsTable, HealthRow.columns, Columns.get, List.lookup_cons, hp, hk]

/-- A foreign key that is set names a parent row. -/
theorem parent_of_satisfied {fk : ForeignKey TableName} {parents : TableName → List Columns}
    {row : Columns} {i : String}
    (h : fk.satisfied parents row = true) (hi : row.get fk.column = .text i) :
    ∃ p ∈ parents fk.parent, p.get fk.parentColumn = .text i := by
  unfold ForeignKey.satisfied at h
  rw [hi] at h
  rcases Bool.or_eq_true_iff.1 h with h | h
  · exact absurd (beq_iff_eq.1 h) (text_ne_null i)
  · obtain ⟨p, hp, heq⟩ := List.any_eq_true.1 h
    unfold sqlEq at heq
    rw [Bool.and_eq_true, beq_iff_eq] at heq
    exact ⟨p, hp, heq.2⟩

/-- A row that satisfies the constraints, in the columns its references are in. -/
theorem Database.Admitted.references {db : Database} (h : db.Admitted) (fk : ForeignKey TableName)
    {Row Parent : Type}
    {t : TableName} {rows : List Row} {columns : Row → Columns} {parents : List Parent}
    {parentColumns : Parent → Columns}
    {ident : Parent → String} (hrows : db.table t = rows.map columns)
    (hparents : db.table fk.parent = parents.map parentColumns) (hfk : fk ∈ (schemaOf t).foreignKeys)
    (hident : ∀ q, (parentColumns q).get fk.parentColumn = .text (ident q)) {r : Row} (hr : r ∈ rows) {i : String}
    (hi : (columns r).get fk.column = .text i) : ∃ q ∈ parents, ident q = i := by
  have hsat := h.foreignKeys t fk hfk (columns r) (by rw [hrows]; exact List.mem_map_of_mem hr)
  obtain ⟨q, hq, hget⟩ := parent_of_satisfied hsat hi
  rw [hparents] at hq
  obtain ⟨x, hx, rfl⟩ := List.mem_map.1 hq
  exact ⟨x, hx, Value.text.inj ((hident x).symm.trans hget)⟩

/-- **What the constraints say of the store's rows.** -/
theorem Database.Admitted.lawful {db : Database} (h : db.Admitted) : db.Lawful where
  strategies := strategiesTable_separates.distinct (h.primaryKey .strategies) (h.uniques .strategies)
  strategyVersions := strategyVersionsTable_separates.distinct (h.primaryKey .strategyVersions)
    (h.uniques .strategyVersions)
  experiments := experimentsTable_separates.distinct (h.primaryKey .experiments) (h.uniques .experiments)
  runs := runsTable_separates.distinct (h.primaryKey .runs) (h.uniques .runs)
  evidence := evidenceTable_separates.distinct (h.primaryKey .evidence) (h.uniques .evidence)
  artifacts := artifactsTable_separates.distinct (h.primaryKey .artifacts) (h.uniques .artifacts)
  promotions := promotionsTable_separates.distinct (h.primaryKey .promotions) (h.uniques .promotions)
  healthRecords := healthRecordsTable_separates.distinct (h.primaryKey .healthRecords) (h.uniques .healthRecords)
  versionStrategy r hr :=
    h.references ⟨"strategy_id", .strategies, "strategy_id"⟩ (t := .strategyVersions) rfl rfl (by decide)
    (fun q => by simp [StrategyRow.columns, Columns.get]) hr
    (by simp [StrategyVersionRow.columns, Columns.get])
  runExperiment r hr :=
    h.references ⟨"experiment_id", .experiments, "experiment_id"⟩ (t := .runs) rfl rfl (by decide)
    (fun q => by simp [ExperimentRow.columns, Columns.get]) hr
    (by simp [RunRow.columns, Columns.get, List.lookup_cons])
  evidenceRun r hr i hi := h.references ⟨"run_id", .runs, "run_id"⟩ (t := .evidence) rfl rfl (by decide)
    (fun q => by simp [RunRow.columns, Columns.get]) hr
    (by simp [EvidenceRow.columns, Columns.get, List.lookup_cons, Option.mem_def.1 hi])
  evidenceExperiment r hr i hi :=
    h.references ⟨"experiment_id", .experiments, "experiment_id"⟩ (t := .evidence) rfl rfl (by decide)
    (fun q => by simp [ExperimentRow.columns, Columns.get]) hr
    (by simp [EvidenceRow.columns, Columns.get, List.lookup_cons, Option.mem_def.1 hi])
  artifactRun r hr i hi := h.references ⟨"run_id", .runs, "run_id"⟩ (t := .artifacts) rfl rfl (by decide)
    (fun q => by simp [RunRow.columns, Columns.get]) hr
    (by simp [ArtifactRow.columns, Columns.get, List.lookup_cons, Option.mem_def.1 hi])
  artifactEvidence r hr i hi :=
    h.references ⟨"evidence_id", .evidence, "evidence_id"⟩ (t := .artifacts) rfl rfl (by decide)
    (fun q => by simp [EvidenceRow.columns, Columns.get]) hr
    (by simp [ArtifactRow.columns, Columns.get, List.lookup_cons, Option.mem_def.1 hi])

/-- **An upgraded database** has distinct identities and keys, and its references name rows. -/
theorem Database.StandsAfter.lawful {sums : Nat → String} {k : Nat} {σ : SchemaState} {db : Database}
    (h : db.StandsAfter k σ.catalog) (completed : Completed sums k σ) (admitted : σ.catalog.Admitted) :
    db.Lawful := by
  obtain ⟨c, hc, _⟩ := completed.upgrade
  have hadmitted := admitted.run completed.ready (laterStatements_addsNullable k) hc
  exact ((h.stands hc).admitted (completed.upgraded_bare hc) (completed.names.run hc) hadmitted).lawful

end Cer
