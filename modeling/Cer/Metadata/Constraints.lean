import Cer.Metadata.Reading

/-!
# No constraint is ever hit

The guards and lookups of each write establish what its INSERT or UPDATE needs, so
the constraints the schema declares are never what refuses it: `Table.Keyed` says
which rows of a table clash, `Table.Keyed.insert_eq` and `Table.Keyed.update_ok` that
fresh rows and rows changed in place are accepted.
-/

namespace Cer

open Py Sql

/-! ## Tables whose constraints are identity and key -/

/-- Every column declared NOT NULL is set in any row, rows agree on the primary key only when they
have one identity, and on a unique index only when they share a key. -/
structure Table.Keyed {Row I : Type} (t : Table Row) (ident : Row → I) (keyOf : Row → Option (String × String)) :
    Prop where
  notNull : ∀ r, ∀ c ∈ (schemaOf t.name).notNull, (t.columns r).get c ≠ .null
  primaryKey : ∀ a b, sameOn (schemaOf t.name).primaryKey (t.columns a) (t.columns b) = true → ident b = ident a
  uniques : ∀ ix ∈ (schemaOf t.name).uniques, ∀ a b, ix.clash (t.columns a) (t.columns b) = true →
    ∃ k, keyOf a = some k ∧ keyOf b = some k

section generic
variable {Row I : Type} {t : Table Row} {ident : Row → I} {keyOf : Row → Option (String × String)}

/-- A row beside rows of other identities and keys, its parents present, breaks nothing. -/
theorem Table.Keyed.violation_eq_none (h : t.Keyed ident keyOf) {db : Database} {others : List Row} {row : Row}
    (hf : Fresh ident keyOf others row)
    (hfk : ∀ fk ∈ (schemaOf t.name).foreignKeys, fk.satisfied db.table (t.columns row) = true) :
    (schemaOf t.name).violation (others.map t.columns) db.table (t.columns row) = none := by
  refine Sql.violation_eq_none (h.notNull row) ?_ ?_ hfk
  · intro o ho
    obtain ⟨r, hr, rfl⟩ := List.mem_map.1 ho
    cases hs : sameOn (schemaOf t.name).primaryKey (t.columns row) (t.columns r) with
    | false => rfl
    | true => exact absurd (h.primaryKey _ _ hs) (hf.id r hr)
  · intro ix hix o ho
    obtain ⟨r, hr, rfl⟩ := List.mem_map.1 ho
    cases hs : ix.clash (t.columns row) (t.columns r) with
    | false => rfl
    | true =>
      obtain ⟨k, hk, hk'⟩ := h.uniques ix hix _ _ hs
      exact absurd hk' (hf.key k hk r hr)

/-- A fresh row whose parents exist is inserted, unless it holds an integer SQLite cannot. -/
theorem Table.Keyed.insert_eq (h : t.Keyed ident keyOf) {db : Database} {row : Row}
    (hf : Fresh ident keyOf (t.rows db) row)
    (hfk : ∀ fk ∈ (schemaOf t.name).foreignKeys, fk.satisfied db.table (t.columns row) = true) :
    t.insert db row =
      if !bindable (t.columns row) then .error (.overflowError "Python int too large to convert to SQLite INTEGER")
      else .ok (t.setRows db (t.rows db ++ [row])) := by
  unfold Table.insert
  rw [h.violation_eq_none hf hfk]

/-- A change in place of the rows of one identity, which keeps identity and key. -/
theorem Table.Keyed.update_ok (h : t.Keyed ident keyOf) {db : Database} {p : Row → Bool} {f : Row → Row}
    (hd : Ledger.Distinct ident keyOf (t.rows db)) (hid : ∀ r, ident (f r) = ident r)
    (hkey : ∀ r, keyOf (f r) = keyOf r)
    (hfk : ∀ r ∈ t.rows db, p r = true →
      ∀ fk ∈ (schemaOf t.name).foreignKeys, fk.satisfied db.table (t.columns (f r)) = true) :
    t.update db p f = .ok (t.setRows db ((t.rows db).map fun r => if p r then f r else r)) := by
  have hne : ∀ a b, p a = true → (!p b) = true → a ≠ b := by
    rintro a b ha hb rfl
    rw [ha] at hb
    cases hb
  have hnone : (((t.rows db).filter p).findSome? fun r => (schemaOf t.name).violation
      (((t.rows db).filter (!p ·)).map t.columns) db.table (t.columns (f r))) = none := by
    rw [List.findSome?_eq_none_iff]
    intro r hr
    obtain ⟨hr, hpr⟩ := List.mem_filter.1 hr
    refine h.violation_eq_none ⟨fun o ho => ?_, fun k hk o ho => ?_⟩ (hfk r hr hpr)
    · obtain ⟨ho, hpo⟩ := List.mem_filter.1 ho
      rw [hid]
      intro he
      exact hne r o hpr hpo (hd.eq_of_ident hr ho he.symm)
    · obtain ⟨ho, hpo⟩ := List.mem_filter.1 ho
      rw [hkey] at hk
      intro he
      exact hne r o hpr hpo (hd.eq_of_key hr ho hk he)
  unfold Table.update
  dsimp only
  rw [hnone]

end generic

/-! ## The eight tables -/

theorem optText_clash {a b : Option String} (h : sqlEq (optText a) (optText b) = true) :
    ∃ s, a = some s ∧ b = some s := by
  rw [sqlEq_optText, Bool.and_eq_true, beq_iff_eq] at h
  obtain ⟨h1, rfl⟩ := h
  obtain ⟨s, rfl⟩ := Option.isSome_iff_exists.1 h1
  exact ⟨s, rfl, rfl⟩

theorem strategiesTable_keyed : strategiesTable.Keyed StrategyRow.ident noKey where
  notNull r := by simp [strategiesTable, schemaOf, StrategyRow.columns, Columns.get, List.lookup_cons]
  primaryKey a b h := by
    simp [strategiesTable, schemaOf, StrategyRow.columns, sameOn, Columns.get, List.lookup_cons, sqlEq_text] at h
    exact h.symm
  uniques ix hix := by cases hix

theorem strategyVersionsTable_keyed : strategyVersionsTable.Keyed StrategyVersionRow.ident noKey where
  notNull r := by simp [strategyVersionsTable, schemaOf, StrategyVersionRow.columns, Columns.get, List.lookup_cons]
  primaryKey a b h := by
    simp [strategyVersionsTable, schemaOf, StrategyVersionRow.columns, sameOn, Columns.get, List.lookup_cons,
      sqlEq_text] at h
    show (b.strategyId, b.strategyVersion) = (a.strategyId, a.strategyVersion)
    rw [h.1, h.2]
  uniques ix hix := by cases hix

/-- Rows that clash in a `(producer, idempotency_key)` index have one producer and one key. -/
theorem producerKey_clash {p q : String} {k l : Option String} (hp : (p == q) = true)
    (hk : sqlEq (optText k) (optText l) = true) : ∃ x, producerKey p k = some x ∧ producerKey q l = some x := by
  obtain ⟨s, rfl, rfl⟩ := optText_clash hk
  rw [beq_iff_eq] at hp
  exact ⟨(p, s), rfl, by rw [hp]; rfl⟩

theorem experimentsTable_keyed : experimentsTable.Keyed ExperimentRow.ident ExperimentRow.key where
  notNull r := by simp [experimentsTable, schemaOf, ExperimentRow.columns, Columns.get, List.lookup_cons]
  primaryKey a b h := by
    simp [experimentsTable, schemaOf, ExperimentRow.columns, sameOn, Columns.get,
      List.lookup_cons, sqlEq_text] at h
    exact h.symm
  uniques ix hix a b h := by
    rw [List.mem_singleton.1 hix] at h
    simp [experimentsTable, producerKeyIndex, UniqueIndex.clash, UniqueIndex.covers, ExperimentRow.columns, sameOn,
      Columns.get, List.lookup_cons, sqlEq_text] at h
    exact producerKey_clash (by simpa using h.2.1) h.2.2

theorem runsTable_keyed : runsTable.Keyed RunRow.ident RunRow.key where
  notNull r := by simp [runsTable, schemaOf, RunRow.columns, Columns.get, List.lookup_cons]
  primaryKey a b h := by
    simp [runsTable, schemaOf, RunRow.columns, sameOn, Columns.get, List.lookup_cons, sqlEq_text] at h
    exact h.symm
  uniques ix hix a b h := by
    rw [List.mem_singleton.1 hix] at h
    simp [runsTable, producerKeyIndex, UniqueIndex.clash, UniqueIndex.covers, RunRow.columns, sameOn,
      Columns.get, List.lookup_cons, sqlEq_text] at h
    exact producerKey_clash (by simpa using h.2.1) h.2.2

theorem evidenceTable_keyed : evidenceTable.Keyed EvidenceRow.ident EvidenceRow.key where
  notNull r := by simp [evidenceTable, schemaOf, EvidenceRow.columns, Columns.get, List.lookup_cons]
  primaryKey a b h := by
    simp [evidenceTable, schemaOf, EvidenceRow.columns, sameOn, Columns.get, List.lookup_cons, sqlEq_text] at h
    exact h.symm
  uniques ix hix a b h := by
    rw [List.mem_singleton.1 hix] at h
    simp [evidenceTable, UniqueIndex.clash, UniqueIndex.covers, EvidenceRow.columns, sameOn,
      Columns.get, List.lookup_cons, sqlEq_text] at h
    refine ⟨(a.producer, a.idempotencyKey), rfl, ?_⟩
    show some (b.producer, b.idempotencyKey) = some (a.producer, a.idempotencyKey)
    rw [h.1, h.2]

theorem artifactsTable_keyed : artifactsTable.Keyed ArtifactRow.ident ArtifactRow.key where
  notNull r := by simp [artifactsTable, schemaOf, ArtifactRow.columns, Columns.get, List.lookup_cons]
  primaryKey a b h := by
    simp [artifactsTable, schemaOf, ArtifactRow.columns, sameOn, Columns.get, List.lookup_cons, sqlEq_text] at h
    exact h.symm
  uniques ix hix a b h := by
    rw [List.mem_singleton.1 hix] at h
    simp [artifactsTable, producerKeyIndex, UniqueIndex.clash, UniqueIndex.covers, ArtifactRow.columns, sameOn,
      Columns.get, List.lookup_cons] at h
    obtain ⟨p, hp, hp'⟩ := optText_clash h.2.1
    obtain ⟨k, hk, hk'⟩ := optText_clash h.2.2
    refine ⟨(p, k), ?_, ?_⟩
    · unfold ArtifactRow.key
      rw [hp, hk]
      rfl
    · unfold ArtifactRow.key
      rw [hp', hk']
      rfl

theorem promotionsTable_keyed : promotionsTable.Keyed PromotionRow.ident PromotionRow.key where
  notNull r := by simp [promotionsTable, schemaOf, PromotionRow.columns, Columns.get, List.lookup_cons]
  primaryKey a b h := by
    simp [promotionsTable, schemaOf, PromotionRow.columns, sameOn, Columns.get, List.lookup_cons, sqlEq_text] at h
    exact h.symm
  uniques ix hix a b h := by
    rw [List.mem_singleton.1 hix] at h
    simp [promotionsTable, producerKeyIndex, UniqueIndex.clash, UniqueIndex.covers, PromotionRow.columns, sameOn,
      Columns.get, List.lookup_cons, sqlEq_text] at h
    exact producerKey_clash (by simpa using h.2.1) h.2.2

theorem healthRecordsTable_keyed : healthRecordsTable.Keyed HealthRow.ident HealthRow.key where
  notNull r := by simp [healthRecordsTable, schemaOf, HealthRow.columns, Columns.get, List.lookup_cons]
  primaryKey a b h := by
    simp [healthRecordsTable, schemaOf, HealthRow.columns, sameOn, Columns.get, List.lookup_cons, sqlEq_text] at h
    exact h.symm
  uniques ix hix a b h := by
    rw [List.mem_singleton.1 hix] at h
    simp [healthRecordsTable, producerKeyIndex, UniqueIndex.clash, UniqueIndex.covers, HealthRow.columns, sameOn,
      Columns.get, List.lookup_cons, sqlEq_text] at h
    exact producerKey_clash (by simpa using h.2.1) h.2.2

/-! ## Parents -/

/-! Rows without integers can always be bound. -/

theorem StrategyRow.bindable (r : StrategyRow) : Sql.bindable r.columns = true := by
  simp [Sql.bindable, StrategyRow.columns]

theorem StrategyVersionRow.bindable (r : StrategyVersionRow) : Sql.bindable r.columns = true := by
  simp [Sql.bindable, StrategyVersionRow.columns]

theorem ExperimentRow.bindable (r : ExperimentRow) : Sql.bindable r.columns = true := by
  simp [Sql.bindable, ExperimentRow.columns]

theorem RunRow.bindable (r : RunRow) : Sql.bindable r.columns = true := by
  simp [Sql.bindable, RunRow.columns]

theorem PromotionRow.bindable (r : PromotionRow) : Sql.bindable r.columns = true := by
  simp [Sql.bindable, PromotionRow.columns]

theorem HealthRow.bindable (r : HealthRow) : Sql.bindable r.columns = true := by
  simp [Sql.bindable, HealthRow.columns]

theorem EvidenceRow.bindable_iff (r : EvidenceRow) :
    Sql.bindable r.columns = true ↔ fitsInt64 (.integer r.schemaVersion) = true := by
  simp [Sql.bindable, EvidenceRow.columns]

theorem ArtifactRow.bindable_iff (r : ArtifactRow) :
    Sql.bindable r.columns = true ↔ fitsInt64 (.integer r.sizeBytes) = true := by
  simp [Sql.bindable, ArtifactRow.columns]

/-- A parent row of this identity makes the foreign key hold. -/
theorem parent_any {Row : Type} {rows : List Row} {columns : Row → Columns} {column i : String}
    {ident : Row → String}
    (hc : ∀ r, (columns r).get column = .text (ident r)) (h : ∃ r ∈ rows, ident r = i) :
    (rows.map columns).any (fun p => sqlEq (p.get column) (.text i)) = true := by
  obtain ⟨r, hr, rfl⟩ := h
  rw [List.any_map, List.any_eq_true]
  refine ⟨r, hr, ?_⟩
  show sqlEq ((columns r).get column) (.text (ident r)) = true
  rw [hc, sqlEq_text, beq_self_eq_true]

theorem Database.hasStrategy.any {db : Database} {i : String} (h : db.hasStrategy i) :
    (db.table .strategies).any (fun p => sqlEq (p.get "strategy_id") (.text i)) = true :=
  parent_any (fun r => by simp [StrategyRow.columns, Columns.get]) h

theorem Database.hasExperiment.any {db : Database} {i : String} (h : db.hasExperiment i) :
    (db.table .experiments).any (fun p => sqlEq (p.get "experiment_id") (.text i)) = true :=
  parent_any (fun r => by simp [ExperimentRow.columns, Columns.get]) h

theorem Database.hasRun.any {db : Database} {i : String} (h : db.hasRun i) :
    (db.table .runs).any (fun p => sqlEq (p.get "run_id") (.text i)) = true :=
  parent_any (fun r => by simp [RunRow.columns, Columns.get]) h

theorem Database.hasEvidence.any {db : Database} {i : String} (h : db.hasEvidence i) :
    (db.table .evidence).any (fun p => sqlEq (p.get "evidence_id") (.text i)) = true :=
  parent_any (fun r => by simp [EvidenceRow.columns, Columns.get]) h

/-- A nullable foreign key whose target exists when it is set. -/
theorem satisfied_optText {fk : ForeignKey TableName} {parents : TableName → List Columns} {row : Columns}
    {v : Option String} (hv : row.get fk.column = optText v)
    (h : ∀ i ∈ v, (parents fk.parent).any (fun p => sqlEq (p.get fk.parentColumn) (.text i)) = true) :
    fk.satisfied parents row = true := by
  unfold ForeignKey.satisfied
  rw [hv, Bool.or_eq_true]
  cases v with
  | none => exact Or.inl rfl
  | some i => exact Or.inr (h i rfl)

theorem versionRow_parents {db : Database} {r : StrategyVersionRow} (h : db.hasStrategy r.strategyId) :
    ∀ fk ∈ (schemaOf .strategyVersions).foreignKeys, fk.satisfied db.table r.columns = true := by
  intro fk hfk
  rw [List.mem_singleton.1 hfk]
  refine satisfied_optText (v := some r.strategyId) (by simp [StrategyVersionRow.columns, Columns.get]) ?_
  rintro i ⟨rfl⟩
  exact h.any

theorem runRow_parents {db : Database} {r : RunRow} (h : db.hasExperiment r.experimentId) :
    ∀ fk ∈ (schemaOf .runs).foreignKeys, fk.satisfied db.table r.columns = true := by
  intro fk hfk
  rw [List.mem_singleton.1 hfk]
  refine satisfied_optText (v := some r.experimentId) (by simp [RunRow.columns, Columns.get, List.lookup_cons]) ?_
  rintro i ⟨rfl⟩
  exact h.any

theorem evidenceRow_parents {db : Database} {r : EvidenceRow} (hr : ∀ i ∈ r.runId, db.hasRun i)
    (he : ∀ i ∈ r.experimentId, db.hasExperiment i) :
    ∀ fk ∈ (schemaOf .evidence).foreignKeys, fk.satisfied db.table r.columns = true := by
  intro fk hfk
  rcases List.mem_cons.1 hfk with rfl | hfk
  · exact satisfied_optText (v := r.runId) (by simp [EvidenceRow.columns, Columns.get, List.lookup_cons])
      fun i hi => (hr i hi).any
  · rw [List.mem_singleton.1 hfk]
    exact satisfied_optText (v := r.experimentId) (by simp [EvidenceRow.columns, Columns.get, List.lookup_cons])
      fun i hi => (he i hi).any

theorem artifactRow_parents {db : Database} {r : ArtifactRow} (hr : ∀ i ∈ r.runId, db.hasRun i)
    (he : ∀ i ∈ r.evidenceId, db.hasEvidence i) :
    ∀ fk ∈ (schemaOf .artifacts).foreignKeys, fk.satisfied db.table r.columns = true := by
  intro fk hfk
  rcases List.mem_cons.1 hfk with rfl | hfk
  · exact satisfied_optText (v := r.runId) (by simp [ArtifactRow.columns, Columns.get, List.lookup_cons])
      fun i hi => (hr i hi).any
  · rw [List.mem_singleton.1 hfk]
    exact satisfied_optText (v := r.evidenceId) (by simp [ArtifactRow.columns, Columns.get, List.lookup_cons])
      fun i hi => (he i hi).any

/-! ## The writes -/

/-- An exception that is no `sqlite3.Error`. -/
def Exc.noSqlError (e : Exc) : Prop := e.isSqlite = false

/-- What binding an integer over 64 bits raises. -/
def integerTooLarge : Exc := .overflowError "Python int too large to convert to SQLite INTEGER"

/-- The integers the write binds fit. -/
def Write.Bindable : Write → Prop
  | .appendEvidence e => fitsInt64 (.integer e.schemaVersion) = true
  | .registerArtifact a _ _ => fitsInt64 (.integer a.sizeBytes) = true
  | _ => True

/-- What may refuse a write: a `CERError`, an integer too large, or the end of a close. -/
def Write.RefusedWith (w : Write) (e : Exc) : Prop :=
  e.isCer = true ∨ (¬ w.Bindable ∧ e = integerTooLarge) ∨ ∃ i s t, w = .closeRun i s t ∧ toUtc t = .error e

theorem require_isCer {present : Bool} {x : Exc} (hx : x.isCer = true) :
    ∀ e, require present x = .error e → e.isCer = true := by
  intro e h
  cases present with
  | true => cases h
  | false =>
    injection h with h
    rw [← h]
    exact hx

theorem ifPresent_isCer {guard : String → Except Exc Unit} (hg : ∀ i e, guard i = .error e → e.isCer = true)
    {v : Option String} : ∀ e, ifPresent guard v = .error e → e.isCer = true := by
  intro e h
  cases v with
  | none => cases h
  | some i => exact hg i e h

theorem requireScope_isCer {k p : Option String} : ∀ e, requireScope k p = .error e → e.isCer = true := by
  intro e h
  cases k with
  | none => cases h
  | some k =>
    cases p with
    | none =>
      injection h with h
      rw [← h]
      exact ErrorClass.isCer_exc _ _
    | some p =>
      unfold requireScope requireProducerForKey at h
      dsimp only at h
      split at h
      · injection h with h
        rw [← h]
        exact ErrorClass.isCer_exc _ _
      · cases h

theorem attachLink_isCer {i field : String} {c r : Option String} :
    ∀ e, attachLink i field c r = .error e → e.isCer = true := by
  intro e h
  unfold attachLink at h
  cases r with
  | none => cases h
  | some r =>
    cases c with
    | none => cases h
    | some c =>
      dsimp only at h
      split at h
      · injection h with h
        rw [← h]
        exact ErrorClass.isCer_exc _ _
      · cases h

theorem Submission.byKey_mem {Row Rec : Type} {s : Submission Row Rec} {db : Database} {r : Row}
    (h : s.byKey db = some r) : r ∈ s.table.rows db ∧ ∃ k, s.key = some k ∧ s.keyOf r = some k := by
  unfold Submission.byKey at h
  cases hk : s.key with
  | none => rw [hk] at h; cases h
  | some k =>
    rw [hk] at h
    exact ⟨List.mem_of_find?_eq_some h, k, rfl, by simpa using List.find?_some h⟩

/-- A submission whose key and identity are free inserts its row. -/
theorem Submission.run_insert {Row Rec I : Type} {s : Submission Row Rec} {ident : Row → I} (hl : s.Lawful ident)
    {db : Database} (ht : s.table.Keyed ident s.keyOf)
    (hfk : ∀ fk ∈ (schemaOf s.table.name).foreignKeys, fk.satisfied db.table (s.table.columns s.row) = true)
    (hb : bindable (s.table.columns s.row) = true) (hk : s.byKey db = none) (hi : s.byId db = none) :
    s.run db = .ok (s.record, s.table.setRows db (s.table.rows db ++ [s.row])) := by
  have hins : s.table.insert db s.row = .ok (s.table.setRows db (s.table.rows db ++ [s.row])) := by
    rw [ht.insert_eq (hl.fresh hk hi) hfk, hb]
    rfl
  unfold Submission.run
  rw [hk, hi]
  dsimp only
  rw [hins]
  rfl

/-- A submission is refused with a `CERError`, or for an integer too large. -/
theorem Submission.refused {Row Rec I : Type} {s : Submission Row Rec} {ident : Row → I} (hl : s.Lawful ident)
    {db : Database} (hr : s.Readable db) (ht : s.table.Keyed ident s.keyOf)
    (hfk : ∀ fk ∈ (schemaOf s.table.name).foreignKeys,
      fk.satisfied db.table (s.table.columns s.row) = true) {e : Exc}
    (h : s.run db = .error e) : e.isCer = true ∨ bindable (s.table.columns s.row) = false ∧
    e = integerTooLarge := by
  unfold Submission.run at h
  cases hk : s.byKey db with
  | some r =>
    rw [hk] at h
    dsimp only at h
    split at h
    · injection h with h
      rw [← h]
      exact Or.inl (ErrorClass.isCer_exc _ _)
    · obtain ⟨rec, hrec⟩ := hr.replay r (Submission.byKey_mem hk).1
      rw [hrec] at h
      cases h
  | none =>
    rw [hk] at h
    dsimp only at h
    cases hi : s.byId db with
    | some r =>
      rw [hi] at h
      dsimp only at h
      rcases hr.existing r (List.mem_of_find?_eq_some hi) (List.find?_some hi) with ⟨rec, hrec⟩ | ⟨m, hm⟩
      · rw [hrec] at h
        cases h
      · rw [hm] at h
        injection h with h
        rw [← h]
        exact Or.inl (ErrorClass.isCer_exc _ _)
    | none =>
      rw [hi] at h
      dsimp only at h
      rw [ht.insert_eq (hl.fresh hk hi) hfk] at h
      cases hb : bindable (s.table.columns s.row) with
      | true =>
        rw [hb] at h
        cases h
      | false =>
        rw [hb] at h
        injection h with h
        exact Or.inr ⟨rfl, h.symm⟩

theorem toUtc_noSqlError {t : AwareTime} {e : Exc} (he : toUtc t = .error e) : e.noSqlError := by
  unfold toUtc at he
  split at he
  · injection he with he
    rw [← he]
    rfl
  · split at he
    · cases he
    · injection he with he
      rw [← he]
      rfl

section updates
variable {env : Env} {db : Database}

/-- A close of an OPEN run goes through, and returns the run with its new status and end. -/
theorem WellFormed.closeRun_open (h : WellFormed env db) {i : String} {s : RunStatus} {t : AwareTime}
    {ended : DateTime} {row : RunRow} (ht : toUtc t = .ok ended) (hf : db.runs.find? (·.runId == i) = some row)
    (hopen : row.status = RunStatus.open_.value) :
    ∃ run, rowToRun (row.closed s ended) = .ok run ∧ closeRun db i s t =
      .ok (run, { db with runs := db.runs.map fun r => if r.runId == i then r.closed s ended else r }) := by
  have hmem := List.mem_of_find?_eq_some hf
  have hid : row.runId = i := by simpa using List.find?_some hf
  have hu : runsTable.update db (·.runId == i) (RunRow.closed s ended) =
      .ok { db with runs := db.runs.map fun r => if r.runId == i then r.closed s ended else r } :=
    runsTable_keyed.update_ok h.runs.distinct (fun _ => rfl) (fun _ => rfl)
      fun r hr _ => runRow_parents (r := r.closed s ended) (h.runExperiment r hr)
  -- the row read back decodes, since the invariant holds after the update
  have hw := h.effect (w := .closeRun i s t) trivial (.close i s t ended row hmem hid hopen)
  have hmem' : row.closed s ended ∈ db.runs.map fun r => if r.runId == i then r.closed s ended else r :=
    List.mem_map.2 ⟨row, hmem, if_pos (beq_iff_eq.2 hid)⟩
  obtain ⟨run, _, _, _, _, _, _, hread⟩ := (hw.runs.origin _ hmem').read
  have hfetch := hw.fetchRun_eq hmem'
  have hi : (row.closed s ended).runId = i := hid
  rw [hi] at hfetch
  refine ⟨_, hread, ?_⟩
  unfold closeRun
  simp only [ht, ok_bind, hf]
  rw [if_neg (not_not_intro hopen)]
  refine (bind_of_ok hu).trans ?_
  rw [hfetch, hread]
  rfl

/-- An attach whose links may take the new values goes through. -/
theorem WellFormed.attach_update (h : WellFormed env db) {i : String} {e r e' r' : Option String}
    {row : ArtifactRow}
    (hf : db.artifacts.find? (·.artifactId == i) = some row) (he : LinkStep db.hasEvidence row.evidenceId e')
    (hr : LinkStep db.hasRun row.runId r') :
    ∃ a db', artifactsTable.update db (·.artifactId == i) (ArtifactRow.linked e' r') = .ok db' ∧
      db'.artifacts.find? (·.artifactId == i) = some (row.linked e' r') ∧
      rowToArtifact (row.linked e' r') = .ok a := by
  have hmem := List.mem_of_find?_eq_some hf
  have hid : row.artifactId = i := by simpa using List.find?_some hf
  have hpi : ∀ x ∈ db.artifacts, (x.artifactId == i) = true → x = row := fun x hx hxi =>
    h.artifacts.distinct.eq_of_ident hx hmem ((beq_iff_eq.1 hxi).trans hid.symm)
  have hu : artifactsTable.update db (·.artifactId == i) (ArtifactRow.linked e' r') =
      .ok { db with artifacts := db.artifacts.map fun x => if x.artifactId == i then x.linked e' r' else x } := by
    refine artifactsTable_keyed.update_ok h.artifacts.distinct (fun _ => rfl) (fun _ => rfl) fun x hx hxi => ?_
    rw [hpi x hx hxi]
    exact artifactRow_parents (r := row.linked e' r') (link_identity (fun _ hj => hj) (h.artifactRun row hmem) hr)
      (link_identity (fun _ hj => hj) (h.artifactEvidence row hmem) he)
  have hw := h.effect (w := .attachArtifact i e r) trivial (.attach i e r e' r' row hmem hid he hr)
  have hmem' : row.linked e' r' ∈ db.artifacts.map fun x => if x.artifactId == i then x.linked e' r' else x :=
    List.mem_map.2 ⟨row, hmem, if_pos (beq_iff_eq.2 hid)⟩
  obtain ⟨a, _, _, _, _, hread⟩ := (hw.artifacts.origin _ hmem').read
  have hfind := hw.find_artifact hmem'
  have hi : (row.linked e' r').artifactId = i := hid
  rw [hi] at hfind
  exact ⟨a, _, hu, hfind, hread⟩

/-- A close of a stored run raises what `to_utc` raises of its end, or a `CERError`. -/
theorem WellFormed.closeRun_error (h : WellFormed env db) {i : String} {s : RunStatus} {t : AwareTime} {e : Exc}
    (he : closeRun db i s t = .error e) : e.isCer = true ∨ toUtc t = .error e := by
  cases ht : toUtc t with
  | error x =>
    unfold closeRun at he
    rw [ht] at he
    obtain rfl := Except.error.inj he
    exact Or.inr rfl
  | ok ended =>
    refine Or.inl ?_
    cases hf : db.runs.find? (·.runId == i) with
    | none =>
      unfold closeRun at he
      rw [ht, hf] at he
      cases he
      exact ErrorClass.isCer_exc _ _
    | some row =>
      by_cases hopen : row.status = RunStatus.open_.value
      · obtain ⟨run, _, hok⟩ := h.closeRun_open (s := s) ht hf hopen
        rw [hok] at he
        cases he
      · unfold closeRun at he
        rw [ht] at he
        simp only [bind, Except.bind, hf] at he
        rw [if_pos hopen] at he
        cases he
        exact ErrorClass.isCer_exc _ _

/-- An attach raises a `CERError`: its guards and its links do, and the update is accepted. -/
theorem WellFormed.attachArtifact_error (h : WellFormed env db) {i : String} {x r : Option String} {e : Exc}
    (he : attachArtifact db i x r = .error e) : e.isCer = true := by
  have hevidence : ∀ i e, requireEvidence db i = .error e → e.isCer = true := fun _ =>
    require_isCer (ErrorClass.isCer_exc _ _)
  have hrun : ∀ i e, requireRun db i = .error e → e.isCer = true :=
    fun _ => require_isCer (ErrorClass.isCer_exc _ _)
  unfold attachArtifact at he
  cases hf : db.artifacts.find? (·.artifactId == i) with
  | none =>
    rw [hf] at he
    cases he
    exact ErrorClass.isCer_exc _ _
  | some row =>
    rw [hf] at he
    obtain ⟨a, _, _, _, _, hread⟩ := (h.artifacts.origin row (List.mem_of_find?_eq_some hf)).read
    rcases bind_error he with he | ⟨u, hu, he⟩
    · exact ifPresent_isCer hevidence _ he
    rcases bind_error he with he | ⟨u', hu', he⟩
    · exact ifPresent_isCer hrun _ he
    rcases bind_error he with he | ⟨x', hx', he⟩
    · exact attachLink_isCer _ he
    rcases bind_error he with he | ⟨r', hr', he⟩
    · exact attachLink_isCer _ he
    by_cases hch : x' ≠ row.evidenceId ∨ r' ≠ row.runId
    · rw [if_pos hch] at he
      obtain ⟨a', db', hup, hfind, hread'⟩ := h.attach_update (e := x) (r := r) hf
        (linkStep_of_attachLink hx' (ifPresent_ok (fun _ _ => requireEvidence_ok) hu))
        (linkStep_of_attachLink hr' (ifPresent_ok (fun _ _ => requireRun_ok) hu'))
      have hup' : artifactsTable.update db (·.artifactId == i)
          (fun y => { y with evidenceId := x', runId := r' }) = .ok db' := hup
      rw [hup'] at he
      simp only [bind, Except.bind, hfind, hread'] at he
      cases he
    · rw [if_neg hch, hread] at he
      cases he

end updates

/-- What a write is refused with. -/
theorem WellFormed.run_error {env : Env} {db : Database} (h : WellFormed env db) {w : Write} {e : Exc}
    (he : w.run env db = .error e) : w.RefusedWith e := by
  have hreply : ∀ {α : Type} {f : α → Reply} {x : Except Exc (α × Database)}, asReply f x = .error e →
    x = .error e := by
    intro α f x hx
    cases x with
    | ok y => cases hx
    | error e' => exact congrArg Except.error (Except.error.inj hx)
  have hstrategy : ∀ i e, requireStrategy db i = .error e → e.isCer = true :=
    fun _ => require_isCer (ErrorClass.isCer_exc _ _)
  have hexperiment : ∀ i e, requireExperiment db i = .error e → e.isCer = true := fun _ =>
    require_isCer (ErrorClass.isCer_exc _ _)
  have hrun : ∀ i e, requireRun db i = .error e → e.isCer = true :=
    fun _ => require_isCer (ErrorClass.isCer_exc _ _)
  have hevidence : ∀ i e, requireEvidence db i = .error e → e.isCer = true := fun _ =>
    require_isCer (ErrorClass.isCer_exc _ _)
  -- rows that hold no integer bind
  have hbound : ∀ {b : Bool}, b = true → ∀ {p : Prop}, e.isCer = true ∨ b = false ∧ p → w.RefusedWith e := by
    rintro b rfl p (hcer | ⟨hb, _⟩)
    · exact Or.inl hcer
    · cases hb
  have hinteger : ∀ {b : Bool}, (b = true ↔ w.Bindable) → e.isCer = true ∨ b = false ∧ e = integerTooLarge →
      w.RefusedWith e := by
    rintro b hb (hcer | ⟨rfl, hlarge⟩)
    · exact Or.inl hcer
    · exact Or.inr (Or.inl ⟨fun hw => (by cases hb.2 hw), hlarge⟩)
  cases w with
  | registerStrategy s =>
    exact hbound (StrategyRow.bindable _)
      (Submission.refused (strategySubmission_lawful env s) (h.strategy_readable s)
      strategiesTable_keyed (fun fk hfk => by cases hfk) (hreply he))
  | registerStrategyVersion v =>
    rcases bind_error (hreply he) with he | ⟨u, hu, he⟩
    · exact Or.inl (hstrategy _ _ he)
    · exact hbound (StrategyVersionRow.bindable _) (Submission.refused (strategyVersionSubmission_lawful env v)
        (h.strategyVersion_readable v) strategyVersionsTable_keyed
        (versionRow_parents (r := v.toRow) (requireStrategy_ok hu)) he)
  | createExperiment x k =>
    exact hbound (ExperimentRow.bindable _) (Submission.refused (experimentSubmission_lawful env x k)
      (h.experiment_readable x k) experimentsTable_keyed (fun fk hfk => by cases hfk) (hreply he))
  | createRun r k =>
    rcases bind_error (hreply he) with he | ⟨u, hu, he⟩
    · exact Or.inl (hexperiment _ _ he)
    · exact hbound (RunRow.bindable _) (Submission.refused (runSubmission_lawful env db r k) (h.run_readable r k)
        runsTable_keyed (runRow_parents (r := r.toRow env k) (requireExperiment_ok hu)) he)
  | closeRun i s t =>
    rcases h.closeRun_error (hreply he) with hcer | ht
    · exact Or.inl hcer
    · exact Or.inr (Or.inr ⟨i, s, t, rfl, ht⟩)
  | appendEvidence x =>
    rcases bind_error (hreply he) with he | ⟨u, hu, he⟩
    · exact Or.inl (ifPresent_isCer hrun _ he)
    · rcases bind_error he with he | ⟨u', hu', he⟩
      · exact Or.inl (ifPresent_isCer hexperiment _ he)
      · exact hinteger (EvidenceRow.bindable_iff (x.toRow env))
          (Submission.refused (evidenceSubmission_lawful env db x)
          (h.evidence_readable x) evidenceTable_keyed (evidenceRow_parents (r := x.toRow env)
            (ifPresent_ok (fun _ _ => requireRun_ok) hu) (ifPresent_ok (fun _ _ => requireExperiment_ok) hu')) he)
  | registerArtifact a k p =>
    rcases bind_error (hreply he) with he | ⟨u, hu, he⟩
    · exact Or.inl (ifPresent_isCer hrun _ he)
    · rcases bind_error he with he | ⟨u', hu', he⟩
      · exact Or.inl (ifPresent_isCer hevidence _ he)
      · rcases bind_error he with he | ⟨_, _, he⟩
        · exact Or.inl (requireScope_isCer _ he)
        · exact hinteger (ArtifactRow.bindable_iff (a.toRow env k p)) (Submission.refused
            (artifactSubmission_lawful env a k p) (h.artifact_readable a k p) artifactsTable_keyed
            (artifactRow_parents (r := a.toRow env k p) (ifPresent_ok (fun _ _ => requireRun_ok) hu)
              (ifPresent_ok (fun _ _ => requireEvidence_ok) hu')) he)
  | attachArtifact i x r => exact Or.inl (h.attachArtifact_error (hreply he))
  | recordPromotion t k =>
    exact hbound (PromotionRow.bindable _) (Submission.refused (promotionSubmission_lawful env t k)
      (h.promotion_readable t k) promotionsTable_keyed (fun fk hfk => by cases hfk) (hreply he))
  | recordHealth x k n =>
    exact hbound (HealthRow.bindable _)
      (Submission.refused (healthSubmission_lawful env x k n) (h.health_readable x k n)
      healthRecordsTable_keyed (fun fk hfk => by cases hfk) (hreply he))

theorem Exc.noSqlError_of_isCer {e : Exc} (h : e.isCer = true) : e.noSqlError := by
  cases e <;> first | rfl | cases h

/-- None of the ten writes ends in a `sqlite3.Error`, whatever record it is given. -/
theorem WellFormed.noSqlError {env : Env} {db : Database} (h : WellFormed env db) (w : Write) :
    ∀ e, w.run env db = .error e → e.noSqlError := by
  intro e he
  rcases h.run_error he with hcer | ⟨_, rfl⟩ | ⟨_, _, t, _, ht⟩
  · exact Exc.noSqlError_of_isCer hcer
  · rfl
  · exact toUtc_noSqlError ht

/-- **Transactional references never dangle and no constraint is ever hit.**  In every reachable
database each reference names an existing row, and no write, whatever it is given, is
refused by a constraint of the schema. -/
theorem references_hold_and_no_constraint_is_hit (env : Env) (db : Database) (h : Reachable env db) :
    ((∀ v ∈ db.strategyVersions, ∃ s ∈ db.strategies, s.strategyId = v.strategyId) ∧
      (∀ r ∈ db.runs, ∃ e ∈ db.experiments, e.experimentId = r.experimentId) ∧
      (∀ e ∈ db.evidence, ∀ i, e.runId = some i → ∃ r ∈ db.runs, r.runId = i) ∧
      (∀ e ∈ db.evidence, ∀ i, e.experimentId = some i → ∃ x ∈ db.experiments, x.experimentId = i) ∧
      (∀ a ∈ db.artifacts, ∀ i, a.runId = some i → ∃ r ∈ db.runs, r.runId = i) ∧
      (∀ a ∈ db.artifacts, ∀ i, a.evidenceId = some i → ∃ e ∈ db.evidence, e.evidenceId = i)) ∧
    ∀ (w : Write) (constraint : String), w.run env db ≠ .error (.integrityError constraint) := by
  have hw := h.wellFormed
  refine ⟨⟨hw.versionStrategy, hw.runExperiment, fun e he i hi => hw.evidenceRun e he i hi,
    fun e he i hi => hw.evidenceExperiment e he i hi, fun a ha i hi => hw.artifactRun a ha i hi,
    fun a ha i hi => hw.artifactEvidence a ha i hi⟩, fun w c hc => by cases hw.noSqlError w _ hc⟩

theorem sampleRegistry_references :
    (∀ r ∈ sampleRegistry.runs, ∃ e ∈ sampleRegistry.experiments, e.experimentId = r.experimentId) ∧
      ∀ (w : Write) (c : String), w.run .reference sampleRegistry ≠ .error (.integrityError c) :=
  have h := references_hold_and_no_constraint_is_hit .reference sampleRegistry sampleRegistry_reachable
  ⟨h.1.2.1, h.2⟩

end Cer
