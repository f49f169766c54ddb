import Cer.Metadata.Binding

/-!
# First submissions

The five writes that record a producer's work, seen alike: `Write.target` is the table
and the primary identity a write names.  A write either leaves the database as it is or
adds one row under its own identity and key (`inserting_run_cases`); where both are free
it adds it (`Write.run_new`).
-/

namespace Cer

open Py

/-- The table a record goes to and the identity it names. -/
def Write.target : Write → Option (KeyedTable × String)
  | .createExperiment e _ => some (.experiments, e.experimentId)
  | .createRun r _ => some (.runs, r.runId)
  | .appendEvidence e => some (.evidence, e.evidenceId)
  | .recordPromotion t _ => some (.promotions, t.transitionId)
  | .recordHealth h _ _ => some (.healthRecords, h.healthId)
  | _ => none

theorem Write.target_cases {w : Write} {κ : KeyedTable} {i : String} (h : w.target = some (κ, i)) :
    (∃ e k, w = .createExperiment e k ∧ κ = .experiments ∧ i = e.experimentId) ∨
      (∃ r k, w = .createRun r k ∧ κ = .runs ∧ i = r.runId) ∨
      (∃ e, w = .appendEvidence e ∧ κ = .evidence ∧ i = e.evidenceId) ∨
      (∃ t k, w = .recordPromotion t k ∧ κ = .promotions ∧ i = t.transitionId) ∨
      ∃ x k n, w = .recordHealth x k n ∧ κ = .healthRecords ∧ i = x.healthId := by
  unfold Write.target at h
  split at h <;> cases h <;> simp

/-- A row of the table has the identity. -/
def Database.HasIdent (db : Database) (κ : KeyedTable) (i : String) : Prop := ∃ row ∈ db.keyedRows κ, row.ident = i

/-- `db'` is `db` with one more row at the end of one table. -/
def Database.Adds (db db' : Database) (κ : KeyedTable) (row : KeyedRow) : Prop :=
  ∀ κ', db'.keyedRows κ' = if κ' = κ then db.keyedRows κ' ++ [row] else db.keyedRows κ'

section adds
variable {db db' : Database} {κ : KeyedTable} {row : KeyedRow}

theorem Database.Adds.self (h : db.Adds db' κ row) : db'.keyedRows κ = db.keyedRows κ ++ [row] := by
  rw [h κ, if_pos rfl]

theorem Database.Adds.other (h : db.Adds db' κ row) {κ' : KeyedTable} (hne : κ' ≠ κ) :
    db'.keyedRows κ' = db.keyedRows κ' := by
  rw [h κ', if_neg hne]

theorem Database.Adds.hasIdent (h : db.Adds db' κ row) : db'.HasIdent κ row.ident := by
  refine ⟨row, ?_, rfl⟩
  rw [h.self]
  exact List.mem_append_right _ (List.mem_singleton_self _)

theorem adds_experiment (db : Database) (r : ExperimentRow) :
    db.Adds { db with experiments := db.experiments ++ [r] } .experiments (.experiment r) := by
  intro κ
  cases κ <;> simp [Database.keyedRows]

theorem adds_run (db : Database) (r : RunRow) : db.Adds { db with runs := db.runs ++ [r] } .runs (.run r) := by
  intro κ
  cases κ <;> simp [Database.keyedRows]

theorem adds_evidence (db : Database) (r : EvidenceRow) :
    db.Adds { db with evidence := db.evidence ++ [r] } .evidence (.evidence r) := by
  intro κ
  cases κ <;> simp [Database.keyedRows]

theorem adds_promotion (db : Database) (r : PromotionRow) :
    db.Adds { db with promotions := db.promotions ++ [r] } .promotions (.promotion r) := by
  intro κ
  cases κ <;> simp [Database.keyedRows]

theorem adds_health (db : Database) (r : HealthRow) :
    db.Adds { db with healthRecords := db.healthRecords ++ [r] } .healthRecords (.health r) := by
  intro κ
  cases κ <;> simp [Database.keyedRows]

end adds

/-- References stay. -/
theorem refsExist_mono {db db' : Database} (h : db.Extends db') {w : Write} (hr : w.RefsExist db) :
    w.RefsExist db' := by
  cases w with
  | createRun r k => exact h.hasExperiment hr
  | appendEvidence e => exact ⟨fun i hi => h.hasRun (hr.1 i hi), fun i hi => h.hasExperiment (hr.2 i hi)⟩
  | registerArtifact a k p => exact ⟨fun i hi => h.hasRun (hr.1 i hi), fun i hi => h.hasEvidence (hr.2 i hi)⟩
  | _ => trivial

/-- **One write**: nothing, or one row under the write's own identity and key. -/
theorem inserting_run_cases {env : Env} {db db' : Database} {w : Write} {rep : Reply} {κ : KeyedTable} {i : String}
    (ht : w.target = some (κ, i)) (h : w.run env db = .ok (rep, db')) :
    db' = db ∨ ∃ row, db.Adds db' κ row ∧ row.ident = i ∧ row.key = w.keyed.map Prod.snd := by
  have he := effect_of_run h
  rcases Write.target_cases ht with ⟨e, k, rfl, rfl, rfl⟩ | ⟨r, k, rfl, rfl, rfl⟩ | ⟨e, rfl, rfl, rfl⟩ |
    ⟨t, k, rfl, rfl, rfl⟩ | ⟨x, k, n, rfl, rfl, rfl⟩
  · cases he with
    | unchanged => exact Or.inl rfl
    | experiment _ _ _ => exact Or.inr ⟨_, adds_experiment db _, rfl, by cases k <;> rfl⟩
  · cases he with
    | unchanged => exact Or.inl rfl
    | run _ _ _ _ => exact Or.inr ⟨_, adds_run db _, rfl, by cases k <;> rfl⟩
  · cases he with
    | unchanged => exact Or.inl rfl
    | evidence _ _ _ _ => exact Or.inr ⟨_, adds_evidence db _, rfl, rfl⟩
  · cases he with
    | unchanged => exact Or.inl rfl
    | promotion _ _ _ => exact Or.inr ⟨_, adds_promotion db _, rfl, by cases k <;> rfl⟩
  · cases he with
    | unchanged => exact Or.inl rfl
    | health _ _ _ => exact Or.inr ⟨_, adds_health db _, rfl, by cases k <;> rfl⟩

/-- The write's key is not used: it has none, or one that no row has. -/
def Write.KeyFree (db : Database) (w : Write) : Prop := ∀ κ p k, w.keyed = some (κ, p, k) → ¬ db.KeyUsed κ p k

theorem ident_free {Row : Type} {rows : List Row} {f : Row → KeyedRow} {g : Row → String} {i : String}
    (hf : ∀ r, (f r).ident = g r) (h : ¬ ∃ row ∈ rows.map f, row.ident = i) : ∀ r ∈ rows, g r ≠ i :=
  fun r hr he => h ⟨f r, List.mem_map_of_mem hr, (hf r).trans he⟩

section new
variable {env : Env} {db : Database}

/-- **A first submission**: with its key and identity free and its references present, the record is inserted
and handed back. -/
theorem Write.run_new {w : Write} {κ : KeyedTable} {i : String}
    (ht : w.target = some (κ, i)) (hκ : κ ≠ .evidence) (hkey : w.KeyFree db) (hrefs : w.RefsExist db)
    (hnew : ¬ db.HasIdent κ i) : ∃ sub row db', w.submitted = some sub ∧ sub.ident = i ∧
      w.run env db = .ok (sub, db') ∧ db.Adds db' κ row ∧ row.ident = i := by
  rcases Write.target_cases ht with ⟨e, k, rfl, rfl, rfl⟩ | ⟨r, k, rfl, rfl, rfl⟩ | ⟨e, rfl, rfl, rfl⟩ |
    ⟨t, k, rfl, rfl, rfl⟩ | ⟨x, k, n, rfl, rfl, rfl⟩
  · have hk : (experimentSubmission env e k).byKey db = none :=
      Submission.byKey_unused (keyFree_rows (f := KeyedRow.experiment) (fun _ => rfl) fun k' hk' => by
        subst hk'
        exact hkey _ _ _ rfl)
    have hi : (experimentSubmission env e k).byId db = none := (experimentSubmission_lawful env e k).byId_unused
      (ident_free (f := KeyedRow.experiment) (g := ExperimentRow.ident) (fun _ => rfl) hnew)
    have hrun := Submission.run_insert (experimentSubmission_lawful env e k) experimentsTable_keyed
      (fun fk hfk => by cases hfk) (ExperimentRow.bindable _) hk hi
    exact ⟨.experiment e, _, _, rfl, rfl, congrArg (asReply Reply.experiment) hrun, adds_experiment db _, rfl⟩
  · have hk : (runSubmission env db r k).byKey db = none :=
      Submission.byKey_unused (keyFree_rows (f := KeyedRow.run) (fun _ => rfl) fun k' hk' => by
        subst hk'
        exact hkey _ _ _ rfl)
    have hi : (runSubmission env db r k).byId db = none := (runSubmission_lawful env db r k).byId_unused
      (ident_free (f := KeyedRow.run) (g := RunRow.ident) (fun _ => rfl) hnew)
    have hrun := Submission.run_insert (runSubmission_lawful env db r k) runsTable_keyed
      (runRow_parents (r := r.toRow env k) hrefs) (RunRow.bindable _) hk hi
    refine ⟨.run r, .run (r.toRow env k), _, rfl, rfl, ?_, adds_run db _, rfl⟩
    show asReply Reply.run (requireExperiment db r.experimentId >>= fun _ => _) = _
    rw [requireExperiment_of hrefs]
    exact congrArg (asReply Reply.run) hrun
  · exact absurd rfl hκ
  · have hk : (promotionSubmission env t k).byKey db = none :=
      Submission.byKey_unused (keyFree_rows (f := KeyedRow.promotion) (fun _ => rfl) fun k' hk' => by
        subst hk'
        exact hkey _ _ _ rfl)
    have hi : (promotionSubmission env t k).byId db = none := (promotionSubmission_lawful env t k).byId_unused
      (ident_free (f := KeyedRow.promotion) (g := PromotionRow.ident) (fun _ => rfl) hnew)
    have hrun := Submission.run_insert (promotionSubmission_lawful env t k) promotionsTable_keyed
      (fun fk hfk => by cases hfk) (PromotionRow.bindable _) hk hi
    exact ⟨.promotion t, _, _, rfl, rfl, congrArg (asReply Reply.promotion) hrun, adds_promotion db _, rfl⟩
  · have hk : (healthSubmission env x k n).byKey db = none :=
      Submission.byKey_unused (keyFree_rows (f := KeyedRow.health) (fun _ => rfl) fun k' hk' => by
        subst hk'
        exact hkey _ _ _ rfl)
    have hi : (healthSubmission env x k n).byId db = none := (healthSubmission_lawful env x k n).byId_unused
      (ident_free (f := KeyedRow.health) (g := HealthRow.ident) (fun _ => rfl) hnew)
    have hrun := Submission.run_insert (healthSubmission_lawful env x k n) healthRecordsTable_keyed
      (fun fk hfk => by cases hfk) (HealthRow.bindable _) hk hi
    exact ⟨.health x, _, _, rfl, rfl, congrArg (asReply Reply.health) hrun, adds_health db _, rfl⟩

end new

/-! ## Artifacts -/

/-- A record under an identity and a key that are free, linked to what is there, is inserted. -/
theorem registerArtifact_new {env : Env} {db : Database} {a : ArtifactRecord} {k p : Option String}
    (hrun : ∀ i ∈ a.runId, db.hasRun i) (hevidence : ∀ i ∈ a.evidenceId, db.hasEvidence i)
    (hscope : requireScope k p = .ok ()) (hsize : Sql.fitsInt64 (.integer a.sizeBytes) = true)
    (hkey : ∀ p' k', p = some p' → k = some k' → ∀ row ∈ db.artifacts, row.key ≠ some (p', k'))
    (hid : ∀ row ∈ db.artifacts, row.artifactId ≠ a.artifactId) :
    registerArtifact env db a k p = .ok (a, { db with artifacts := db.artifacts ++ [a.toRow env k p] }) := by
  have hfk := @artifactRow_parents db (a.toRow env k p) hrun hevidence
  have hk : (artifactSubmission env a k p).byKey db = none := by
    refine Submission.byKey_unused fun x hx row hrow => ?_
    cases p with
    | none => cases hx
    | some p' => cases k with
      | none => cases hx
      | some k' =>
        cases hx
        exact hkey p' k' rfl rfl row hrow
  have hi : (artifactSubmission env a k p).byId db = none := (artifactSubmission_lawful env a k p).byId_unused hid
  have hins := Submission.run_insert (artifactSubmission_lawful env a k p) artifactsTable_keyed hfk
    ((ArtifactRow.bindable_iff _).2 hsize) hk hi
  unfold registerArtifact
  rw [ifPresent_of fun i hi => requireRun_of (hrun i hi),
    ifPresent_of fun i hi => requireEvidence_of (hevidence i hi), hscope]
  exact hins

end Cer
