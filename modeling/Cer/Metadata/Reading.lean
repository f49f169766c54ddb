import Cer.Metadata.Invariant

/-!
# Reading rows back

In a well-formed database every row decodes, to the record it was written for (`stored`)
with a run's or an artifact's later changes; so the lookups of the inserting writes
never fail on what they find (`Submission.Readable`).
-/

namespace Cer

open Py

/-! ## Rows -/

theorem StrategyRow.Origin.read {r : StrategyRow} (h : r.Origin) :
    ∃ s : Strategy, s.Valid ∧ r = s.toRow ∧ rowToStrategy r = .ok s := by
  obtain ⟨s, hv, rfl⟩ := h
  exact ⟨s, hv, rfl, rowToStrategy_toRow hv⟩

theorem StrategyVersionRow.Origin.read {r : StrategyVersionRow} (h : r.Origin) :
    ∃ v : StrategyVersion, v.Valid ∧ r = v.toRow ∧ rowToStrategyVersion r = .ok v := by
  obtain ⟨v, hv, rfl⟩ := h
  exact ⟨v, hv, rfl, rowToStrategyVersion_toRow hv⟩

theorem ExperimentRow.Origin.read {env : Env} {r : ExperimentRow} (h : r.Origin env) :
    ∃ (e : Experiment) (k : Option String), e.Valid ∧ r = e.toRow env k ∧ rowToExperiment r = .ok e := by
  obtain ⟨e, k, hv, rfl⟩ := h
  exact ⟨e, k, hv, rfl, rowToExperiment_toRow env hv k⟩

theorem RunRow.Origin.read {env : Env} {r : RunRow} (h : r.Origin env) :
    ∃ (run : Run) (k : Option String) (status : RunStatus) (endedAt : Option DateTime), run.Valid ∧
      (status = run.status ∧ endedAt = run.endedAt ∨ run.status = .open_) ∧
      r = { run.toRow env k with status := status.value, endedAt := endedAt.map dtToStr } ∧
      rowToRun r = .ok { run with status := status, endedAt := endedAt } := by
  obtain ⟨run, k, s, e, hv, hs, rfl⟩ := h
  exact ⟨run, k, s, e, hv, hs, rfl, rowToRun_toRow env hv k s e⟩

theorem EvidenceRow.Origin.read {env : Env} {r : EvidenceRow} (h : r.Origin env) :
    ∃ e : EvidenceRecord, e.Valid ∧ r = e.toRow env ∧ rowToEvidence env r = .ok e.stored := by
  obtain ⟨e, hv, rfl⟩ := h
  exact ⟨e, hv, rfl, rowToEvidence_toRow env hv⟩

theorem ArtifactRow.Origin.read {env : Env} {r : ArtifactRow} (h : r.Origin env) :
    ∃ (a : ArtifactRecord) (k p : Option String), a.Valid ∧ r = a.toRow env k p ∧ rowToArtifact r = .ok a := by
  obtain ⟨a, k, p, hv, _, rfl⟩ := h
  exact ⟨a, k, p, hv, rfl, rowToArtifact_toRow env hv k p⟩

theorem PromotionRow.Origin.read {env : Env} {r : PromotionRow} (h : r.Origin env) :
    ∃ (t : PromotionTransition) (k : Option String), t.Valid ∧ r = t.toRow env k ∧
    rowToPromotion env r = .ok t := by
  obtain ⟨t, k, hv, rfl⟩ := h
  exact ⟨t, k, hv, rfl, rowToPromotion_toRow env hv k⟩

theorem HealthRow.Origin.read {env : Env} {r : HealthRow} (h : r.Origin env) :
    ∃ (x : StrategyHealthRecord) (k : Option String), x.Valid ∧ r = x.toRow env k ∧
      rowToHealth env r = .ok x.stored := by
  obtain ⟨x, k, hv, rfl⟩ := h
  exact ⟨x, k, hv, rfl, rowToHealth_toRow env hv k⟩

section wellFormed
variable {env : Env} {db : Database}

/-- The row of an identity is the one a lookup by it finds. -/
theorem WellFormed.find_run (h : WellFormed env db) {r : RunRow} (hr : r ∈ db.runs) :
    db.runs.find? (·.runId == r.runId) = some r :=
  h.runs.distinct.find_ident hr fun _ => beq_iff_eq

theorem WellFormed.find_evidence (h : WellFormed env db) {r : EvidenceRow} (hr : r ∈ db.evidence) :
    db.evidence.find? (·.evidenceId == r.evidenceId) = some r :=
  h.evidence.distinct.find_ident hr fun _ => beq_iff_eq

theorem WellFormed.find_artifact (h : WellFormed env db) {r : ArtifactRow} (hr : r ∈ db.artifacts) :
    db.artifacts.find? (·.artifactId == r.artifactId) = some r :=
  h.artifacts.distinct.find_ident hr fun _ => beq_iff_eq

theorem WellFormed.fetchRun_eq (h : WellFormed env db) {r : RunRow} (hr : r ∈ db.runs) :
    fetchRun db r.runId = rowToRun r := by
  unfold fetchRun
  rw [h.find_run hr]

theorem WellFormed.fetchEvidence_eq (h : WellFormed env db) {r : EvidenceRow} (hr : r ∈ db.evidence) :
    fetchEvidence env db r.evidenceId = rowToEvidence env r := by
  unfold fetchEvidence
  rw [h.find_evidence hr]

end wellFormed

/-! ## Submissions -/

/-- What an inserting write reads back it can decode, and its identity path refuses only with
`ImmutabilityError`. -/
structure Submission.Readable {Row Rec : Type} (s : Submission Row Rec) (db : Database) : Prop where
  replay : ∀ r ∈ s.table.rows db, ∃ rec, s.replay r = .ok rec
  existing : ∀ r ∈ s.table.rows db, s.sameId r = true →
    (∃ rec, s.existing r = .ok rec) ∨ ∃ m, s.existing r = .error (immutability m)

/-! ### Decode, compare, refuse: the identity path of most writes -/

section compare
variable {Row Rec : Type} {read : Row → Except Exc Rec} {r : Row} {rec : Rec}

theorem compare_same (hr : read r = .ok rec) (differs : Rec → Prop) [DecidablePred differs] (m : String)
    (h : ¬ differs rec) :
    (do let x ← read r; if differs x then .error (immutability m) else .ok x : Except Exc Rec) = .ok rec := by
  rw [hr]
  show (if differs rec then Except.error (immutability m) else Except.ok rec) = _
  rw [if_neg h]

theorem compare_differs (hr : read r = .ok rec) (differs : Rec → Prop) [DecidablePred differs] (m : String)
    (h : differs rec) :
    (do let x ← read r; if differs x then .error (immutability m) else .ok x : Except Exc Rec) =
      .error (immutability m) := by
  rw [hr]
  show (if differs rec then Except.error (immutability m) else Except.ok rec) = _
  rw [if_pos h]

theorem compare_cases (hr : read r = .ok rec) (differs : Rec → Prop) [DecidablePred differs] (m : String) :
    (∃ y, (do let x ← read r; if differs x then .error (immutability m) else .ok x : Except Exc Rec) = .ok y) ∨
      ∃ m', (do let x ← read r; if differs x then .error (immutability m) else .ok x : Except Exc Rec) =
        .error (immutability m') := by
  by_cases hd : differs rec
  · exact Or.inr ⟨m, compare_differs hr differs m hd⟩
  · exact Or.inl ⟨rec, compare_same hr differs m hd⟩

end compare

section readable
variable {env : Env} {db : Database}

theorem WellFormed.strategy_readable (h : WellFormed env db) (s : Strategy) :
    (strategySubmission env s).Readable db := by
  refine ⟨fun r hr => ?_, fun r hr _ => ?_⟩
  · obtain ⟨x, _, _, hx⟩ := (h.strategies.origin r hr).read
    exact ⟨x, hx⟩
  · obtain ⟨x, _, _, hx⟩ := (h.strategies.origin r hr).read
    exact compare_cases hx (fun y => fingerprint env y.dump strategyFpExclude ≠
      fingerprint env s.dump strategyFpExclude) _

theorem WellFormed.strategyVersion_readable (h : WellFormed env db) (v : StrategyVersion) :
    (strategyVersionSubmission env v).Readable db := by
  refine ⟨fun r hr => ?_, fun r hr _ => ?_⟩
  · obtain ⟨x, _, _, hx⟩ := (h.strategyVersions.origin r hr).read
    exact ⟨x, hx⟩
  · obtain ⟨x, _, _, hx⟩ := (h.strategyVersions.origin r hr).read
    exact compare_cases hx (fun y => fingerprint env y.dump strategyVersionFpExclude ≠
      fingerprint env v.dump strategyVersionFpExclude) _

theorem WellFormed.experiment_readable (h : WellFormed env db) (e : Experiment) (k : Option String) :
    (experimentSubmission env e k).Readable db := by
  refine ⟨fun r hr => ?_, fun r hr _ => ?_⟩
  · obtain ⟨x, _, _, _, hx⟩ := (h.experiments.origin r hr).read
    exact ⟨x, hx⟩
  · obtain ⟨x, _, _, _, hx⟩ := (h.experiments.origin r hr).read
    exact compare_cases hx (fun y => y.fp env ≠ e.fp env) _

theorem WellFormed.run_readable (h : WellFormed env db) (r : Run) (k : Option String) :
    (runSubmission env db r k).Readable db := by
  refine ⟨fun x hx => ?_, fun x hx _ => Or.inr ⟨_, rfl⟩⟩
  obtain ⟨run, _, s, e, _, _, _, hread⟩ := (h.runs.origin x hx).read
  exact ⟨_, (h.fetchRun_eq hx).trans hread⟩

theorem WellFormed.evidence_readable (h : WellFormed env db) (e : EvidenceRecord) :
    (evidenceSubmission env db e).Readable db := by
  have hfetch : ∀ r ∈ db.evidence, ∃ rec, fetchEvidence env db r.evidenceId = .ok rec := by
    intro r hr
    obtain ⟨x, _, _, hx⟩ := (h.evidence.origin r hr).read
    exact ⟨_, (h.fetchEvidence_eq hr).trans hx⟩
  refine ⟨hfetch, fun r hr hid => ?_⟩
  show (∃ rec, (if r.contentFingerprint ≠ e.fp env then _ else fetchEvidence env db e.evidenceId) = .ok rec) ∨
    ∃ m, (if r.contentFingerprint ≠ e.fp env then _ else fetchEvidence env db e.evidenceId) =
      .error (immutability m)
  by_cases hfp : r.contentFingerprint ≠ e.fp env
  · rw [if_pos hfp]
    exact Or.inr ⟨_, rfl⟩
  · rw [if_neg hfp]
    have hid' : r.evidenceId = e.evidenceId := beq_iff_eq.1 hid
    rw [← hid']
    exact Or.inl (hfetch r hr)

theorem WellFormed.artifact_readable (h : WellFormed env db) (a : ArtifactRecord) (k p : Option String) :
    (artifactSubmission env a k p).Readable db := by
  have hread : ∀ r ∈ db.artifacts, ∃ rec, rowToArtifact r = .ok rec := by
    intro r hr
    obtain ⟨x, _, _, _, _, hx⟩ := (h.artifacts.origin r hr).read
    exact ⟨x, hx⟩
  refine ⟨hread, fun r hr _ => ?_⟩
  show (∃ rec, (if r.contentFingerprint ≠ a.fp env then _ else rowToArtifact r) = .ok rec) ∨
    ∃ m, (if r.contentFingerprint ≠ a.fp env then _ else rowToArtifact r) = .error (immutability m)
  by_cases hfp : r.contentFingerprint ≠ a.fp env
  · rw [if_pos hfp]
    exact Or.inr ⟨_, rfl⟩
  · rw [if_neg hfp]
    exact Or.inl (hread r hr)

theorem WellFormed.promotion_readable (h : WellFormed env db) (t : PromotionTransition) (k : Option String) :
    (promotionSubmission env t k).Readable db := by
  refine ⟨fun r hr => ?_, fun r hr _ => ?_⟩
  · obtain ⟨x, _, _, _, hx⟩ := (h.promotions.origin r hr).read
    exact ⟨x, hx⟩
  · obtain ⟨x, _, _, _, hx⟩ := (h.promotions.origin r hr).read
    exact compare_cases hx (fun y => (!pyEq true (.obj y.dump) (.obj t.dump)) = true) _

theorem WellFormed.health_readable (h : WellFormed env db) (x : StrategyHealthRecord)
    (k : Option String) (n : Bool) :
    (healthSubmission env x k n).Readable db := by
  refine ⟨fun r hr => ?_, fun r hr _ => ?_⟩
  · obtain ⟨y, _, _, _, hy⟩ := (h.healthRecords.origin r hr).read
    exact ⟨_, hy⟩
  · obtain ⟨y, _, _, _, hy⟩ := (h.healthRecords.origin r hr).read
    exact compare_cases hy (fun y => (!pyEq n (.obj y.dump) (.obj x.dump)) = true) _

end readable

end Cer
