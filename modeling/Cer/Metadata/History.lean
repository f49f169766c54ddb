import Cer.Metadata.Constraints
import Cer.Metadata.Content

/-!
# Append-only history

Over any sequence of calls of the ten writes, successful or failing, from a freshly
migrated database: rows stay, a run changes only in a close while it is OPEN, an
artifact's links only in an attach from NULL.  A write that names a used identity
hands back the stored record with the submitted content, or raises a `CERError`; the
exceptions are a health record whose NaN a REAL column did not keep, a record that differs
from the stored one in numbers that its fingerprint leaves out, and a close whose end
`to_utc` refuses.
-/

namespace Cer

open Py

/-! ## What a call names and submits -/

def Reply.dump : Reply → List (String × Json)
  | .strategy s => s.dump
  | .strategyVersion v => v.dump
  | .experiment e => e.dump
  | .run r => r.dump
  | .evidence e => e.dump
  | .artifact a => a.dump
  | .promotion t => t.dump
  | .health h => h.dump

/-- The record's fields with their values in Python. -/
def Reply.values : Reply → List (String × Json)
  | .strategy s => s.dump
  | .strategyVersion v => v.dump
  | .experiment e => e.dump
  | .run r => r.dump
  | .evidence e => e.values
  | .artifact a => a.dump
  | .promotion t => t.dump
  | .health h => h.values

/-- The record a write submits; a close and an attach submit none. -/
def Write.submitted : Write → Option Reply
  | .registerStrategy s => some (.strategy s)
  | .registerStrategyVersion v => some (.strategyVersion v)
  | .createExperiment e _ => some (.experiment e)
  | .createRun r _ => some (.run r)
  | .closeRun _ _ _ => none
  | .appendEvidence e => some (.evidence e)
  | .registerArtifact a _ _ => some (.artifact a)
  | .attachArtifact _ _ _ => none
  | .recordPromotion t _ => some (.promotion t)
  | .recordHealth h _ _ => some (.health h)

/-- The write names a primary identity that a row has. -/
def Write.NamesUsed (db : Database) : Write → Prop
  | .registerStrategy s => ∃ r ∈ db.strategies, r.ident = s.strategyId
  | .registerStrategyVersion v => ∃ r ∈ db.strategyVersions, r.ident = (v.strategyId, v.strategyVersion)
  | .createExperiment e _ => ∃ r ∈ db.experiments, r.ident = e.experimentId
  | .createRun run _ => ∃ r ∈ db.runs, r.ident = run.runId
  | .closeRun i _ _ => ∃ r ∈ db.runs, r.ident = i
  | .appendEvidence e => ∃ r ∈ db.evidence, r.ident = e.evidenceId
  | .registerArtifact a _ _ => ∃ r ∈ db.artifacts, r.ident = a.artifactId
  | .attachArtifact i _ _ => ∃ r ∈ db.artifacts, r.ident = i
  | .recordPromotion t _ => ∃ r ∈ db.promotions, r.ident = t.transitionId
  | .recordHealth h _ _ => ∃ r ∈ db.healthRecords, r.ident = h.healthId

/-- The rows the submission refers to exist. -/
def Write.RefsExist (db : Database) : Write → Prop
  | .createRun r _ => db.hasExperiment r.experimentId
  | .appendEvidence e => (∀ i ∈ e.runId, db.hasRun i) ∧ ∀ i ∈ e.experimentId, db.hasExperiment i
  | .registerArtifact a _ _ => (∀ i ∈ a.runId, db.hasRun i) ∧ ∀ i ∈ a.evidenceId, db.hasEvidence i
  | _ => True

/-- The exclusion set of the record's type; an artifact whose key is bound is compared with the larger one. -/
def Write.exclude (env : Env) (db : Database) : Write → List String
  | .registerStrategy _ => strategyFpExclude
  | .registerStrategyVersion _ => strategyVersionFpExclude
  | .createExperiment _ _ => experimentFpExclude
  | .createRun _ _ => runFpExclude
  | .appendEvidence _ => evidenceFpExclude
  | .registerArtifact a k p =>
    if ((artifactSubmission env a k p).byKey db).isSome then artifactIdemFpExclude else artifactFpExclude
  | .recordPromotion _ _ => promotionFpExclude
  | .recordHealth _ _ _ => healthFpExclude
  | .closeRun _ _ _ | .attachArtifact _ _ _ => []

/-- The record is read back from a row of the database. -/
def Database.Holds (env : Env) (db : Database) : Reply → Prop
  | .strategy s => ∃ r ∈ db.strategies, rowToStrategy r = .ok s
  | .strategyVersion v => ∃ r ∈ db.strategyVersions, rowToStrategyVersion r = .ok v
  | .experiment e => ∃ r ∈ db.experiments, rowToExperiment r = .ok e
  | .run run => ∃ r ∈ db.runs, rowToRun r = .ok run
  | .evidence e => ∃ r ∈ db.evidence, rowToEvidence env r = .ok e
  | .artifact a => ∃ r ∈ db.artifacts, rowToArtifact r = .ok a
  | .promotion t => ∃ r ∈ db.promotions, rowToPromotion env r = .ok t
  | .health h => ∃ r ∈ db.healthRecords, rowToHealth env r = .ok h

/-- `rep` has the submitted content; a run submitted OPEN may have got its status and end from a close. -/
def HasContent (exclude : List String) (rep submitted : Reply) : Prop :=
  FieldsAgree exclude rep.values submitted.values ∨
    ∃ (run : Run) (status : RunStatus) (endedAt : Option DateTime), run.status = .open_ ∧
      rep = .run { run with status := status, endedAt := endedAt } ∧ FieldsAgree exclude run.dump submitted.dump

/-- The outcome is a `CERError`, or the stored record with the submitted content. -/
def GoodOutcome (env : Env) (exclude : List String) (submitted : Option Reply) :
    Except Exc (Reply × Database) → Prop
  | .error e => e.isCer = true
  | .ok (rep, db') => db'.Holds env rep ∧ ∀ s ∈ submitted, HasContent exclude rep s

/-- The submission has a canonical text: its integers and its nesting are within the limits. -/
def Write.HasText (env : Env) (w : Write) : Prop := w.textError env = none

/-- A close whose end is naive, or outside `datetime`'s range in UTC. -/
def Write.RefusedEnd : Write → Prop
  | .closeRun _ _ t => ∀ x, toUtc t ≠ .ok x
  | _ => False

/-! ## Texts that are fingerprinted -/

/-- The canonical text of a record that is stored in `db`. -/
inductive StoredText (env : Env) (db : Database) : String → Prop
  | strategy (s : Strategy) (mem : s.toRow ∈ db.strategies) :
    StoredText env db (canonical env s.dump strategyFpExclude)
  | strategyVersion (v : StrategyVersion) (mem : v.toRow ∈ db.strategyVersions) :
    StoredText env db (canonical env v.dump strategyVersionFpExclude)
  | experiment (e : Experiment) (k : Option String) (mem : e.toRow env k ∈ db.experiments) :
    StoredText env db (canonical env e.dump experimentFpExclude)
  | run (r : Run) (k : Option String) (status : String) (endedAt : Option String)
    (mem : { r.toRow env k with status := status, endedAt := endedAt } ∈ db.runs) :
    StoredText env db (canonical env r.dump runFpExclude)
  | evidence (e : EvidenceRecord) (mem : e.toRow env ∈ db.evidence) :
    StoredText env db (canonical env e.dump evidenceFpExclude)
  | artifact (a : ArtifactRecord) (k p : Option String) (mem : a.toRow env k p ∈ db.artifacts)
    (exclude : List String)
    (set : exclude = artifactFpExclude ∨ exclude = artifactIdemFpExclude) :
    StoredText env db (canonical env a.dump exclude)
  | promotion (t : PromotionTransition) (k : Option String) (mem : t.toRow env k ∈ db.promotions) :
    StoredText env db (canonical env t.dump promotionFpExclude)
  | health (h : StrategyHealthRecord) (k : Option String) (mem : h.toRow env k ∈ db.healthRecords) :
    StoredText env db (canonical env h.dump healthFpExclude)

/-- The canonical texts a write fingerprints. -/
def Write.texts (env : Env) : Write → List String
  | .registerStrategy s => [canonical env s.dump strategyFpExclude]
  | .registerStrategyVersion v => [canonical env v.dump strategyVersionFpExclude]
  | .createExperiment e _ => [canonical env e.dump experimentFpExclude]
  | .createRun r _ => [canonical env r.dump runFpExclude]
  | .appendEvidence e => [canonical env e.dump evidenceFpExclude]
  | .registerArtifact a _ _ => [canonical env a.dump artifactFpExclude, canonical env a.dump artifactIdemFpExclude]
  | .recordPromotion t _ => [canonical env t.dump promotionFpExclude]
  | .recordHealth h _ _ => [canonical env h.dump healthFpExclude]
  | .closeRun _ _ _ | .attachArtifact _ _ _ => []

/-- SHA-256 tells the texts of the submission from those of the stored records. -/
def NoCollisionAt (env : Env) (db : Database) (w : Write) : Prop :=
  ∀ t, StoredText env db t → ∀ t' ∈ w.texts env, env.NoCollision t t'

/-! ## The outcome of an inserting write on a used identity -/

/-- It raises a `CERError`, or replays the row of its key, or that of its identity. -/
theorem Submission.used_outcome {Row Rec : Type} {s : Submission Row Rec} {db : Database} (hr : s.Readable db)
    (hused : ∃ r ∈ s.table.rows db, s.sameId r = true) :
    (∃ e, s.run db = .error e ∧ e.isCer = true) ∨
      (∃ r rec, s.byKey db = some r ∧ s.fpOf r = some s.fp ∧ s.replay r = .ok rec ∧ s.run db = .ok (rec, db)) ∨
      ∃ r rec, s.byKey db = none ∧ s.byId db = some r ∧ s.existing r = .ok rec ∧ s.run db = .ok (rec, db) := by
  unfold Submission.run
  cases hk : s.byKey db with
  | some r =>
    dsimp only
    by_cases hfp : s.fpOf r = some s.fp
    · obtain ⟨rec, hrec⟩ := hr.replay r (Submission.byKey_mem hk).1
      rw [if_neg (not_not_intro hfp), hrec]
      exact Or.inr (Or.inl ⟨r, rec, rfl, hfp, hrec, rfl⟩)
    · rw [if_pos hfp]
      exact Or.inl ⟨_, rfl, ErrorClass.isCer_exc _ _⟩
  | none =>
    dsimp only
    cases hi : s.byId db with
    | none =>
      obtain ⟨r, hr', hs⟩ := hused
      exact absurd hs (by simpa using List.find?_eq_none.1 hi r hr')
    | some r =>
      dsimp only
      rcases hr.existing r (List.mem_of_find?_eq_some hi) (List.find?_some hi) with ⟨rec, hrec⟩ | ⟨m, hm⟩
      · rw [hrec]
        exact Or.inr (Or.inr ⟨r, rec, rfl, rfl, hrec, rfl⟩)
      · rw [hm]
        exact Or.inl ⟨_, rfl, ErrorClass.isCer_exc _ _⟩

/-- Its outcome is good when both replays are. -/
theorem Submission.good {Row Rec : Type} {s : Submission Row Rec} {env : Env} {db : Database} {f : Rec → Reply}
    {exclude : List String} {submitted : Reply} (hr : s.Readable db)
    (hused : ∃ r ∈ s.table.rows db, s.sameId r = true)
    (hkey : ∀ r rec, s.byKey db = some r → s.fpOf r = some s.fp → s.replay r = .ok rec →
      db.Holds env (f rec) ∧ HasContent exclude (f rec) submitted)
    (hid : ∀ r rec, s.byKey db = none → s.byId db = some r → s.existing r = .ok rec →
      db.Holds env (f rec) ∧ HasContent exclude (f rec) submitted) :
    GoodOutcome env exclude (some submitted) (asReply f (s.run db)) := by
  rcases Submission.used_outcome hr hused with ⟨e, he, hcer⟩ | ⟨r, rec, hk, hfp, hrec, hrun⟩ |
    ⟨r, rec, hk, hi, hrec, hrun⟩
  · rw [he]
    exact hcer
  · rw [hrun]
    obtain ⟨h1, h2⟩ := hkey r rec hk hfp hrec
    exact ⟨h1, fun s hs => Option.some.inj hs ▸ h2⟩
  · rw [hrun]
    obtain ⟨h1, h2⟩ := hid r rec hk hi hrec
    exact ⟨h1, fun s hs => Option.some.inj hs ▸ h2⟩

theorem NoCollisionAt.agree {env : Env} {db : Database} {w : Write} {a b : List (String × Json)}
    {exclude : List String}
    (hn : NoCollisionAt env db w) (ha : nodupKeys (.obj a) = true) (hb : nodupKeys (.obj b) = true)
    (hs : StoredText env db (canonical env a exclude)) (ht : canonical env b exclude ∈ w.texts env)
    (hf : fingerprint env a exclude = fingerprint env b exclude) : FieldsAgree exclude a b :=
  fieldsAgree_of_canonical_eq ha hb (hn _ hs _ ht hf)

section respects
variable {env : Env} {db : Database}

/-- A text that may be missing is compared as it is. -/
theorem optStr_eq_of_norm {a b : Option String} (h : Py.norm (optStr a) = Py.norm (optStr b)) : a = b := by
  cases a with
  | none =>
    cases b with
    | none => rfl
    | some b => cases h
  | some a =>
    cases b with
    | none => cases h
    | some b =>
      have h' : Json.str a = Json.str b := h
      rw [Json.str.inj h']

/-- Stored evidence with the fingerprint of a submission has its key and its references. -/
theorem NoCollisionAt.evidence {x e : EvidenceRecord} (hn : NoCollisionAt env db (.appendEvidence e))
    (hx : x.Valid)
    (he : e.Valid) (hmem : x.toRow env ∈ db.evidence) (hfp : x.fp env = e.fp env) :
    FieldsAgree evidenceFpExclude x.dump e.dump ∧ (x.toRow env).key = some (e.producer, e.idempotencyKey) ∧
      x.runId = e.runId ∧ x.experimentId = e.experimentId := by
  have hagree : FieldsAgree evidenceFpExclude x.dump e.dump :=
    hn.agree (EvidenceRecord.nodupKeys_dump hx) (EvidenceRecord.nodupKeys_dump he) (.evidence x hmem)
      (List.mem_singleton_self _) hfp
  have hproducer : some (Json.str x.producer) = some (.str e.producer) := hagree "producer" (by decide)
  have hkey : some (Json.str x.idempotencyKey) = some (.str e.idempotencyKey) :=
    hagree "idempotency_key" (by decide)
  refine ⟨hagree, ?_, optStr_eq_of_norm (Option.some.inj (hagree "run_id" (by decide))),
    optStr_eq_of_norm (Option.some.inj (hagree "experiment_id" (by decide)))⟩
  show some (x.producer, x.idempotencyKey) = _
  rw [Json.str.inj (Option.some.inj hproducer), Json.str.inj (Option.some.inj hkey)]

section health
variable {x : StrategyHealthRecord} {k : Option String} {n : Bool}

end health

end respects

theorem Env.textError_not_isCer {env : Env} {j : Json} {e : Exc} (h : env.textError j = some e) :
    e.isCer = false := by
  unfold Env.textError at h
  split at h
  · cases h
    rfl
  · split at h
    · cases h
    · cases h
      rfl

theorem Write.textError_not_isCer {env : Env} {w : Write} {e : Exc} (h : w.textError env = some e) :
    e.isCer = false := by
  cases w with
  | appendEvidence x => exact Env.textError_not_isCer h
  | registerArtifact a k p => exact Env.textError_not_isCer h
  | recordHealth x k n => exact Env.textError_not_isCer h
  | _ => cases h

theorem Write.call_of_hasText {env : Env} {db : Database} {w : Write} (h : w.HasText env) :
    w.call env db = w.run env db := by
  unfold Write.call
  rw [show w.textError env = none from h]

/-- What a call commits its method committed. -/
theorem Write.run_of_call {env : Env} {db : Database} {w : Write} {x : Reply × Database}
    (h : w.call env db = .ok x) :
    w.run env db = .ok x := by
  unfold Write.call at h
  split at h
  · exact h
  · obtain ⟨_, _, h⟩ := bind_ok h
    cases h

/-- Without a text, the guards that come first are heard where they fail, and no `CERError` where they pass. -/
theorem Write.call_of_noText {env : Env} (db : Database) {w : Write} (h : ¬ w.HasText env) :
    (∃ e, w.call env db = .error e ∧ e.isCer = false) ∧ w.RefsExist db ∨
      (∃ m, w.call env db = .error (notFound m)) ∧ ¬ w.RefsExist db := by
  obtain ⟨x, hx⟩ := Option.ne_none_iff_exists'.1 h
  have hcall : w.call env db = w.requireReferences db >>= fun _ => .error x := by
    unfold Write.call
    rw [hx]
  have hguards : w.requireReferences db = .ok () ∧ w.RefsExist db ∨
      (∃ m, w.requireReferences db = .error (notFound m)) ∧ ¬ w.RefsExist db := by
    cases w with
    | appendEvidence e =>
      exact guards_cases (ifPresent_cases (requireRun_cases db) e.runId)
        (ifPresent_cases (requireExperiment_cases db) _)
    | registerArtifact a k p =>
      exact guards_cases (ifPresent_cases (requireRun_cases db) a.runId)
        (ifPresent_cases (requireEvidence_cases db) _)
    | recordHealth x k n => exact Or.inl ⟨rfl, trivial⟩
    | _ => exact absurd rfl h
  rw [hcall]
  rcases hguards with ⟨hok, hrefs⟩ | ⟨⟨m, he⟩, hrefs⟩
  · rw [hok]
    exact Or.inl ⟨⟨x, rfl, Write.textError_not_isCer hx⟩, hrefs⟩
  · rw [he]
    exact Or.inr ⟨⟨m, rfl⟩, hrefs⟩

/-- The database after a write: what it committed, or what was there before where it raised. -/
def commit (env : Env) (db : Database) (w : Write) : Database :=
  match w.call env db with
  | .ok (_, db') => db'
  | .error _ => db

theorem commit_effect (env : Env) (db : Database) (w : Write) : Effect env db w (commit env db w) := by
  unfold commit
  split
  · next h => exact effect_of_run (Write.run_of_call h)
  · exact .unchanged w

theorem foldl_commit_wellFormed {env : Env} {db : Database} (h : WellFormed env db) {ws : List Write}
    (hv : ∀ w ∈ ws, w.Valid) : WellFormed env (ws.foldl (commit env) db) := by
  induction ws generalizing db with
  | nil => exact h
  | cons w ws ih =>
    have hw := hv w (List.mem_cons_self ..)
    exact ih (h.effect hw (commit_effect env db w)) fun x hx => hv x (List.mem_cons_of_mem _ hx)

theorem foldl_commit_extends {env : Env} {db : Database} (h : WellFormed env db) {ws : List Write}
    (hv : ∀ w ∈ ws, w.Valid) : db.Extends (ws.foldl (commit env) db) := by
  induction ws generalizing db with
  | nil => exact .refl db
  | cons w ws ih =>
    have he := commit_effect env db w
    have hw := hv w (List.mem_cons_self ..)
    exact (h.extends he).trans (ih (h.effect hw he) fun x hx => hv x (List.mem_cons_of_mem _ hx))

/-- Which rows a step may change: the run a close names, while it is OPEN, and the artifact an attach names. -/
structure ChangesOnly (db : Database) (w : Write) (db' : Database) : Prop where
  strategies : ∀ r ∈ db.strategies, r ∈ db'.strategies
  strategyVersions : ∀ r ∈ db.strategyVersions, r ∈ db'.strategyVersions
  experiments : ∀ r ∈ db.experiments, r ∈ db'.experiments
  runs : ∀ r ∈ db.runs, r ∈ db'.runs ∨ r.status = RunStatus.open_.value ∧ ∃ s t, w = .closeRun r.runId s t
  evidence : ∀ r ∈ db.evidence, r ∈ db'.evidence
  artifacts : ∀ r ∈ db.artifacts, r ∈ db'.artifacts ∨ ∃ e x, w = .attachArtifact r.artifactId e x
  promotions : ∀ r ∈ db.promotions, r ∈ db'.promotions
  healthRecords : ∀ r ∈ db.healthRecords, r ∈ db'.healthRecords

theorem WellFormed.changesOnly {env : Env} {db db' : Database} {w : Write} (h : WellFormed env db)
    (he : Effect env db w db') : ChangesOnly db w db' := by
  have hkept : ChangesOnly db w db := ⟨fun _ => id, fun _ => id, fun _ => id, fun _ => Or.inl, fun _ => id,
    fun _ => Or.inl, fun _ => id, fun _ => id⟩
  cases he with
  | unchanged => exact hkept
  | strategy s _ => exact { hkept with strategies := fun _ => List.mem_append_left _ }
  | strategyVersion v _ _ => exact { hkept with strategyVersions := fun _ => List.mem_append_left _ }
  | experiment e k _ => exact { hkept with experiments := fun _ => List.mem_append_left _ }
  | run r k _ _ => exact { hkept with runs := fun _ hr => Or.inl (List.mem_append_left _ hr) }
  | evidence e _ _ _ => exact { hkept with evidence := fun _ => List.mem_append_left _ }
  | artifact a k p _ _ _ _ => exact { hkept with artifacts := fun _ hr => Or.inl (List.mem_append_left _ hr) }
  | promotion t k _ => exact { hkept with promotions := fun _ => List.mem_append_left _ }
  | health x k _ => exact { hkept with healthRecords := fun _ => List.mem_append_left _ }
  | close i s t ended row hmem hid hopen =>
    refine { hkept with runs := fun r hr => ?_ }
    by_cases hri : r.runId = i
    · have hrow : r = row := h.runs.distinct.eq_of_ident hr hmem (hri.trans hid.symm)
      exact Or.inr ⟨hrow ▸ hopen, s, t, by rw [hri]⟩
    · exact Or.inl (List.mem_map.2 ⟨r, hr, if_neg (by simpa using hri)⟩)
  | attach i e r e' r' row _ _ _ _ =>
    refine { hkept with artifacts := fun x hx => ?_ }
    by_cases hxi : x.artifactId = i
    · exact Or.inr ⟨e, r, by rw [hxi]⟩
    · exact Or.inl (List.mem_map.2 ⟨x, hx, if_neg (by simpa using hxi)⟩)

def sampleStrategy : Strategy :=
  { strategyId := "strat_01", name := "breakout", thesis := "ranges break", createdAt := sampleTime }

instance (s : Strategy) : Decidable s.Valid := inferInstanceAs (Decidable (_ = _))

/-- A health record whose mean adverse excursion is a NaN. -/
def sampleHealth : StrategyHealthRecord :=
  { healthId := "health_01", strategyId := "strat_01", strategyVersion := "1.0.0", healthState := .watch
    observedAtUtc := sampleTime, producer := "hsa", observedTriggerRate := none
    regimeConditionedExpectedTriggerRate := none, expectancyR := none, winRate := none, drawdown := none
    mae := some .nan, mfe := none, holdingTime := none, executionSlippageQuality := none,
    regimeDistribution := none
    strategyChainStrengthDistribution := none, baselineComparison := none, confidence := none
    reason := "weekly review", evidenceIds := ["ev_01"] }

theorem sampleHealth_valid : sampleHealth.Valid := by
  refine ⟨by decide +kernel, ?_, ?_, ?_⟩
  · intro d hd
    cases hd
  · intro d hd
    cases hd
  · intro d hd
    cases hd

end Cer
