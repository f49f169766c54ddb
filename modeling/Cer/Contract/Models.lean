import Cer.Contract.Enums
import Cer.Contract.Identity
import Cer.Lib.DateTime
import Cer.Lib.Json

/-!
# The domain models

The eight records of the contract.  `construct` is the model's constructor: it runs
the field validators in the order of the fields (`checks`) and fills in what the
model computes itself.  A validator's `ValueError` is collected into one pydantic
error, any other exception leaves at once.  A record is `Valid` when its constructor
returns it unchanged; `dump` is `model_dump(mode="json")`, which writes `null` for a NaN and
an infinity where the field is of no declared type.
-/

namespace Cer

open Py

/-! ## Validators -/

/-- What the validator of one field does. -/
inductive Check
  | pass
  | value (field message : String)
  | raises (e : Exc)
deriving DecidableEq

def Check.raised? : Check → Option Exc
  | .raises e => some e
  | _ => none

def Check.value? : Check → Option (String × String)
  | .value field message => some (field, message)
  | _ => none

/-- The validators of a model in order. -/
def runChecks (cs : List Check) : Except Exc Unit :=
  match cs.findSome? Check.raised? with
  | some e => .error e
  | none => match cs.filterMap Check.value? with
    | [] => .ok ()
    | errors => .error (.pydantic errors)

theorem runChecks_eq_ok_iff (cs : List Check) : runChecks cs = .ok () ↔ ∀ c ∈ cs, c = .pass := by
  unfold runChecks
  constructor
  · intro h c hc
    cases hr : cs.findSome? Check.raised? with
    | some e => rw [hr] at h; cases h
    | none =>
      rw [hr] at h
      cases hv : cs.filterMap Check.value? with
      | cons e es => rw [hv] at h; cases h
      | nil =>
        have h1 := List.findSome?_eq_none_iff.1 hr c hc
        have h2 := List.filterMap_eq_nil_iff.1 hv c hc
        cases c with
        | pass => rfl
        | value f m => cases h2
        | raises e => cases h1
  · intro h
    have h1 : cs.findSome? Check.raised? = none := by
      rw [List.findSome?_eq_none_iff]
      intro c hc
      rw [h c hc]
      rfl
    have h2 : cs.filterMap Check.value? = [] := by
      rw [List.filterMap_eq_nil_iff]
      intro c hc
      rw [h c hc]
      rfl
    rw [h1, h2]

/-- An identity validator: its error is no `ValueError`. -/
def identity (r : Except Exc String) : Check :=
  match r with
  | .ok _ => .pass
  | .error e => .raises e

def optIdentity (validate : String → Except Exc String) : Option String → Check
  | none => .pass
  | some v => identity (validate v)

/-- Each of a list, in order: the first that fails is the one that raises. -/
def identities (validate : String → Except Exc String) (vs : List String) : Check :=
  match vs.findSome? fun v => (identity (validate v)).raised? with
  | some e => .raises e
  | none => .pass

def nonEmpty (field v : String) : Check :=
  if isBlank v then .value field "must not be empty" else .pass

def nonEmptyIfPresent (field : String) : Option String → Check
  | none => .pass
  | some v => if isBlank v then .value field "must not be empty when present (use None for absent)" else .pass

/-- `Field(min_length=1)`. -/
def atLeastOne (field : String) (vs : List String) : Check :=
  if vs.isEmpty then .value field "List should have at least 1 item after validation" else .pass

/-! ## Values on the wire -/

def optStr : Option String → Json
  | none => .null
  | some s => .str s

def optTime : Option DateTime → Json
  | none => .null
  | some t => .str (jsonText t)

def optFloat : Option PyFloat → Json
  | none => .null
  | some f => .float f

def strList (vs : List String) : Json := .arr (vs.map .str)

def floatDict (kvs : List (String × PyFloat)) : Json := .obj (kvs.map fun kv => (kv.1, .float kv.2))

/-- `Union[float, int, str, bool]`. -/
inductive MetricValue
  | float (f : PyFloat)
  | int (n : Int)
  | str (s : String)
  | bool (b : Bool)
deriving DecidableEq

def MetricValue.toJson : MetricValue → Json
  | .float f => .float f
  | .int n => .int n
  | .str s => .str s
  | .bool b => .bool b

def metricDict (kvs : List (String × MetricValue)) : Json := .obj (kvs.map fun kv => (kv.1, kv.2.toJson))

/-! ## Strategy and its versions -/

structure Strategy where
  strategyId : String
  name : String
  thesis : String
  createdAt : DateTime
deriving DecidableEq

def Strategy.checks (s : Strategy) : List Check :=
  [identity (validateStrategyId s.strategyId), nonEmpty "name" s.name, nonEmpty "thesis" s.thesis]

def Strategy.construct (s : Strategy) : Except Exc Strategy := do
  runChecks s.checks
  return s

def Strategy.dump (s : Strategy) : List (String × Json) :=
  [("strategy_id", .str s.strategyId), ("name", .str s.name), ("thesis", .str s.thesis),
   ("created_at", .str (jsonText s.createdAt))]

structure StrategyVersion where
  strategyId : String
  strategyVersion : String
  gitRepo : String
  gitCommit : String
  createdAt : DateTime
  notes : Option String
deriving DecidableEq

def StrategyVersion.checks (v : StrategyVersion) : List Check :=
  [identity (validateStrategyId v.strategyId), identity (validateStrategyVersion v.strategyVersion),
   nonEmpty "git_repo" v.gitRepo, nonEmpty "git_commit" v.gitCommit]

def StrategyVersion.construct (v : StrategyVersion) : Except Exc StrategyVersion := do
  runChecks v.checks
  return v

def StrategyVersion.dump (v : StrategyVersion) : List (String × Json) :=
  [("strategy_id", .str v.strategyId), ("strategy_version", .str v.strategyVersion), ("git_repo", .str v.gitRepo),
   ("git_commit", .str v.gitCommit), ("created_at", .str (jsonText v.createdAt)), ("notes", optStr v.notes)]

/-! ## Experiment -/

structure Experiment where
  experimentId : String
  objective : String
  strategyId : Option String
  strategyVersion : Option String
  producer : String
  createdAt : DateTime
deriving DecidableEq

def Experiment.checks (e : Experiment) : List Check :=
  [identity (validateExperimentId e.experimentId), nonEmpty "objective" e.objective,
   optIdentity validateStrategyId e.strategyId, optIdentity validateStrategyVersion e.strategyVersion,
   nonEmpty "producer" e.producer]

def Experiment.construct (e : Experiment) : Except Exc Experiment := do
  runChecks e.checks
  return e

def Experiment.dump (e : Experiment) : List (String × Json) :=
  [("experiment_id", .str e.experimentId), ("objective", .str e.objective), ("strategy_id", optStr e.strategyId),
   ("strategy_version", optStr e.strategyVersion), ("producer", .str e.producer),
   ("created_at", .str (jsonText e.createdAt))]

/-! ## Provenance completeness -/

/-- `_is_absent` of a text. -/
def absentText : Option String → Bool
  | none => true
  | some s => strip s == ""

/-- `_completeness_for`: the fields that are absent, in the order they are listed. -/
def completenessFor (fields : List (String × Bool)) : ProvenanceCompleteness × List String :=
  let missing := (fields.filter (·.2)).map (·.1)
  (if missing.isEmpty then .complete else .incomplete, missing)

/-! ## Run -/

structure Run where
  runId : String
  experimentId : String
  status : RunStatus
  startedAt : DateTime
  endedAt : Option DateTime
  producer : String
  producerVersion : Option String
  gitRepo : Option String
  gitCommit : Option String
  datasetId : Option String
  datasetVersion : Option String
  datasetRef : Option String
  configHash : Option String
  configRef : Option String
  environment : Option String
  provenanceCompleteness : ProvenanceCompleteness
  missingProvenance : List String
deriving DecidableEq

/-- The fields of `REQUIRED_RUN_PROVENANCE_FIELDS`, each with whether it is absent. -/
def Run.provenanceFields (r : Run) : List (String × Bool) :=
  [("producer_version", absentText r.producerVersion), ("git_repo", absentText r.gitRepo),
   ("git_commit", absentText r.gitCommit), ("dataset_id", absentText r.datasetId),
   ("dataset_version", absentText r.datasetVersion), ("dataset_ref", absentText r.datasetRef),
   ("config_hash", absentText r.configHash), ("config_ref", absentText r.configRef),
   ("environment", absentText r.environment)]

def computeRunProvenanceCompleteness (r : Run) : ProvenanceCompleteness × List String :=
  completenessFor r.provenanceFields

def Run.checks (r : Run) : List Check :=
  [identity (validateRunId r.runId), identity (validateExperimentId r.experimentId),
    nonEmpty "producer" r.producer,
   nonEmptyIfPresent "producer_version" r.producerVersion, nonEmptyIfPresent "git_repo" r.gitRepo,
   nonEmptyIfPresent "git_commit" r.gitCommit, nonEmptyIfPresent "dataset_id" r.datasetId,
   nonEmptyIfPresent "dataset_version" r.datasetVersion, nonEmptyIfPresent "dataset_ref" r.datasetRef,
   nonEmptyIfPresent "config_hash" r.configHash, nonEmptyIfPresent "config_ref" r.configRef,
   nonEmptyIfPresent "environment" r.environment]

def Run.applyProvenance (r : Run) : Run :=
  let p := computeRunProvenanceCompleteness r
  { r with provenanceCompleteness := p.1, missingProvenance := p.2 }

def Run.construct (r : Run) : Except Exc Run := do
  runChecks r.checks
  return r.applyProvenance

def Run.dump (r : Run) : List (String × Json) :=
  [("run_id", .str r.runId), ("experiment_id", .str r.experimentId), ("status", .str r.status.value),
   ("started_at", .str (jsonText r.startedAt)), ("ended_at", optTime r.endedAt), ("producer", .str r.producer),
   ("producer_version", optStr r.producerVersion), ("git_repo", optStr r.gitRepo),
   ("git_commit", optStr r.gitCommit), ("dataset_id", optStr r.datasetId),
   ("dataset_version", optStr r.datasetVersion), ("dataset_ref", optStr r.datasetRef),
   ("config_hash", optStr r.configHash), ("config_ref", optStr r.configRef), ("environment", optStr r.environment),
   ("provenance_completeness", .str r.provenanceCompleteness.value),
   ("missing_provenance", strList r.missingProvenance)]

/-! ## Evidence -/

structure EvidenceRecord where
  evidenceId : String
  idempotencyKey : String
  evidenceType : EvidenceType
  schemaVersion : Int
  strategyId : Option String
  strategyVersion : Option String
  experimentId : Option String
  runId : Option String
  producer : String
  producerVersion : Option String
  createdAtUtc : DateTime
  observedAtUtc : Option DateTime
  gitRepo : Option String
  gitCommit : Option String
  datasetId : Option String
  datasetVersion : Option String
  datasetRef : Option String
  configHash : Option String
  configRef : Option String
  environment : Option String
  instruments : List String
  timeframes : List String
  metrics : List (String × MetricValue)
  verdict : Option String
  status : Option String
  regimeTags : List String
  parentEvidenceIds : List String
  parentRunIds : List String
  artifactIds : List String
  notes : Json
  provenanceCompleteness : ProvenanceCompleteness
  missingProvenance : List String
deriving DecidableEq

/-- `_is_absent` of `notes`: an empty mapping or list. -/
def absentNotes : Json → Bool
  | .obj kvs => kvs.isEmpty
  | .arr xs => xs.isEmpty
  | _ => false

/-- The fields of `REQUIRED_PROVENANCE_FIELDS`, each with whether it is absent. -/
def EvidenceRecord.provenanceFields (e : EvidenceRecord) : List (String × Bool) :=
  [("strategy_id", absentText e.strategyId), ("strategy_version", absentText e.strategyVersion),
   ("experiment_id", absentText e.experimentId), ("run_id", absentText e.runId),
   ("producer_version", absentText e.producerVersion), ("observed_at_utc", e.observedAtUtc.isNone),
   ("git_repo", absentText e.gitRepo), ("git_commit", absentText e.gitCommit),
   ("dataset_id", absentText e.datasetId), ("dataset_version", absentText e.datasetVersion),
   ("dataset_ref", absentText e.datasetRef), ("config_hash", absentText e.configHash),
   ("config_ref", absentText e.configRef), ("environment", absentText e.environment),
   ("instruments", e.instruments.isEmpty), ("timeframes", e.timeframes.isEmpty), ("metrics", e.metrics.isEmpty),
   ("verdict", absentText e.verdict), ("status", absentText e.status), ("regime_tags", e.regimeTags.isEmpty),
   ("notes", absentNotes e.notes)]

def computeProvenanceCompleteness (e : EvidenceRecord) : ProvenanceCompleteness × List String :=
  completenessFor e.provenanceFields

/-- `notes` is a mapping or a list. -/
def isContainer : Json → Bool
  | .obj _ => true
  | .arr _ => true
  | _ => false

/-- The validators, `parsed` being what the one of `evidence_type` makes of the text it is given. -/
def EvidenceRecord.checks (e : EvidenceRecord) (parsed : Except Exc EvidenceType) : List Check :=
  [identity (validateEvidenceId e.evidenceId), nonEmpty "idempotency_key" e.idempotencyKey,
   (match parsed with | .ok _ => .pass | .error err => .raises err),
   optIdentity validateStrategyId e.strategyId, optIdentity validateStrategyVersion e.strategyVersion,
   optIdentity validateExperimentId e.experimentId, optIdentity validateRunId e.runId,
   nonEmpty "producer" e.producer, identities validateEvidenceId e.parentEvidenceIds,
   identities validateRunId e.parentRunIds, identities validateArtifactId e.artifactIds,
   if isContainer e.notes then .pass else .value "notes" "Input should be a valid dictionary or list"]

def EvidenceRecord.applyProvenance (e : EvidenceRecord) : EvidenceRecord :=
  let p := computeProvenanceCompleteness e
  { e with provenanceCompleteness := p.1, missingProvenance := p.2 }

/-- `EvidenceRecord(evidence_type=text, ...)`; the other validators do not look at the class. -/
def EvidenceRecord.construct (text : String) (fields : EvidenceType → EvidenceRecord) :
    Except Exc EvidenceRecord := do
  let parsed := parseEvidenceType text
  let e := fields (parsed.toOption.getD default)
  runChecks (e.checks parsed)
  return e.applyProvenance

/-- The fields with their values, as `model_dump()` has them. -/
def EvidenceRecord.values (e : EvidenceRecord) : List (String × Json) :=
  [("evidence_id", .str e.evidenceId), ("idempotency_key", .str e.idempotencyKey),
   ("evidence_type", .str e.evidenceType.value), ("schema_version", .int e.schemaVersion),
   ("strategy_id", optStr e.strategyId), ("strategy_version", optStr e.strategyVersion),
   ("experiment_id", optStr e.experimentId), ("run_id", optStr e.runId), ("producer", .str e.producer),
   ("producer_version", optStr e.producerVersion), ("created_at_utc", .str (jsonText e.createdAtUtc)),
   ("observed_at_utc", optTime e.observedAtUtc), ("git_repo", optStr e.gitRepo),
   ("git_commit", optStr e.gitCommit),
   ("dataset_id", optStr e.datasetId), ("dataset_version", optStr e.datasetVersion),
   ("dataset_ref", optStr e.datasetRef), ("config_hash", optStr e.configHash), ("config_ref", optStr e.configRef),
   ("environment", optStr e.environment), ("instruments", strList e.instruments),
   ("timeframes", strList e.timeframes), ("metrics", metricDict e.metrics), ("verdict", optStr e.verdict),
   ("status", optStr e.status), ("regime_tags", strList e.regimeTags),
   ("parent_evidence_ids", strList e.parentEvidenceIds), ("parent_run_ids", strList e.parentRunIds),
   ("artifact_ids", strList e.artifactIds), ("notes", e.notes),
   ("provenance_completeness", .str e.provenanceCompleteness.value),
   ("missing_provenance", strList e.missingProvenance)]

/-- The record as `mode="json"` writes it: `notes`, of no declared type, have no NaN and no infinity. -/
def EvidenceRecord.jsonMode (e : EvidenceRecord) : EvidenceRecord := { e with notes := nullNonFinite e.notes }

def EvidenceRecord.dump (e : EvidenceRecord) : List (String × Json) := e.jsonMode.values

/-! ## Artifacts -/

structure ArtifactRecord where
  artifactId : String
  sha256 : String
  sizeBytes : Int
  contentType : String
  filename : String
  uri : String
  registeredAt : DateTime
  runId : Option String
  evidenceId : Option String
deriving DecidableEq

/-- `v.lower()` on the letters the comparisons below tell apart. -/
def lower (s : String) : String := s.map Char.toLower

def sha256Check (v : String) : Check :=
  if v.length ≠ 64 ∨ !(lower v).toList.all isHexLower then
    .value "sha256" s!"sha256 must be a 64-character hex digest, got {Py.repr v}"
  else .pass

def ArtifactRecord.checks (a : ArtifactRecord) : List Check :=
  [identity (validateArtifactId a.artifactId), sha256Check a.sha256,
   if a.sizeBytes < 0 then .value "size_bytes" "Input should be greater than or equal to 0" else .pass,
   nonEmpty "content_type" a.contentType, nonEmpty "filename" a.filename, nonEmpty "uri" a.uri,
   optIdentity validateRunId a.runId, optIdentity validateEvidenceId a.evidenceId]

def ArtifactRecord.construct (a : ArtifactRecord) : Except Exc ArtifactRecord := do
  runChecks a.checks
  return { a with sha256 := lower a.sha256 }

def ArtifactRecord.dump (a : ArtifactRecord) : List (String × Json) :=
  [("artifact_id", .str a.artifactId), ("sha256", .str a.sha256), ("size_bytes", .int a.sizeBytes),
   ("content_type", .str a.contentType), ("filename", .str a.filename), ("uri", .str a.uri),
   ("registered_at", .str (jsonText a.registeredAt)), ("run_id", optStr a.runId),
   ("evidence_id", optStr a.evidenceId)]

/-! ## Promotion transitions -/

structure PromotionTransition where
  transitionId : String
  strategyId : String
  strategyVersion : String
  fromState : PromotionState
  toState : PromotionState
  atUtc : DateTime
  authority : String
  producer : String
  evidenceIds : List String
  reason : String
deriving DecidableEq

def PromotionTransition.checks (t : PromotionTransition) : List Check :=
  [identity (validateStrategyId t.strategyId), identity (validateStrategyVersion t.strategyVersion),
   nonEmpty "authority" t.authority, nonEmpty "producer" t.producer, atLeastOne "evidence_ids" t.evidenceIds,
   identities validateEvidenceId t.evidenceIds, nonEmpty "reason" t.reason]

def PromotionTransition.construct (t : PromotionTransition) : Except Exc PromotionTransition := do
  runChecks t.checks
  return t

def PromotionTransition.dump (t : PromotionTransition) : List (String × Json) :=
  [("transition_id", .str t.transitionId), ("strategy_id", .str t.strategyId),
   ("strategy_version", .str t.strategyVersion), ("from_state", .str t.fromState.value),
   ("to_state", .str t.toState.value), ("at_utc", .str (jsonText t.atUtc)), ("authority", .str t.authority),
   ("producer", .str t.producer), ("evidence_ids", strList t.evidenceIds), ("reason", .str t.reason)]

/-! ## Health observations -/

structure StrategyHealthRecord where
  healthId : String
  strategyId : String
  strategyVersion : String
  healthState : HealthState
  observedAtUtc : DateTime
  producer : String
  observedTriggerRate : Option PyFloat
  regimeConditionedExpectedTriggerRate : Option PyFloat
  expectancyR : Option PyFloat
  winRate : Option PyFloat
  drawdown : Option PyFloat
  mae : Option PyFloat
  mfe : Option PyFloat
  holdingTime : Option PyFloat
  executionSlippageQuality : Option PyFloat
  regimeDistribution : Option (List (String × PyFloat))
  strategyChainStrengthDistribution : Option (List (String × PyFloat))
  baselineComparison : Option (List (String × Json))
  confidence : Option PyFloat
  reason : String
  evidenceIds : List String
deriving DecidableEq

def StrategyHealthRecord.checks (h : StrategyHealthRecord) : List Check :=
  [identity (validateStrategyId h.strategyId), identity (validateStrategyVersion h.strategyVersion),
   nonEmpty "producer" h.producer, nonEmpty "reason" h.reason, atLeastOne "evidence_ids" h.evidenceIds,
   identities validateEvidenceId h.evidenceIds]

def StrategyHealthRecord.construct (h : StrategyHealthRecord) : Except Exc StrategyHealthRecord := do
  runChecks h.checks
  return h

def optFloatDict : Option (List (String × PyFloat)) → Json
  | none => .null
  | some kvs => floatDict kvs

def optDict : Option (List (String × Json)) → Json
  | none => .null
  | some kvs => .obj kvs

/-- The fields with their values, as `model_dump()` has them. -/
def StrategyHealthRecord.values (h : StrategyHealthRecord) : List (String × Json) :=
  [("health_id", .str h.healthId), ("strategy_id", .str h.strategyId),
    ("strategy_version", .str h.strategyVersion),
   ("health_state", .str h.healthState.value), ("observed_at_utc", .str (jsonText h.observedAtUtc)),
   ("producer", .str h.producer), ("observed_trigger_rate", optFloat h.observedTriggerRate),
   ("regime_conditioned_expected_trigger_rate", optFloat h.regimeConditionedExpectedTriggerRate),
   ("expectancy_r", optFloat h.expectancyR), ("win_rate", optFloat h.winRate), ("drawdown", optFloat h.drawdown),
   ("mae", optFloat h.mae), ("mfe", optFloat h.mfe), ("holding_time", optFloat h.holdingTime),
   ("execution_slippage_quality", optFloat h.executionSlippageQuality),
   ("regime_distribution", optFloatDict h.regimeDistribution),
   ("strategy_chain_strength_distribution", optFloatDict h.strategyChainStrengthDistribution),
   ("baseline_comparison", optDict h.baselineComparison), ("confidence", optFloat h.confidence),
   ("reason", .str h.reason), ("evidence_ids", strList h.evidenceIds)]

/-- The record as `mode="json"` writes it: a float of a declared type is left as it is, one in
`baseline_comparison` is not. -/
def StrategyHealthRecord.jsonMode (h : StrategyHealthRecord) : StrategyHealthRecord :=
  { h with baselineComparison := h.baselineComparison.map nullNonFiniteFields }

def StrategyHealthRecord.dump (h : StrategyHealthRecord) : List (String × Json) := h.jsonMode.values

/-! ## Contract-valid records -/

def Strategy.Valid (s : Strategy) : Prop := s.construct = .ok s

def StrategyVersion.Valid (v : StrategyVersion) : Prop := v.construct = .ok v

def Experiment.Valid (e : Experiment) : Prop := e.construct = .ok e

def Run.Valid (r : Run) : Prop := r.construct = .ok r

/-- The constructor returns the record, and its mappings are mappings. -/
def EvidenceRecord.Valid (e : EvidenceRecord) : Prop :=
  EvidenceRecord.construct e.evidenceType.value (fun t => { e with evidenceType := t }) = .ok e ∧
    (e.metrics.map Prod.fst).Nodup ∧ nodupKeys e.notes = true

def ArtifactRecord.Valid (a : ArtifactRecord) : Prop := a.construct = .ok a

def PromotionTransition.Valid (t : PromotionTransition) : Prop := t.construct = .ok t

def nodupDict {α : Type} (d : Option (List (String × α))) : Prop := ∀ kvs ∈ d, (kvs.map Prod.fst).Nodup

def StrategyHealthRecord.Valid (h : StrategyHealthRecord) : Prop :=
  h.construct = .ok h ∧ nodupDict h.regimeDistribution ∧ nodupDict h.strategyChainStrengthDistribution ∧
    ∀ kvs ∈ h.baselineComparison, nodupKeys (.obj kvs) = true

/-! ## What a constructor raises -/

/-- The exception is an `IdentityError`. -/
def Exc.IsIdentity (e : Exc) : Prop := ∃ m, e = idError m

/-- What leaves a validator at once is an `IdentityError`. -/
def Check.RaisesIdentity : Check → Prop
  | .raises e => e.IsIdentity
  | _ => True

section raises

theorem runChecks_error {cs : List Check} {P : Exc → Prop} {e : Exc} (hv : ∀ errors, P (.pydantic errors))
    (hc : ∀ c ∈ cs, ∀ x, c = .raises x → P x) (h : runChecks cs = .error e) : P e := by
  unfold runChecks at h
  cases hr : cs.findSome? Check.raised? with
  | some x =>
    rw [hr] at h
    cases h
    obtain ⟨c, hmem, hx⟩ := List.exists_of_findSome?_eq_some hr
    cases c with
    | raises y =>
      cases hx
      exact hc _ hmem _ rfl
    | pass => cases hx
    | value f m => cases hx
  | none =>
    rw [hr] at h
    dsimp only at h
    split at h
    · cases h
    · cases h
      exact hv _

/-- A validator of texts that raises nothing but `IdentityError`. -/
def RaisesIdentity (validate : String → Except Exc String) : Prop := ∀ v e, validate v = .error e → e.IsIdentity

theorem identity_raises {validate : String → Except Exc String} (h : RaisesIdentity validate) (v : String) :
    (identity (validate v)).RaisesIdentity := by
  cases hv : validate v with
  | ok v => trivial
  | error e => exact h v e hv

theorem optIdentity_raises {validate : String → Except Exc String} (h : RaisesIdentity validate)
    (v : Option String) : (optIdentity validate v).RaisesIdentity := by
  cases v with
  | none => trivial
  | some v => exact identity_raises h v

theorem identities_raises {validate : String → Except Exc String} (h : RaisesIdentity validate)
    (vs : List String) : (identities validate vs).RaisesIdentity := by
  unfold identities
  split
  · next e he =>
    obtain ⟨v, _, hv⟩ := List.exists_of_findSome?_eq_some he
    cases hi : validate v with
    | ok _ =>
      rw [hi] at hv
      cases hv
    | error x =>
      rw [hi] at hv
      cases hv
      exact h v _ hi
  · trivial

@[simp] theorem nonEmpty_raises (field v : String) : (nonEmpty field v).RaisesIdentity := by
  unfold nonEmpty
  split <;> trivial

@[simp] theorem nonEmptyIfPresent_raises (field : String) (v : Option String) :
    (nonEmptyIfPresent field v).RaisesIdentity := by
  unfold nonEmptyIfPresent
  split
  · trivial
  · split <;> trivial

@[simp] theorem atLeastOne_raises (field : String) (vs : List String) : (atLeastOne field vs).RaisesIdentity := by
  unfold atLeastOne
  split <;> trivial

theorem strategyId_raises : RaisesIdentity validateStrategyId := fun _ _ => validateLogicalId_error
theorem strategyVersion_raises : RaisesIdentity validateStrategyVersion := fun _ _ => validateLogicalId_error
theorem experimentId_raises : RaisesIdentity validateExperimentId := fun _ _ => validateGeneratedId_error
theorem runId_raises : RaisesIdentity validateRunId := fun _ _ => validateGeneratedId_error
theorem evidenceId_raises : RaisesIdentity validateEvidenceId := fun _ _ => validateGeneratedId_error

theorem artifactId_raises : RaisesIdentity validateArtifactId := fun _ _ => validateGeneratedId_error

theorem Strategy.checks_raise (s : Strategy) : ∀ c ∈ s.checks, c.RaisesIdentity := by
  simp [Strategy.checks, identity_raises strategyId_raises]

theorem StrategyVersion.checks_raise (v : StrategyVersion) : ∀ c ∈ v.checks, c.RaisesIdentity := by
  simp [StrategyVersion.checks, identity_raises strategyId_raises, identity_raises strategyVersion_raises]

/-- Of the validators of a record of evidence, that of its class raises what parsing the class raised. -/
theorem EvidenceRecord.checks_raise (e : EvidenceRecord) (parsed : Except Exc EvidenceType) :
    ∀ c ∈ e.checks parsed, c.RaisesIdentity ∨ ∃ x, parsed = .error x ∧ c = .raises x := by
  have hclass : (match parsed with | .ok _ => Check.pass | .error x => .raises x).RaisesIdentity ∨ ∃ x,
      parsed = .error x ∧ (match parsed with | .ok _ => Check.pass | .error x => .raises x) = .raises x := by
    cases parsed with
    | ok t => exact Or.inl trivial
    | error x => exact Or.inr ⟨x, rfl, rfl⟩
  have hnotes : (if isContainer e.notes then Check.pass
      else .value "notes" "Input should be a valid dictionary or list").RaisesIdentity := by
    split <;> trivial
  simp only [EvidenceRecord.checks, List.forall_mem_cons]
  refine ⟨Or.inl (identity_raises evidenceId_raises _), Or.inl (nonEmpty_raises _ _), hclass,
    Or.inl (optIdentity_raises strategyId_raises _), Or.inl (optIdentity_raises strategyVersion_raises _),
    Or.inl (optIdentity_raises experimentId_raises _), Or.inl (optIdentity_raises runId_raises _),
    Or.inl (nonEmpty_raises _ _), Or.inl (identities_raises evidenceId_raises _),
    Or.inl (identities_raises runId_raises _), Or.inl (identities_raises artifactId_raises _), Or.inl hnotes, ?_⟩
  intro c hc
  cases hc

theorem Experiment.checks_raise (x : Experiment) : ∀ c ∈ x.checks, c.RaisesIdentity := by
  simp [Experiment.checks, identity_raises experimentId_raises, optIdentity_raises strategyId_raises,
    optIdentity_raises strategyVersion_raises]

theorem Run.checks_raise (r : Run) : ∀ c ∈ r.checks, c.RaisesIdentity := by
  simp [Run.checks, identity_raises runId_raises, identity_raises experimentId_raises]

theorem PromotionTransition.checks_raise (t : PromotionTransition) : ∀ c ∈ t.checks, c.RaisesIdentity := by
  simp [PromotionTransition.checks, identity_raises strategyId_raises, identity_raises strategyVersion_raises,
    identities_raises evidenceId_raises]

theorem StrategyHealthRecord.checks_raise (x : StrategyHealthRecord) : ∀ c ∈ x.checks, c.RaisesIdentity := by
  simp [StrategyHealthRecord.checks, identity_raises strategyId_raises, identity_raises strategyVersion_raises,
    identities_raises evidenceId_raises]

end raises

/-! ## Constructors -/

/-- A constructor that checks and then computes `x` returns it exactly when every check passes. -/
theorem runChecks_then_eq_ok {α : Type} {cs : List Check} {x y : α} :
    (do runChecks cs; return x : Except Exc α) = .ok y ↔ (∀ c ∈ cs, c = .pass) ∧ x = y := by
  rw [← runChecks_eq_ok_iff]
  cases h : runChecks cs with
  | error e =>
    constructor
    · intro he
      cases he
    · rintro ⟨he, _⟩
      cases he
  | ok u =>
    constructor
    · intro he
      injection he with he
      exact ⟨rfl, he⟩
    · rintro ⟨_, rfl⟩
      rfl

theorem EvidenceRecord.construct_eq_ok_iff (e y : EvidenceRecord) :
    EvidenceRecord.construct e.evidenceType.value (fun t => { e with evidenceType := t }) = .ok y ↔
      (∀ c ∈ e.checks (.ok e.evidenceType), c = .pass) ∧ e.applyProvenance = y := by
  unfold EvidenceRecord.construct
  rw [parseEvidenceType_value]
  exact runChecks_then_eq_ok

theorem isContainer_nullNonFinite (j : Json) : isContainer (nullNonFinite j) = isContainer j := by
  cases j with
  | float f => cases f <;> rfl
  | _ => rfl

theorem absentNotes_nullNonFinite (j : Json) : absentNotes (nullNonFinite j) = absentNotes j := by
  cases j with
  | float f => cases f <;> rfl
  | arr xs => cases xs <;> rfl
  | obj kvs => cases kvs <;> rfl
  | _ => rfl

/-- No check and no provenance field looks at the numbers in the notes. -/
theorem EvidenceRecord.jsonMode_valid {e : EvidenceRecord} (h : e.Valid) : e.jsonMode.Valid := by
  obtain ⟨hconstruct, hmetrics, hnotes⟩ := h
  obtain ⟨hc, hp⟩ := (EvidenceRecord.construct_eq_ok_iff e e).1 hconstruct
  refine ⟨(EvidenceRecord.construct_eq_ok_iff e.jsonMode _).2 ⟨?_, ?_⟩, hmetrics, nodupKeys_nullNonFinite hnotes⟩
  · have hchecks : e.jsonMode.checks (.ok e.jsonMode.evidenceType) = e.checks (.ok e.evidenceType) := by
      unfold EvidenceRecord.checks EvidenceRecord.jsonMode
      dsimp only
      rw [isContainer_nullNonFinite]
    rw [hchecks]
    exact hc
  · have hfields : computeProvenanceCompleteness e.jsonMode = computeProvenanceCompleteness e := by
      unfold computeProvenanceCompleteness EvidenceRecord.provenanceFields EvidenceRecord.jsonMode
      dsimp only
      rw [absentNotes_nullNonFinite]
    unfold EvidenceRecord.applyProvenance at hp ⊢
    rw [hfields]
    exact congrArg EvidenceRecord.jsonMode hp

theorem StrategyHealthRecord.jsonMode_valid {h : StrategyHealthRecord} (hv : h.Valid) : h.jsonMode.Valid := by
  obtain ⟨hconstruct, hregimes, hstrengths, hbaseline⟩ := hv
  refine ⟨?_, hregimes, hstrengths, fun kvs hkvs => ?_⟩
  · obtain ⟨hc, _⟩ := runChecks_then_eq_ok.1 hconstruct
    exact runChecks_then_eq_ok.2 ⟨hc, rfl⟩
  · obtain ⟨d, hd, rfl⟩ := Option.map_eq_some_iff.1 hkvs
    exact nodupKeys_nullNonFinite (hbaseline d hd)

theorem ArtifactRecord.valid_iff (a : ArtifactRecord) :
    a.Valid ↔ (∀ c ∈ a.checks, c = .pass) ∧ { a with sha256 := lower a.sha256 } = a :=
  runChecks_then_eq_ok

end Cer
