import Cer.Api.Schemas
import Cer.Metadata.Effects

/-!
# The write endpoints

Each handler reconciles the idempotency keys, derives an identity, builds the contract
record and hands it to the store: it is a function of the request and of what the
process draws for it, a `uuid4` and the time, to the store's call.  `handle` makes the
call.
-/

namespace Cer.Api

open Py

/-! ## Contract versions -/

def supportedSchemaVersions : List Int := [1]

/-- `validate_schema_version`. -/
def validateSchemaVersion (schemaVersion : Int) : Except Exc Int :=
  if schemaVersion ∈ supportedSchemaVersions then .ok schemaVersion
  else .error (ErrorClass.incompatibleSchemaVersion.exc
    s!"unsupported schema_version {schemaVersion}; supported: {supportedSchemaVersions}")

/-! ## Keys and identities -/

/-- What the process draws for one request. -/
structure Draw where
  uuid4 : UuidHex
  now : DateTime

/-- `uuid.uuid5` of the fixed namespace. -/
abbrev Uuid5 := String → UuidHex

/-- `_require_producer_for_key`. -/
def requireProducerForKey (producer : Option String) : Except Exc String :=
  let refused : Exc := contractViolation ("an idempotency key requires a non-empty producer to scope it " ++
    "(idempotency keys are scoped per-producer, not global)")
  match producer with
  | none => .error refused
  | some p => if isBlank p then .error refused else .ok p

/-- A key counts where it is truthy. -/
def truthy : Option String → Option String
  | none => none
  | some k => if k = "" then none else some k

/-- The text an identity is derived from. -/
def derivationName (kind producer key : String) : String := kind ++ ":" ++ producer ++ ":" ++ key

/-- `_generate_id`. -/
def generateId (uuid5 : Uuid5) (draw : Draw) (idPrefix kind : String) (idempotencyKey producer : Option String) :
    Except Exc String :=
  match truthy idempotencyKey with
  | some k => do
    let p ← requireProducerForKey producer
    return idPrefix ++ (uuid5 (derivationName kind p k)).hex
  | none => .ok (idPrefix ++ draw.uuid4.hex)

/-- `_resolve_idempotency_key`; the result is `header_value or body_value`. -/
def resolveIdempotencyKey (headerValue bodyValue : Option String) : Except Exc (Option String) :=
  match truthy headerValue, truthy bodyValue with
  | some h, some b =>
    if h ≠ b then .error (contractViolation "Idempotency-Key header and body idempotency_key disagree")
    else .ok (some h)
  | some h, none => .ok (some h)
  | none, _ => .ok bodyValue

/-- `body.created_at or utcnow()`. -/
def orNow (draw : Draw) (t : Option AwareTime) : AwareTime := t.getD ⟨draw.now, some 0⟩

/-! ## Handlers -/

section handlers
variable (uuid5 : Uuid5) (draw : Draw)

def createStrategy (body : StrategyCreateRequest) : Except Exc Write := do
  let createdAt := orNow draw body.createdAt
  let strategy ← constructAt Strategy.checks id 3 [utcDateTime "created_at" createdAt]
    { strategyId := body.strategyId, name := body.name, thesis := body.thesis, createdAt := instant createdAt }
  return .registerStrategy strategy

def createStrategyVersion (strategyId : String) (body : StrategyVersionCreateRequest) : Except Exc Write := do
  let createdAt := orNow draw body.createdAt
  let sv ← constructAt StrategyVersion.checks id 4 [utcDateTime "created_at" createdAt]
    { strategyId := strategyId, strategyVersion := body.strategyVersion, gitRepo := body.gitRepo
      gitCommit := body.gitCommit, createdAt := instant createdAt, notes := body.notes }
  return .registerStrategyVersion sv

def createExperiment (body : ExperimentCreateRequest) (header : Option String) : Except Exc Write := do
  let idemKey ← resolveIdempotencyKey header body.idempotencyKey
  let experimentId ← generateId uuid5 draw "exp_" "experiment" idemKey (some body.producer)
  let createdAt := orNow draw body.createdAt
  let experiment ← constructAt Experiment.checks id 5 [utcDateTime "created_at" createdAt]
    { experimentId := experimentId, objective := body.objective, strategyId := body.strategyId
      strategyVersion := body.strategyVersion, producer := body.producer, createdAt := instant createdAt }
  return .createExperiment experiment idemKey

/-- The run of a request before its provenance is computed. -/
def runOf (experimentId runId : String) (startedAt : DateTime) (body : RunCreateRequest) : Run :=
  { runId := runId, experimentId := experimentId, status := body.status, startedAt := startedAt, endedAt := none
    producer := body.producer, producerVersion := body.producerVersion, gitRepo := body.gitRepo
    gitCommit := body.gitCommit, datasetId := body.datasetId, datasetVersion := body.datasetVersion
    datasetRef := body.datasetRef, configHash := body.configHash, configRef := body.configRef
    environment := body.environment, provenanceCompleteness := .incomplete, missingProvenance := [] }

def createRun (experimentId : String) (body : RunCreateRequest) (header : Option String) : Except Exc Write := do
  let idemKey ← resolveIdempotencyKey header body.idempotencyKey
  let runId ← generateId uuid5 draw "run_" "run" idemKey (some body.producer)
  let startedAt := orNow draw body.startedAt
  let run ← constructAt Run.checks Run.applyProvenance 2 [utcDateTime "started_at" startedAt]
    (runOf experimentId runId (instant startedAt) body)
  return .createRun run idemKey

def closeRun (runId : String) (body : RunCloseRequest) : Except Exc Write :=
  .ok (.closeRun runId body.status (orNow draw body.endedAt))

/-- `EvidenceRecord(...)`: the fields of a request, its class already parsed. -/
def evidenceOf (evidenceId idempotencyKey : String) (createdAtUtc : DateTime) (body : EvidenceCreateRequest)
    (evidenceType : EvidenceType) : EvidenceRecord :=
  { evidenceId := evidenceId, idempotencyKey := idempotencyKey, evidenceType := evidenceType
    schemaVersion := body.schemaVersion, strategyId := body.strategyId, strategyVersion := body.strategyVersion
    experimentId := body.experimentId, runId := body.runId, producer := body.producer
    producerVersion := body.producerVersion, createdAtUtc := createdAtUtc
    observedAtUtc := body.observedAtUtc.map instant, gitRepo := body.gitRepo, gitCommit := body.gitCommit
    datasetId := body.datasetId, datasetVersion := body.datasetVersion, datasetRef := body.datasetRef
    configHash := body.configHash, configRef := body.configRef, environment := body.environment
    instruments := body.instruments, timeframes := body.timeframes, metrics := body.metrics
    verdict := body.verdict, status := body.status, regimeTags := body.regimeTags
    parentEvidenceIds := body.parentEvidenceIds, parentRunIds := body.parentRunIds, artifactIds := body.artifactIds
    notes := body.notes, provenanceCompleteness := .incomplete, missingProvenance := [] }

def appendEvidence (body : EvidenceCreateRequest) (header : Option String) : Except Exc Write := do
  let idemKey ← resolveIdempotencyKey header body.idempotencyKey
  match truthy idemKey with
  | none => .error (contractViolation ("an idempotency key is required: send the Idempotency-Key header " ++
      "or the idempotency_key body field"))
  | some key =>
    let _ ← validateSchemaVersion body.schemaVersion
    let evidenceId ← generateId uuid5 draw "ev_" "evidence" idemKey (some body.producer)
    let createdAtUtc := orNow draw body.createdAtUtc
    let parsed := parseEvidenceType body.evidenceType
    let evidence ← constructAt (fun e => e.checks parsed) EvidenceRecord.applyProvenance 8
      [utcDateTime "created_at_utc" createdAtUtc, optUtcDateTime "observed_at_utc" body.observedAtUtc]
      (evidenceOf evidenceId key (instant createdAtUtc) body (parsed.toOption.getD default))
    return .appendEvidence evidence

def attachArtifact (artifactId : String) (body : ArtifactAttachRequest) : Except Exc Write :=
  .ok (.attachArtifact artifactId body.evidenceId body.runId)

def createPromotion (body : PromotionCreateRequest) (header : Option String) : Except Exc Write := do
  let idemKey ← resolveIdempotencyKey header body.idempotencyKey
  let transitionId ← generateId uuid5 draw "trn_" "promotion" idemKey (some body.producer)
  let atUtc := orNow draw body.atUtc
  let transition ← constructAt PromotionTransition.checks id 2 [utcDateTime "at_utc" atUtc]
    { transitionId := transitionId, strategyId := body.strategyId, strategyVersion := body.strategyVersion
      fromState := body.fromState, toState := body.toState, atUtc := instant atUtc, authority := body.authority
      producer := body.producer, evidenceIds := body.evidenceIds, reason := body.reason }
  return .recordPromotion transition idemKey

/-- The health record of a request. -/
def healthOf (healthId : String) (observedAtUtc : DateTime) (body : HealthRecordCreateRequest) :
    StrategyHealthRecord :=
  { healthId := healthId, strategyId := body.strategyId, strategyVersion := body.strategyVersion
    healthState := body.healthState, observedAtUtc := observedAtUtc, producer := body.producer
    observedTriggerRate := body.observedTriggerRate
    regimeConditionedExpectedTriggerRate := body.regimeConditionedExpectedTriggerRate
    expectancyR := body.expectancyR, winRate := body.winRate, drawdown := body.drawdown, mae := body.mae
    mfe := body.mfe, holdingTime := body.holdingTime, executionSlippageQuality := body.executionSlippageQuality
    regimeDistribution := body.regimeDistribution
    strategyChainStrengthDistribution := body.strategyChainStrengthDistribution
    baselineComparison := body.baselineComparison, confidence := body.confidence, reason := body.reason
    evidenceIds := body.evidenceIds }

def createHealthRecord (body : HealthRecordCreateRequest) (header : Option String) : Except Exc Write := do
  let idemKey ← resolveIdempotencyKey header body.idempotencyKey
  let healthId ← generateId uuid5 draw "hlt_" "health" idemKey (some body.producer)
  let observedAtUtc := orNow draw body.observedAtUtc
  let record ← constructAt StrategyHealthRecord.checks id 2 [utcDateTime "observed_at_utc" observedAtUtc]
    (healthOf healthId (instant observedAtUtc) body)
  -- the body was read by `json.loads`
  return .recordHealth record idemKey true

end handlers

/-! ## Requests -/

/-- A request to one of the write endpoints that end in one call of the metadata store. -/
inductive Request
  | createStrategy (body : StrategyCreateRequest)
  | createStrategyVersion (strategyId : String) (body : StrategyVersionCreateRequest)
  | createExperiment (body : ExperimentCreateRequest) (header : Option String)
  | createRun (experimentId : String) (body : RunCreateRequest) (header : Option String)
  | closeRun (runId : String) (body : RunCloseRequest)
  | appendEvidence (body : EvidenceCreateRequest) (header : Option String)
  | attachArtifact (artifactId : String) (body : ArtifactAttachRequest)
  | createPromotion (body : PromotionCreateRequest) (header : Option String)
  | createHealthRecord (body : HealthRecordCreateRequest) (header : Option String)

/-- The store call the request's handler makes. -/
def Request.toWrite (uuid5 : Uuid5) (draw : Draw) : Request → Except Exc Write
  | .createStrategy body => Api.createStrategy draw body
  | .createStrategyVersion strategyId body => Api.createStrategyVersion draw strategyId body
  | .createExperiment body header => Api.createExperiment uuid5 draw body header
  | .createRun experimentId body header => Api.createRun uuid5 draw experimentId body header
  | .closeRun runId body => Api.closeRun draw runId body
  | .appendEvidence body header => Api.appendEvidence uuid5 draw body header
  | .attachArtifact artifactId body => Api.attachArtifact artifactId body
  | .createPromotion body header => Api.createPromotion uuid5 draw body header
  | .createHealthRecord body header => Api.createHealthRecord uuid5 draw body header

def handle (env : Env) (uuid5 : Uuid5) (draw : Draw) (db : Database) (req : Request) :
    Except Exc (Reply × Database) := do
  let w ← req.toWrite uuid5 draw
  w.run env db

theorem handle_of_toWrite {env : Env} {uuid5 : Uuid5} {draw : Draw} {db : Database} {req : Request} {w : Write}
    (h : req.toWrite uuid5 draw = .ok w) : handle env uuid5 draw db req = w.run env db := by
  unfold handle
  rw [h, ok_bind]

/-- The mappings of the body are mappings: no key twice. -/
def Request.WellFormed : Request → Prop
  | .appendEvidence body _ => (body.metrics.map Prod.fst).Nodup ∧ nodupKeys body.notes = true
  | .createHealthRecord body _ => nodupDict body.regimeDistribution ∧
      nodupDict body.strategyChainStrengthDistribution ∧ ∀ kvs ∈ body.baselineComparison,
      nodupKeys (.obj kvs) = true
  | _ => True

/-! ## What a handler asks of the store -/

theorem truthy_eq_some {k : Option String} {v : String} (h : truthy k = some v) : k = some v ∧ v ≠ "" := by
  unfold truthy at h
  cases k with
  | none => cases h
  | some k =>
    dsimp only at h
    by_cases hk : k = ""
    · rw [if_pos hk] at h
      cases h
    · rw [if_neg hk] at h
      cases h
      exact ⟨rfl, hk⟩

section specs
variable {uuid5 : Uuid5} {draw : Draw} {w : Write}

theorem createStrategy_ok {body : StrategyCreateRequest} (h : createStrategy draw body = .ok w) :
    ∃ s : Strategy, w = .registerStrategy s ∧ s.Valid := by
  obtain ⟨s, hs, h⟩ := bind_ok h
  obtain ⟨hc, _, hid⟩ := constructAt_eq_ok_iff.1 hs
  cases h
  refine ⟨s, rfl, ?_⟩
  rw [← hid]
  exact runChecks_then_eq_ok.2 ⟨hc, rfl⟩

theorem createStrategyVersion_ok {i : String} {body : StrategyVersionCreateRequest}
    (h : createStrategyVersion draw i body = .ok w) : ∃ v : StrategyVersion,
    w = .registerStrategyVersion v ∧ v.Valid := by
  obtain ⟨v, hv, h⟩ := bind_ok h
  obtain ⟨hc, _, hid⟩ := constructAt_eq_ok_iff.1 hv
  cases h
  refine ⟨v, rfl, ?_⟩
  rw [← hid]
  exact runChecks_then_eq_ok.2 ⟨hc, rfl⟩

/-- A keyed handler that gets as far as the store: its key, its identity and its record. -/
theorem createExperiment_ok {body : ExperimentCreateRequest} {header : Option String}
    (h : createExperiment uuid5 draw body header = .ok w) :
    ∃ key i e, resolveIdempotencyKey header body.idempotencyKey = .ok key ∧
      generateId uuid5 draw "exp_" "experiment" key (some body.producer) = .ok i ∧
      w = .createExperiment e key ∧ e.Valid ∧ e.experimentId = i ∧ e.producer = body.producer := by
  obtain ⟨key, hkey, h⟩ := bind_ok h
  obtain ⟨i, hi, h⟩ := bind_ok h
  obtain ⟨e, he, h⟩ := bind_ok h
  obtain ⟨hc, _, hid⟩ := constructAt_eq_ok_iff.1 he
  cases h
  refine ⟨key, i, e, hkey, hi, rfl, ?_⟩
  rw [← hid]
  exact ⟨runChecks_then_eq_ok.2 ⟨hc, rfl⟩, rfl, rfl⟩

theorem createRun_ok {experimentId : String} {body : RunCreateRequest} {header : Option String}
    (h : createRun uuid5 draw experimentId body header = .ok w) :
    ∃ key i r, resolveIdempotencyKey header body.idempotencyKey = .ok key ∧
      generateId uuid5 draw "run_" "run" key (some body.producer) = .ok i ∧ w = .createRun r key ∧ r.Valid ∧
      r.runId = i ∧ r.producer = body.producer ∧ r.experimentId = experimentId ∧ r.status = body.status ∧
      r.endedAt = none := by
  obtain ⟨key, hkey, h⟩ := bind_ok h
  obtain ⟨i, hi, h⟩ := bind_ok h
  obtain ⟨r, hr, h⟩ := bind_ok h
  obtain ⟨hc, _, hid⟩ := constructAt_eq_ok_iff.1 hr
  cases h
  refine ⟨key, i, r, hkey, hi, rfl, ?_⟩
  rw [← hid]
  exact ⟨(Run.valid_iff _).2 ⟨hc, rfl⟩, rfl, rfl, rfl, rfl, rfl⟩

/-- The validator of the class passes only where the class was parsed. -/
theorem parsed_of_checks {e : EvidenceRecord} {parsed : Except Exc EvidenceType}
    (h : ∀ c ∈ e.checks parsed, c = .pass) : ∃ t, parsed = .ok t := by
  cases parsed with
  | ok t => exact ⟨t, rfl⟩
  | error x =>
    have hx := h (.raises x) (List.mem_cons_of_mem _ (List.mem_cons_of_mem _ List.mem_cons_self))
    cases hx

theorem appendEvidence_ok {body : EvidenceCreateRequest} {header : Option String}
    (hm : (body.metrics.map Prod.fst).Nodup) (hn : nodupKeys body.notes = true)
    (h : appendEvidence uuid5 draw body header = .ok w) :
    ∃ key i e, resolveIdempotencyKey header body.idempotencyKey = .ok (some key) ∧ key ≠ "" ∧
      generateId uuid5 draw "ev_" "evidence" (some key) (some body.producer) = .ok i ∧ w = .appendEvidence e ∧
      e.Valid ∧ e.evidenceId = i ∧ e.producer = body.producer ∧ e.idempotencyKey = key := by
  obtain ⟨key, hkey, h⟩ := bind_ok h
  cases ht : truthy key with
  | none =>
    rw [ht] at h
    cases h
  | some k =>
    rw [ht] at h
    obtain ⟨rfl, hne⟩ := truthy_eq_some ht
    obtain ⟨_, _, h⟩ := bind_ok h
    obtain ⟨i, hi, h⟩ := bind_ok h
    obtain ⟨e, he, h⟩ := bind_ok h
    obtain ⟨hc, _, hid⟩ := constructAt_eq_ok_iff.1 he
    cases h
    refine ⟨k, i, e, hkey, hne, hi, rfl, ?_⟩
    -- the class was parsed: its validator passes
    have hparsed := parsed_of_checks hc
    obtain ⟨t, hpt⟩ := hparsed
    rw [hpt] at hc hid
    rw [← hid]
    refine ⟨⟨(EvidenceRecord.construct_eq_ok_iff _ _).2 ⟨hc, rfl⟩, hm, hn⟩, rfl, rfl, rfl⟩

theorem createPromotion_ok {body : PromotionCreateRequest} {header : Option String}
    (h : createPromotion uuid5 draw body header = .ok w) :
    ∃ key i t, resolveIdempotencyKey header body.idempotencyKey = .ok key ∧
      generateId uuid5 draw "trn_" "promotion" key (some body.producer) = .ok i ∧ w = .recordPromotion t key ∧
      t.Valid ∧ t.transitionId = i ∧ t.producer = body.producer := by
  obtain ⟨key, hkey, h⟩ := bind_ok h
  obtain ⟨i, hi, h⟩ := bind_ok h
  obtain ⟨t, ht, h⟩ := bind_ok h
  obtain ⟨hc, _, hid⟩ := constructAt_eq_ok_iff.1 ht
  cases h
  refine ⟨key, i, t, hkey, hi, rfl, ?_⟩
  rw [← hid]
  exact ⟨runChecks_then_eq_ok.2 ⟨hc, rfl⟩, rfl, rfl⟩

theorem createHealthRecord_ok {body : HealthRecordCreateRequest} {header : Option String}
    (hwf : (Request.createHealthRecord body header).WellFormed)
    (h : createHealthRecord uuid5 draw body header = .ok w) :
    ∃ key i x, resolveIdempotencyKey header body.idempotencyKey = .ok key ∧
      generateId uuid5 draw "hlt_" "health" key (some body.producer) = .ok i ∧ w = .recordHealth x key true ∧
      x.Valid ∧ x.healthId = i ∧ x.producer = body.producer := by
  obtain ⟨key, hkey, h⟩ := bind_ok h
  obtain ⟨i, hi, h⟩ := bind_ok h
  obtain ⟨x, hx, h⟩ := bind_ok h
  obtain ⟨hc, _, hid⟩ := constructAt_eq_ok_iff.1 hx
  cases h
  refine ⟨key, i, x, hkey, hi, rfl, ?_⟩
  rw [← hid]
  exact ⟨⟨runChecks_then_eq_ok.2 ⟨hc, rfl⟩, hwf⟩, rfl, rfl⟩

/-- **A handler asks the store only for contract-valid records.** -/
theorem Request.toWrite_valid {req : Request} (hwf : req.WellFormed)
    (h : req.toWrite uuid5 draw = .ok w) : w.Valid := by
  cases req with
  | createStrategy body =>
    obtain ⟨_, rfl, hv⟩ := createStrategy_ok h
    exact hv
  | createStrategyVersion i body =>
    obtain ⟨_, rfl, hv⟩ := createStrategyVersion_ok h
    exact hv
  | createExperiment body header =>
    obtain ⟨_, _, _, _, _, rfl, hv, _⟩ := createExperiment_ok h
    exact hv
  | createRun i body header =>
    obtain ⟨_, _, _, _, _, rfl, hv, _⟩ := createRun_ok h
    exact hv
  | closeRun i body =>
    cases h
    trivial
  | appendEvidence body header =>
    obtain ⟨_, _, _, _, _, _, rfl, hv, _⟩ := appendEvidence_ok hwf.1 hwf.2 h
    exact hv
  | attachArtifact i body =>
    cases h
    trivial
  | createPromotion body header =>
    obtain ⟨_, _, _, _, _, rfl, hv, _⟩ := createPromotion_ok h
    exact hv
  | createHealthRecord body header =>
    obtain ⟨_, _, _, _, _, rfl, hv, _⟩ := createHealthRecord_ok hwf h
    exact hv

end specs

end Cer.Api
