import Cer.Api.Schemas
import Cer.Metadata.ReadBack

/-!
# Records on the wire

`modelValidate` is a model's `model_validate` of a response's JSON value: the fields are
looked up by name, an unknown name is refused (`extra="forbid"`), a missing one takes its
default or is refused, and the values read go through the model's validators.

`Reply.modelValidate_dump`: a valid record is read back from its dump as `mode="json"` wrote it.
-/

namespace Cer

open Py Api

/-! ## Fields -/

abbrev Fields := List (String × Json)

/-- A field without a default. -/
def Fields.required {α : Type} (fields : Fields) (read : String → Json → Except Exc α) (name : String) :
    Except Exc α :=
  match fields.lookup name with
  | some j => read name j
  | none => .error (.pydantic [(name, "Field required")])

/-- A field with one. -/
def Fields.withDefault {α : Type} (fields : Fields) (read : String → Json → Except Exc α)
    (default : α) (name : String) :
    Except Exc α :=
  match fields.lookup name with
  | some j => read name j
  | none => .ok default

def readStr (field : String) (j : Json) : Except Exc String := orTypeError field (asStr j)

def readInt (field : String) : Json → Except Exc Int
  | .int n => .ok n
  | _ => .error (typeError field)

def readFloat (field : String) (j : Json) : Except Exc PyFloat := orTypeError field (asFloat j)

/-- `null`, or a value. -/
def readOptional {α : Type} (read : String → Json → Except Exc α) (field : String) : Json → Except Exc (Option α)
  | .null => .ok none
  | j => (read field j).map some

/-- `Z`, or an offset in figures. -/
def readZone : List Char → Option (Option Int)
  | ['Z'] => some (some 0)
  | cs => readOffset cs

/-- An ISO text with `T` and seconds. -/
def readDatetime (s : String) : Option AwareTime := do
  let (t, cs) ← readStamp s.toList
  let off ← readZone cs
  return ⟨t, off⟩

def readTime (field : String) : Json → Except Exc AwareTime
  | .str s => orTypeError field (readDatetime s)
  | _ => .error (typeError field)

/-- An enumeration's member by its value. -/
def readEnum {E : Type} (parse : String → Except Exc E) (field : String) (j : Json) : Except Exc E :=
  match asStr j with
  | some s => orTypeError field (parse s).toOption
  | none => .error (typeError field)

def parseProvenanceCompleteness : String → Except Exc ProvenanceCompleteness :=
  parseEnum "ProvenanceCompleteness" [.complete, .incomplete] ProvenanceCompleteness.value

/-- A mapping or a list of anything. -/
def readContainer (field : String) (j : Json) : Except Exc Json :=
  if isContainer j then .ok j else .error (typeError field)

def readOptStr : String → Json → Except Exc (Option String) := readOptional readStr

def readOptFloat : String → Json → Except Exc (Option PyFloat) := readOptional readFloat

/-- A model's fields, all of them known. -/
def readFields {α : Type} (names : List String) (read : Fields → Except Exc α) : Json → Except Exc α
  | .obj fields => match fields.find? fun kv => !names.contains kv.1 with
    | some kv => .error (.pydantic [(kv.1, "Extra inputs are not permitted")])
    | none => read fields
  | _ => .error (typeError "")

/-! ## The eight models -/

def Strategy.fieldNames : List String := ["strategy_id", "name", "thesis", "created_at"]

def Strategy.modelValidate : Json → Except Exc Strategy :=
  readFields Strategy.fieldNames fun fields => do
    let strategyId ← fields.required readStr "strategy_id"
    let name ← fields.required readStr "name"
    let thesis ← fields.required readStr "thesis"
    let createdAt ← fields.required readTime "created_at"
    constructAt Strategy.checks id 3 [utcDateTime "created_at" createdAt]
      { strategyId := strategyId, name := name, thesis := thesis, createdAt := instant createdAt }

def StrategyVersion.fieldNames : List String :=
  ["strategy_id", "strategy_version", "git_repo", "git_commit", "created_at", "notes"]

def StrategyVersion.modelValidate : Json → Except Exc StrategyVersion :=
  readFields StrategyVersion.fieldNames fun fields => do
    let strategyId ← fields.required readStr "strategy_id"
    let strategyVersion ← fields.required readStr "strategy_version"
    let gitRepo ← fields.required readStr "git_repo"
    let gitCommit ← fields.required readStr "git_commit"
    let createdAt ← fields.required readTime "created_at"
    let notes ← fields.withDefault readOptStr none "notes"
    constructAt StrategyVersion.checks id 4 [utcDateTime "created_at" createdAt]
      { strategyId := strategyId, strategyVersion := strategyVersion, gitRepo := gitRepo, gitCommit := gitCommit
        createdAt := instant createdAt, notes := notes }

def Experiment.fieldNames : List String :=
  ["experiment_id", "objective", "strategy_id", "strategy_version", "producer", "created_at"]

def Experiment.modelValidate : Json → Except Exc Experiment :=
  readFields Experiment.fieldNames fun fields => do
    let experimentId ← fields.required readStr "experiment_id"
    let objective ← fields.required readStr "objective"
    let strategyId ← fields.withDefault readOptStr none "strategy_id"
    let strategyVersion ← fields.withDefault readOptStr none "strategy_version"
    let producer ← fields.required readStr "producer"
    let createdAt ← fields.required readTime "created_at"
    constructAt Experiment.checks id 5 [utcDateTime "created_at" createdAt]
      { experimentId := experimentId, objective := objective, strategyId := strategyId
        strategyVersion := strategyVersion, producer := producer, createdAt := instant createdAt }

def Run.fieldNames : List String :=
  ["run_id", "experiment_id", "status", "started_at", "ended_at", "producer", "producer_version", "git_repo",
   "git_commit", "dataset_id", "dataset_version", "dataset_ref", "config_hash", "config_ref", "environment",
   "provenance_completeness", "missing_provenance"]

/-- The two provenance fields are read, and then computed. -/
def Run.modelValidate : Json → Except Exc Run :=
  readFields Run.fieldNames fun fields => do
    let runId ← fields.required readStr "run_id"
    let experimentId ← fields.required readStr "experiment_id"
    let status ← fields.required (readEnum parseRunStatus) "status"
    let startedAt ← fields.required readTime "started_at"
    let endedAt ← fields.withDefault (readOptional readTime) none "ended_at"
    let producer ← fields.required readStr "producer"
    let producerVersion ← fields.withDefault readOptStr none "producer_version"
    let gitRepo ← fields.withDefault readOptStr none "git_repo"
    let gitCommit ← fields.withDefault readOptStr none "git_commit"
    let datasetId ← fields.withDefault readOptStr none "dataset_id"
    let datasetVersion ← fields.withDefault readOptStr none "dataset_version"
    let datasetRef ← fields.withDefault readOptStr none "dataset_ref"
    let configHash ← fields.withDefault readOptStr none "config_hash"
    let configRef ← fields.withDefault readOptStr none "config_ref"
    let environment ← fields.withDefault readOptStr none "environment"
    let completeness ← fields.withDefault
      (readEnum parseProvenanceCompleteness) .incomplete "provenance_completeness"
    let missing ← fields.withDefault (readList asStr) [] "missing_provenance"
    constructAt Run.checks Run.applyProvenance 2
      [utcDateTime "started_at" startedAt, optUtcDateTime "ended_at" endedAt]
      { runId := runId, experimentId := experimentId, status := status, startedAt := instant startedAt
        endedAt := endedAt.map instant, producer := producer, producerVersion := producerVersion,
        gitRepo := gitRepo
        gitCommit := gitCommit, datasetId := datasetId, datasetVersion := datasetVersion, datasetRef := datasetRef
        configHash := configHash, configRef := configRef, environment := environment
        provenanceCompleteness := completeness, missingProvenance := missing }

def EvidenceRecord.fieldNames : List String :=
  ["evidence_id", "idempotency_key", "evidence_type", "schema_version", "strategy_id", "strategy_version",
   "experiment_id", "run_id", "producer", "producer_version", "created_at_utc", "observed_at_utc", "git_repo",
   "git_commit", "dataset_id", "dataset_version", "dataset_ref", "config_hash", "config_ref", "environment",
   "instruments", "timeframes", "metrics", "verdict", "status", "regime_tags", "parent_evidence_ids",
   "parent_run_ids", "artifact_ids", "notes", "provenance_completeness", "missing_provenance"]

def EvidenceRecord.modelValidate : Json → Except Exc EvidenceRecord :=
  readFields EvidenceRecord.fieldNames fun fields => do
    let evidenceId ← fields.required readStr "evidence_id"
    let idempotencyKey ← fields.required readStr "idempotency_key"
    let evidenceType ← fields.required readStr "evidence_type"
    let schemaVersion ← fields.required readInt "schema_version"
    let strategyId ← fields.withDefault readOptStr none "strategy_id"
    let strategyVersion ← fields.withDefault readOptStr none "strategy_version"
    let experimentId ← fields.withDefault readOptStr none "experiment_id"
    let runId ← fields.withDefault readOptStr none "run_id"
    let producer ← fields.required readStr "producer"
    let producerVersion ← fields.withDefault readOptStr none "producer_version"
    let createdAtUtc ← fields.required readTime "created_at_utc"
    let observedAtUtc ← fields.withDefault (readOptional readTime) none "observed_at_utc"
    let gitRepo ← fields.withDefault readOptStr none "git_repo"
    let gitCommit ← fields.withDefault readOptStr none "git_commit"
    let datasetId ← fields.withDefault readOptStr none "dataset_id"
    let datasetVersion ← fields.withDefault readOptStr none "dataset_version"
    let datasetRef ← fields.withDefault readOptStr none "dataset_ref"
    let configHash ← fields.withDefault readOptStr none "config_hash"
    let configRef ← fields.withDefault readOptStr none "config_ref"
    let environment ← fields.withDefault readOptStr none "environment"
    let instruments ← fields.withDefault (readList asStr) [] "instruments"
    let timeframes ← fields.withDefault (readList asStr) [] "timeframes"
    let metrics ← fields.withDefault (readDict asMetric) [] "metrics"
    let verdict ← fields.withDefault readOptStr none "verdict"
    let status ← fields.withDefault readOptStr none "status"
    let regimeTags ← fields.withDefault (readList asStr) [] "regime_tags"
    let parentEvidenceIds ← fields.withDefault (readList asStr) [] "parent_evidence_ids"
    let parentRunIds ← fields.withDefault (readList asStr) [] "parent_run_ids"
    let artifactIds ← fields.withDefault (readList asStr) [] "artifact_ids"
    let notes ← fields.withDefault readContainer (.obj []) "notes"
    let completeness ← fields.withDefault
      (readEnum parseProvenanceCompleteness) .incomplete "provenance_completeness"
    let missing ← fields.withDefault (readList asStr) [] "missing_provenance"
    let parsed := parseEvidenceType evidenceType
    constructAt (fun e => e.checks parsed) EvidenceRecord.applyProvenance 8
      [utcDateTime "created_at_utc" createdAtUtc, optUtcDateTime "observed_at_utc" observedAtUtc]
      { evidenceId := evidenceId, idempotencyKey := idempotencyKey, evidenceType := parsed.toOption.getD default
        schemaVersion := schemaVersion, strategyId := strategyId, strategyVersion := strategyVersion
        experimentId := experimentId, runId := runId, producer := producer, producerVersion := producerVersion
        createdAtUtc := instant createdAtUtc, observedAtUtc := observedAtUtc.map instant, gitRepo := gitRepo
        gitCommit := gitCommit, datasetId := datasetId, datasetVersion := datasetVersion, datasetRef := datasetRef
        configHash := configHash, configRef := configRef, environment := environment, instruments := instruments
        timeframes := timeframes, metrics := metrics, verdict := verdict, status := status,
        regimeTags := regimeTags
        parentEvidenceIds := parentEvidenceIds, parentRunIds := parentRunIds,
        artifactIds := artifactIds, notes := notes
        provenanceCompleteness := completeness, missingProvenance := missing }

def ArtifactRecord.fieldNames : List String :=
  ["artifact_id", "sha256", "size_bytes", "content_type", "filename", "uri", "registered_at",
    "run_id", "evidence_id"]

def ArtifactRecord.modelValidate : Json → Except Exc ArtifactRecord :=
  readFields ArtifactRecord.fieldNames fun fields => do
    let artifactId ← fields.required readStr "artifact_id"
    let sha256 ← fields.required readStr "sha256"
    let sizeBytes ← fields.required readInt "size_bytes"
    let contentType ← fields.required readStr "content_type"
    let filename ← fields.required readStr "filename"
    let uri ← fields.required readStr "uri"
    let registeredAt ← fields.required readTime "registered_at"
    let runId ← fields.withDefault readOptStr none "run_id"
    let evidenceId ← fields.withDefault readOptStr none "evidence_id"
    constructAt ArtifactRecord.checks (fun a => { a with sha256 := lower a.sha256 }) 6
      [utcDateTime "registered_at" registeredAt]
      { artifactId := artifactId, sha256 := sha256, sizeBytes := sizeBytes, contentType := contentType
        filename := filename, uri := uri, registeredAt := instant registeredAt, runId := runId
        evidenceId := evidenceId }

def PromotionTransition.fieldNames : List String :=
  ["transition_id", "strategy_id", "strategy_version", "from_state", "to_state", "at_utc", "authority", "producer",
   "evidence_ids", "reason"]

def PromotionTransition.modelValidate : Json → Except Exc PromotionTransition :=
  readFields PromotionTransition.fieldNames fun fields => do
    let transitionId ← fields.required readStr "transition_id"
    let strategyId ← fields.required readStr "strategy_id"
    let strategyVersion ← fields.required readStr "strategy_version"
    let fromState ← fields.required (readEnum parsePromotionState) "from_state"
    let toState ← fields.required (readEnum parsePromotionState) "to_state"
    let atUtc ← fields.required readTime "at_utc"
    let authority ← fields.required readStr "authority"
    let producer ← fields.required readStr "producer"
    let evidenceIds ← fields.required (readList asStr) "evidence_ids"
    let reason ← fields.required readStr "reason"
    constructAt PromotionTransition.checks id 2 [utcDateTime "at_utc" atUtc]
      { transitionId := transitionId, strategyId := strategyId, strategyVersion := strategyVersion
        fromState := fromState, toState := toState, atUtc := instant atUtc, authority := authority
        producer := producer, evidenceIds := evidenceIds, reason := reason }

def StrategyHealthRecord.fieldNames : List String :=
  ["health_id", "strategy_id", "strategy_version", "health_state", "observed_at_utc", "producer",
   "observed_trigger_rate", "regime_conditioned_expected_trigger_rate", "expectancy_r",
   "win_rate", "drawdown", "mae",
   "mfe", "holding_time", "execution_slippage_quality", "regime_distribution",
   "strategy_chain_strength_distribution",
   "baseline_comparison", "confidence", "reason", "evidence_ids"]

def StrategyHealthRecord.modelValidate : Json → Except Exc StrategyHealthRecord :=
  readFields StrategyHealthRecord.fieldNames fun fields => do
    let healthId ← fields.required readStr "health_id"
    let strategyId ← fields.required readStr "strategy_id"
    let strategyVersion ← fields.required readStr "strategy_version"
    let healthState ← fields.required (readEnum parseHealthState) "health_state"
    let observedAtUtc ← fields.required readTime "observed_at_utc"
    let producer ← fields.required readStr "producer"
    let observedTriggerRate ← fields.withDefault readOptFloat none "observed_trigger_rate"
    let expectedTriggerRate ← fields.withDefault readOptFloat none "regime_conditioned_expected_trigger_rate"
    let expectancyR ← fields.withDefault readOptFloat none "expectancy_r"
    let winRate ← fields.withDefault readOptFloat none "win_rate"
    let drawdown ← fields.withDefault readOptFloat none "drawdown"
    let mae ← fields.withDefault readOptFloat none "mae"
    let mfe ← fields.withDefault readOptFloat none "mfe"
    let holdingTime ← fields.withDefault readOptFloat none "holding_time"
    let executionSlippageQuality ← fields.withDefault readOptFloat none "execution_slippage_quality"
    let regimeDistribution ← fields.withDefault (readOptional (readDict asFloat)) none "regime_distribution"
    let chainStrengthDistribution ←
      fields.withDefault (readOptional (readDict asFloat)) none "strategy_chain_strength_distribution"
    let baselineComparison ← fields.withDefault (readOptional (readDict some)) none "baseline_comparison"
    let confidence ← fields.withDefault readOptFloat none "confidence"
    let reason ← fields.required readStr "reason"
    let evidenceIds ← fields.required (readList asStr) "evidence_ids"
    constructAt StrategyHealthRecord.checks id 2 [utcDateTime "observed_at_utc" observedAtUtc]
      { healthId := healthId, strategyId := strategyId, strategyVersion := strategyVersion,
        healthState := healthState
        observedAtUtc := instant observedAtUtc, producer := producer, observedTriggerRate := observedTriggerRate
        regimeConditionedExpectedTriggerRate := expectedTriggerRate, expectancyR := expectancyR, winRate := winRate
        drawdown := drawdown, mae := mae, mfe := mfe, holdingTime := holdingTime
        executionSlippageQuality := executionSlippageQuality, regimeDistribution := regimeDistribution
        strategyChainStrengthDistribution := chainStrengthDistribution, baselineComparison := baselineComparison
        confidence := confidence, reason := reason, evidenceIds := evidenceIds }

/-! ## Dumps are read back -/

/-! ### Values -/

theorem readDatetime_jsonText (t : DateTime) : readDatetime (jsonText t) = some ⟨t, some 0⟩ := by
  unfold readDatetime jsonText
  rw [String.toList_ofList, readStamp_stamp t _ (by decide)]
  rfl

theorem readTime_jsonText (field : String) (t : DateTime) : readTime field (.str (jsonText t)) =
    .ok ⟨t, some 0⟩ := by
  show orTypeError field (readDatetime (jsonText t)) = _
  rw [readDatetime_jsonText]
  rfl

theorem readOptTime_optTime (field : String) (t : Option DateTime) :
    readOptional readTime field (optTime t) = .ok (t.map fun t => ⟨t, some 0⟩) := by
  cases t with
  | none => rfl
  | some t =>
    show (readTime field (.str (jsonText t))).map some = _
    rw [readTime_jsonText]
    rfl

theorem readOptStr_optStr (field : String) (s : Option String) : readOptStr field (optStr s) = .ok s := by
  cases s <;> rfl

theorem readOptFloat_optFloat (field : String) (f : Option PyFloat) : readOptFloat field (optFloat f) = .ok f := by
  cases f <;> rfl

theorem readStr_str (field s : String) : readStr field (.str s) = .ok s := rfl

theorem readInt_int (field : String) (n : Int) : readInt field (.int n) = .ok n := rfl

theorem readEnum_value {E : Type} {parse : String → Except Exc E} {value : E → String}
    (h : ∀ x, parse (value x) = .ok x) (field : String) (x : E) :
    readEnum parse field (.str (value x)) = .ok x := by
  show orTypeError field (parse (value x)).toOption = .ok x
  rw [h]
  rfl

theorem parseProvenanceCompleteness_value (p : ProvenanceCompleteness) :
    parseProvenanceCompleteness p.value = .ok p := by
  cases p <;> decide +kernel

theorem readOptFloatDict_optFloatDict (field : String) (d : Option (List (String × PyFloat))) :
    readOptional (readDict asFloat) field (optFloatDict d) = .ok d := by
  cases d with
  | none => rfl
  | some kvs =>
    show (readDict asFloat field (floatDict kvs)).map some = _
    rw [floatDict, readDict_scalars (g := Json.float) fun _ => rfl]
    rfl

theorem readOptDict_optDict (field : String) (d : Option (List (String × Json))) :
    readOptional (readDict some) field (optDict d) = .ok d := by
  cases d with
  | none => rfl
  | some kvs =>
    have h : readDict some field (.obj (kvs.map fun kv => (kv.1, id kv.2))) = .ok kvs :=
      readDict_scalars (fun _ => rfl) field kvs
    rw [show (kvs.map fun kv => (kv.1, id kv.2)) = kvs from List.map_id kvs] at h
    show (readDict some field (.obj kvs)).map some = _
    rw [h]
    rfl

/-! ### Records -/

/-- A dump is read by looking its fields up. -/
theorem readFields_dump {α : Type} {names : List String} {read : Fields → Except Exc α} {dump : Fields} {x : α}
    (hkeys : dump.map Prod.fst = names) (hn : names.Nodup)
    (h : ∀ fields : Fields, (∀ kv ∈ dump, fields.lookup kv.1 = some kv.2) → read fields = .ok x) :
    readFields names read (.obj dump) = .ok x := by
  have hfind : (dump.find? fun kv => !names.contains kv.1) = none := by
    rw [List.find?_eq_none]
    intro kv hkv
    have hmem : kv.1 ∈ names := hkeys ▸ List.mem_map_of_mem (f := Prod.fst) hkv
    simp [hmem]
  show (match dump.find? fun kv => !names.contains kv.1 with | some kv => _ | none => read dump) = _
  rw [hfind]
  exact h dump fun kv hkv => (lookup_eq_some_iff_mem (hkeys ▸ hn) kv.1 kv.2).2 hkv

theorem optUtcDateTime_utc (field : String) (t : Option DateTime) :
    optUtcDateTime field (t.map fun t => ⟨t, some 0⟩) = .pass := by
  cases t <;> rfl

theorem map_instant_utc (t : Option DateTime) : (t.map fun t => (⟨t, some 0⟩ : AwareTime)).map instant = t := by
  cases t <;> rfl

/-- A constructor on a record's own values and their timestamps in UTC. -/
theorem constructAt_valid {Rec : Type} {checks : Rec → List Check} {compute : Rec → Rec} {n : Nat}
    {times : List Check} {x : Rec} (hv : (runChecks (checks x) >>= fun _ => pure (compute x)) = .ok x)
    (ht : ∀ c ∈ times, c = .pass) : constructAt checks compute n times x = .ok x := by
  obtain ⟨hc, hx⟩ := runChecks_then_eq_ok.1 hv
  exact constructAt_eq_ok_iff.2 ⟨hc, ht, hx⟩

theorem Strategy.modelValidate_dump {s : Strategy} (h : s.Valid) :
    Strategy.modelValidate (.obj s.dump) = .ok s := by
  unfold Strategy.modelValidate
  refine readFields_dump rfl (by decide) fun fields hl => ?_
  simp only [Strategy.dump, List.forall_mem_cons] at hl
  simp only [Fields.required, hl, readTime_jsonText]
  exact constructAt_valid h (by simp [utcDateTime_utc])

theorem StrategyVersion.modelValidate_dump {v : StrategyVersion} (h : v.Valid) :
    StrategyVersion.modelValidate (.obj v.dump) = .ok v := by
  unfold StrategyVersion.modelValidate
  refine readFields_dump rfl (by decide) fun fields hl => ?_
  simp only [StrategyVersion.dump, List.forall_mem_cons] at hl
  simp only [Fields.required, Fields.withDefault, hl, readTime_jsonText, readOptStr_optStr]
  exact constructAt_valid h (by simp [utcDateTime_utc])

theorem Experiment.modelValidate_dump {e : Experiment} (h : e.Valid) :
    Experiment.modelValidate (.obj e.dump) = .ok e := by
  unfold Experiment.modelValidate
  refine readFields_dump rfl (by decide) fun fields hl => ?_
  simp only [Experiment.dump, List.forall_mem_cons] at hl
  simp only [Fields.required, Fields.withDefault, hl, readTime_jsonText, readOptStr_optStr]
  exact constructAt_valid h (by simp [utcDateTime_utc])

theorem Run.modelValidate_dump {r : Run} (h : r.Valid) : Run.modelValidate (.obj r.dump) = .ok r := by
  unfold Run.modelValidate
  refine readFields_dump rfl (by decide +kernel) fun fields hl => ?_
  simp only [Run.dump, List.forall_mem_cons] at hl
  simp only [Fields.required, Fields.withDefault, hl, readStr_str, readTime_jsonText,
    readOptTime_optTime, readOptStr_optStr,
    readEnum_value parseRunStatus_value, readEnum_value parseProvenanceCompleteness_value,
    readList_strList, ok_bind,
    instant_utc, map_instant_utc]
  exact constructAt_valid h (by simp [utcDateTime_utc, optUtcDateTime_utc])

theorem EvidenceRecord.modelValidate_values {e : EvidenceRecord} (h : e.Valid) :
    EvidenceRecord.modelValidate (.obj e.values) = .ok e := by
  obtain ⟨hv, -, -⟩ := h
  unfold EvidenceRecord.construct at hv
  rw [parseEvidenceType_value] at hv
  obtain ⟨hc, hp⟩ := runChecks_then_eq_ok.1 hv
  have hnotes : isContainer e.notes = true := by
    have hlast : (if isContainer e.notes then Check.pass else
        .value "notes" "Input should be a valid dictionary or list") = .pass :=
        hc _ (by simp [EvidenceRecord.checks])
    by_contra hnot
    rw [if_neg hnot] at hlast
    cases hlast
  have hread : readContainer "notes" e.notes = .ok e.notes := if_pos hnotes
  unfold EvidenceRecord.modelValidate
  refine readFields_dump rfl (by decide +kernel) fun fields hl => ?_
  simp only [EvidenceRecord.values, List.forall_mem_cons] at hl
  simp only [Fields.required, Fields.withDefault, hl, readStr_str, readInt_int,
    readTime_jsonText, readOptTime_optTime,
    readOptStr_optStr, readEnum_value parseProvenanceCompleteness_value, readList_strList, ok_bind,
    instant_utc, map_instant_utc, metricDict, readDict_scalars asMetric_toJson, hread, parseEvidenceType_value]
  exact constructAt_eq_ok_iff.2 ⟨hc, by simp [utcDateTime_utc, optUtcDateTime_utc], hp⟩

theorem ArtifactRecord.modelValidate_dump {a : ArtifactRecord} (h : a.Valid) :
    ArtifactRecord.modelValidate (.obj a.dump) = .ok a := by
  unfold ArtifactRecord.modelValidate
  refine readFields_dump rfl (by decide) fun fields hl => ?_
  simp only [ArtifactRecord.dump, List.forall_mem_cons] at hl
  simp only [Fields.required, Fields.withDefault, hl, readStr_str, readInt_int,
    readTime_jsonText, readOptStr_optStr, ok_bind,
    instant_utc]
  exact constructAt_valid h (by simp [utcDateTime_utc])

theorem PromotionTransition.modelValidate_dump {t : PromotionTransition} (h : t.Valid) :
    PromotionTransition.modelValidate (.obj t.dump) = .ok t := by
  unfold PromotionTransition.modelValidate
  refine readFields_dump rfl (by decide) fun fields hl => ?_
  simp only [PromotionTransition.dump, List.forall_mem_cons] at hl
  simp only [Fields.required, hl, readStr_str, readTime_jsonText, readEnum_value parsePromotionState_value,
    readList_strList, ok_bind, instant_utc]
  exact constructAt_valid h (by simp [utcDateTime_utc])

theorem StrategyHealthRecord.modelValidate_values {x : StrategyHealthRecord} (h : x.Valid) :
    StrategyHealthRecord.modelValidate (.obj x.values) = .ok x := by
  unfold StrategyHealthRecord.modelValidate
  refine readFields_dump rfl (by decide +kernel) fun fields hl => ?_
  simp only [StrategyHealthRecord.values, List.forall_mem_cons] at hl
  simp only [Fields.required, Fields.withDefault, hl, readStr_str, readTime_jsonText, readOptFloat_optFloat,
    readEnum_value parseHealthState_value, readOptFloatDict_optFloatDict, readOptDict_optDict,
    readList_strList, ok_bind, instant_utc]
  exact constructAt_valid h.1 (by simp [utcDateTime_utc])

/-! ## Any model -/

/-- The eight models. -/
inductive Model
  | strategy | strategyVersion | experiment | run | evidence | artifact | promotion | health
deriving DecidableEq

def Reply.model : Reply → Model
  | .strategy _ => .strategy
  | .strategyVersion _ => .strategyVersion
  | .experiment _ => .experiment
  | .run _ => .run
  | .evidence _ => .evidence
  | .artifact _ => .artifact
  | .promotion _ => .promotion
  | .health _ => .health

def Reply.Valid : Reply → Prop
  | .strategy s => s.Valid
  | .strategyVersion v => v.Valid
  | .experiment e => e.Valid
  | .run r => r.Valid
  | .evidence e => e.Valid
  | .artifact a => a.Valid
  | .promotion t => t.Valid
  | .health h => h.Valid

def Model.modelValidate (j : Json) : Model → Except Exc Reply
  | .strategy => (Strategy.modelValidate j).map .strategy
  | .strategyVersion => (StrategyVersion.modelValidate j).map .strategyVersion
  | .experiment => (Experiment.modelValidate j).map .experiment
  | .run => (Run.modelValidate j).map .run
  | .evidence => (EvidenceRecord.modelValidate j).map .evidence
  | .artifact => (ArtifactRecord.modelValidate j).map .artifact
  | .promotion => (PromotionTransition.modelValidate j).map .promotion
  | .health => (StrategyHealthRecord.modelValidate j).map .health

/-- The record as `mode="json"` writes it. -/
def Reply.jsonMode : Reply → Reply
  | .evidence e => .evidence e.jsonMode
  | .health h => .health h.jsonMode
  | rep => rep

/-- **A valid record is read back from its dump** by its model, whichever of the eight it is. -/
theorem Reply.modelValidate_dump {rep : Reply} (h : rep.Valid) :
    rep.model.modelValidate (.obj rep.dump) = .ok rep.jsonMode := by
  cases rep with
  | strategy s =>
    simp only [Reply.model, Model.modelValidate, Reply.dump, Strategy.modelValidate_dump h]
    rfl
  | strategyVersion v =>
    simp only [Reply.model, Model.modelValidate, Reply.dump, StrategyVersion.modelValidate_dump h]
    rfl
  | experiment e =>
    simp only [Reply.model, Model.modelValidate, Reply.dump, Experiment.modelValidate_dump h]
    rfl
  | run r =>
    simp only [Reply.model, Model.modelValidate, Reply.dump, Run.modelValidate_dump h]
    rfl
  | evidence e =>
    simp only [Reply.model, Model.modelValidate, Reply.dump, EvidenceRecord.dump,
      EvidenceRecord.modelValidate_values (EvidenceRecord.jsonMode_valid h)]
    rfl
  | artifact a =>
    simp only [Reply.model, Model.modelValidate, Reply.dump, ArtifactRecord.modelValidate_dump h]
    rfl
  | promotion t =>
    simp only [Reply.model, Model.modelValidate, Reply.dump, PromotionTransition.modelValidate_dump h]
    rfl
  | health x =>
    simp only [Reply.model, Model.modelValidate, Reply.dump, StrategyHealthRecord.dump,
      StrategyHealthRecord.modelValidate_values (StrategyHealthRecord.jsonMode_valid h)]
    rfl

end Cer
