import Cer.Lib.JsonSame
import Cer.Metadata.Queries

/-!
# What a fingerprint decides

A `FieldType` says how values of a field are written and when two of them are the same; the
types of records are lists of such fields under the names `model_dump` gives them.  Two
records `Agree` when their fields outside the exclusion set do, and that is what equal
fingerprints mean (`fingerprints_decide_content`).
-/

namespace Cer

open Py

/-! ## Types of fields -/

/-- How the values of a field are written, and when two of them are the same. -/
structure FieldType where
  Val : Type
  write : Val → Json
  /-- What the contract asks of a value: a mapping has distinct keys. -/
  Lawful : Val → Prop
  Same : Val → Val → Prop
  nodup : ∀ v, Lawful v → nodupKeys (write v) = true
  same_iff : ∀ v w, Lawful v → Lawful w → (Json.Same (write v) (write w) ↔ Same v w)

theorem same_write_iff {α : Type} {write : α → Json} (hn : ∀ v, nodupKeys (write v) = true)
    (hs : ∀ v, sortKeys (write v) = write v) (hi : ∀ {v w}, write v = write w → v = w) (v w : α) :
    Json.Same (write v) (write w) ↔ v = w := by
  rw [← sortKeys_eq_iff (hn v) (hn w), hs, hs]
  exact ⟨hi, fun h => h ▸ rfl⟩

/-- Values without a mapping in them: the same when they are equal. -/
def FieldType.plain {α : Type} (write : α → Json) (hn : ∀ v, nodupKeys (write v) = true)
    (hs : ∀ v, sortKeys (write v) = write v) (hi : ∀ {v w}, write v = write w → v = w) : FieldType where
  Val := α
  write := write
  Lawful _ := True
  Same := Eq
  nodup v _ := hn v
  same_iff v w _ _ := same_write_iff hn hs hi v w

/-- `None`, or a value that is not written as `null`. -/
def FieldType.optional (t : FieldType) (hnull : ∀ v, t.write v ≠ .null) : FieldType where
  Val := Option t.Val
  write o := o.elim .null t.write
  Lawful o := ∀ v ∈ o, t.Lawful v
  Same := Option.Rel t.Same
  nodup o ho := by
    cases o with
    | none => rfl
    | some v => exact t.nodup v (ho v rfl)
  same_iff o o' ho ho' := by
    have hnone : ∀ j, Json.Same .null j → j = .null := fun j h => by cases h; rfl
    have hnone' : ∀ j, Json.Same j .null → j = .null := fun j h => by cases h; rfl
    cases o with
    | none =>
      cases o' with
      | none => exact ⟨fun _ => .none, fun _ => .null⟩
      | some w =>
        refine ⟨fun h => absurd (hnone _ h) (hnull w), ?_⟩
        rintro ⟨⟩
    | some v =>
      cases o' with
      | none =>
        refine ⟨fun h => absurd (hnone' _ h) (hnull v), ?_⟩
        rintro ⟨⟩
      | some w =>
        refine (t.same_iff v w (ho v rfl) (ho' w rfl)).trans ⟨.some, ?_⟩
        rintro ⟨h⟩
        exact h

/-- A mapping of such values, compared by key. -/
def FieldType.mapping {α : Type} (write : α → Json) (hn : ∀ v, nodupKeys (write v) = true)
    (hs : ∀ v, sortKeys (write v) = write v) (hi : ∀ {v w}, write v = write w → v = w) : FieldType where
  Val := List (String × α)
  write kvs := .obj (kvs.map fun kv => (kv.1, write kv.2))
  Lawful kvs := (kvs.map Prod.fst).Nodup
  Same kvs lws := ∀ k, kvs.lookup k = lws.lookup k
  nodup kvs h := nodupKeys_scalars hn h
  same_iff kvs lws _ _ := by
    constructor
    · intro h k
      cases h with
      | obj keys item =>
        have hk := keys k
        rw [lookup_map_snd, lookup_map_snd, Option.isSome_map, Option.isSome_map] at hk
        have hitem := item k
        rw [lookup_map_snd, lookup_map_snd] at hitem
        cases hv : kvs.lookup k with
        | none =>
          rw [hv] at hk
          exact (Option.isNone_iff_eq_none.1 (Option.isSome_eq_false_iff.1 hk.symm)).symm
        | some v =>
          rw [hv] at hk
          obtain ⟨w, hw⟩ := Option.isSome_iff_exists.1 hk.symm
          rw [hv, hw] at hitem
          rw [hw, (same_write_iff hn hs hi v w).1 (hitem _ _ rfl rfl)]
    · intro h
      refine .obj (fun k => ?_) fun k x y hx hy => ?_
      · rw [lookup_map_snd, lookup_map_snd, h]
      · rw [lookup_map_snd] at hx hy
        rw [h, hy] at hx
        obtain rfl := Option.some.inj hx
        obtain ⟨v, _, rfl⟩ := Option.map_eq_some_iff.1 hy
        exact (same_write_iff hn hs hi v v).2 rfl

def FieldType.text : FieldType := .plain Json.str (fun _ => rfl) (fun _ => rfl) Json.str.inj
def FieldType.int : FieldType := .plain Json.int (fun _ => rfl) (fun _ => rfl) Json.int.inj
def FieldType.float : FieldType := .plain Json.float (fun _ => rfl) (fun _ => rfl) Json.float.inj

/-- A member of an enumeration. -/
def FieldType.member {E : Type} (value : E → String) (hi : ∀ {s t}, value s = value t → s = t) : FieldType :=
  .plain (fun e => .str (value e)) (fun _ => rfl) (fun _ => rfl) fun h => hi (Json.str.inj h)

/-- Texts in order. -/
def FieldType.texts : FieldType :=
  .plain strList nodupKeys_strList sortKeys_strList fun h =>
    List.map_injective_iff.2 (fun _ _ => Json.str.inj) (Json.arr.inj h)

/-- A time: the same when it is the same instant. -/
def FieldType.time : FieldType where
  Val := DateTime
  write t := .str (jsonText t)
  Lawful _ := True
  Same t u := t.toMicros = u.toMicros
  nodup _ _ := rfl
  same_iff t u _ _ := by
    rw [same_write_iff (fun _ => rfl) (fun _ => rfl) fun h => jsonText_inj (Json.str.inj h)]
    exact ⟨congrArg DateTime.toMicros, toMicros_inj⟩

theorem MetricValue.toJson_inj {v w : MetricValue} (h : v.toJson = w.toJson) : v = w := by
  have hv := asMetric_toJson v
  rw [h, asMetric_toJson w] at hv
  exact (Option.some.inj hv).symm

/-- Metrics by name, a number of one kind not being one of another. -/
def FieldType.metrics : FieldType :=
  .mapping MetricValue.toJson nodupKeys_metric sortKeys_metric MetricValue.toJson_inj

def FieldType.floats : FieldType := .mapping Json.float (fun _ => rfl) (fun _ => rfl) Json.float.inj

/-- A free-form JSON value.  A NaN or an infinity in it is written as `null`. -/
def FieldType.json : FieldType where
  Val := Json
  write := nullNonFinite
  Lawful j := nodupKeys j = true
  Same j k := Json.Same (nullNonFinite j) (nullNonFinite k)
  nodup _ h := nodupKeys_nullNonFinite h
  same_iff _ _ _ _ := Iff.rfl

/-- A free-form mapping. -/
def FieldType.dict : FieldType where
  Val := List (String × Json)
  write kvs := nullNonFinite (.obj kvs)
  Lawful kvs := nodupKeys (.obj kvs) = true
  Same kvs lws := Json.Same (nullNonFinite (.obj kvs)) (nullNonFinite (.obj lws))
  nodup _ h := nodupKeys_nullNonFinite h
  same_iff _ _ _ _ := Iff.rfl

def FieldType.optText : FieldType := .optional .text fun _ h => by cases h
def FieldType.optTime : FieldType := .optional .time fun _ h => by cases h
def FieldType.optFloat : FieldType := .optional .float fun _ h => by cases h
def FieldType.optFloats : FieldType := .optional .floats fun _ h => by cases h
def FieldType.optDict : FieldType := .optional .dict fun kvs h => by
  have hobj : nullNonFinite (.obj kvs) = .obj (nullNonFiniteFields kvs) := rfl
  have hnull : nullNonFinite (.obj kvs) = .null := h
  rw [hobj] at hnull
  cases hnull

theorem optStr_eq (v : Option String) : optStr v = FieldType.optText.write v := by
  cases v <;> rfl

theorem optTime_eq (v : Option DateTime) : optTime v = FieldType.optTime.write v := by
  cases v <;> rfl

theorem optFloat_eq (v : Option PyFloat) : optFloat v = FieldType.optFloat.write v := by
  cases v <;> rfl

theorem optFloatDict_eq (v : Option (List (String × PyFloat))) : optFloatDict v = FieldType.optFloats.write v := by
  cases v <;> rfl

theorem optDict_eq (v : Option (List (String × Json))) :
    optDict (v.map nullNonFiniteFields) = FieldType.optDict.write v := by
  cases v <;> rfl

@[simp] theorem FieldType.text_lawful (v : String) : FieldType.text.Lawful v := trivial
@[simp] theorem FieldType.int_lawful (v : Int) : FieldType.int.Lawful v := trivial
@[simp] theorem FieldType.time_lawful (v : DateTime) : FieldType.time.Lawful v := trivial
@[simp] theorem FieldType.texts_lawful (v : List String) : FieldType.texts.Lawful v := trivial
@[simp] theorem FieldType.optText_lawful (v : Option String) : FieldType.optText.Lawful v := fun _ _ => trivial
@[simp] theorem FieldType.optTime_lawful (v : Option DateTime) : FieldType.optTime.Lawful v := fun _ _ => trivial
@[simp] theorem FieldType.optFloat_lawful (v : Option PyFloat) : FieldType.optFloat.Lawful v := fun _ _ => trivial

@[simp] theorem FieldType.member_lawful {E : Type} (value : E → String) (hi : ∀ {s t}, value s = value t → s = t)
    (e : E) : (FieldType.member value hi).Lawful e := trivial

/-! ## Fields of a record -/

structure Field (R : Type) where
  name : String
  type : FieldType
  get : R → type.Val

/-- The item of the field in the record's dump. -/
def Field.item {R : Type} (f : Field R) (r : R) : String × Json := (f.name, f.type.write (f.get r))

/-- The records have the same value in every field outside `exclude`. -/
def Agree {R : Type} (fields : List (Field R)) (exclude : List String) (a b : R) : Prop :=
  ∀ f ∈ fields, f.name ∉ exclude → f.type.Same (f.get a) (f.get b)

section fields
variable {R : Type} {fields : List (Field R)} {a b : R}

theorem items_keys (fields : List (Field R)) (r : R) :
    (fields.map (·.item r)).map Prod.fst = fields.map (·.name) := by
  rw [List.map_map]
  rfl

theorem lookup_item (hn : (fields.map (·.name)).Nodup) {f : Field R} (hf : f ∈ fields) (r : R) :
    (fields.map (·.item r)).lookup f.name = some (f.type.write (f.get r)) := by
  rw [lookup_eq_some_iff_mem (by rw [items_keys]; exact hn)]
  exact List.mem_map.2 ⟨f, hf, rfl⟩

/-- The dumps agree as JSON where the records agree as records. -/
theorem sameFields_iff_agree (hn : (fields.map (·.name)).Nodup) (ha : ∀ f ∈ fields, f.type.Lawful (f.get a))
    (hb : ∀ f ∈ fields, f.type.Lawful (f.get b)) (exclude : List String) :
    SameFields exclude (fields.map (·.item a)) (fields.map (·.item b)) ↔ Agree fields exclude a b := by
  have hsame : ∀ f ∈ fields, sortKeys (f.type.write (f.get a)) = sortKeys (f.type.write (f.get b)) ↔
      f.type.Same (f.get a) (f.get b) := by
    intro f hf
    rw [sortKeys_eq_iff (f.type.nodup _ (ha f hf)) (f.type.nodup _ (hb f hf))]
    exact f.type.same_iff _ _ (ha f hf) (hb f hf)
  constructor
  · intro h f hf hex
    have hl := h f.name hex
    rw [lookup_item hn hf, lookup_item hn hf] at hl
    exact (hsame f hf).1 (Option.some.inj hl)
  · intro h k hk
    by_cases hname : k ∈ fields.map (·.name)
    · obtain ⟨f, hf, rfl⟩ := List.mem_map.1 hname
      rw [lookup_item hn hf, lookup_item hn hf]
      exact congrArg some ((hsame f hf).2 (h f hf hk))
    · have hnone : ∀ r : R, (fields.map (·.item r)).lookup k = none := fun r =>
        List.lookup_eq_none_iff.2 fun kv hkv => by
          rw [bne_iff_ne]
          rintro rfl
          exact hname (items_keys fields r ▸ List.mem_map_of_mem hkv)
      rw [hnone, hnone]

end fields

/-! ## The types of records -/

def Strategy.fields : List (Field Strategy) :=
  [⟨"strategy_id", .text, (·.strategyId)⟩, ⟨"name", .text, (·.name)⟩, ⟨"thesis", .text, (·.thesis)⟩,
   ⟨"created_at", .time, (·.createdAt)⟩]

def StrategyVersion.fields : List (Field StrategyVersion) :=
  [⟨"strategy_id", .text, (·.strategyId)⟩, ⟨"strategy_version", .text, (·.strategyVersion)⟩,
   ⟨"git_repo", .text, (·.gitRepo)⟩, ⟨"git_commit", .text, (·.gitCommit)⟩, ⟨"created_at", .time, (·.createdAt)⟩,
   ⟨"notes", .optText, (·.notes)⟩]

def Experiment.fields : List (Field Experiment) :=
  [⟨"experiment_id", .text, (·.experimentId)⟩, ⟨"objective", .text, (·.objective)⟩,
   ⟨"strategy_id", .optText, (·.strategyId)⟩, ⟨"strategy_version", .optText, (·.strategyVersion)⟩,
   ⟨"producer", .text, (·.producer)⟩, ⟨"created_at", .time, (·.createdAt)⟩]

def Run.fields : List (Field Run) :=
  [⟨"run_id", .text, (·.runId)⟩, ⟨"experiment_id", .text, (·.experimentId)⟩,
   ⟨"status", .member RunStatus.value RunStatus.value_inj, (·.status)⟩, ⟨"started_at", .time, (·.startedAt)⟩,
   ⟨"ended_at", .optTime, (·.endedAt)⟩, ⟨"producer", .text, (·.producer)⟩,
   ⟨"producer_version", .optText, (·.producerVersion)⟩, ⟨"git_repo", .optText, (·.gitRepo)⟩,
   ⟨"git_commit", .optText, (·.gitCommit)⟩, ⟨"dataset_id", .optText, (·.datasetId)⟩,
   ⟨"dataset_version", .optText, (·.datasetVersion)⟩, ⟨"dataset_ref", .optText, (·.datasetRef)⟩,
   ⟨"config_hash", .optText, (·.configHash)⟩, ⟨"config_ref", .optText, (·.configRef)⟩,
   ⟨"environment", .optText, (·.environment)⟩,
   ⟨"provenance_completeness", .member ProvenanceCompleteness.value ProvenanceCompleteness.value_inj,
    (·.provenanceCompleteness)⟩,
   ⟨"missing_provenance", .texts, (·.missingProvenance)⟩]

def EvidenceRecord.fields : List (Field EvidenceRecord) :=
  [⟨"evidence_id", .text, (·.evidenceId)⟩, ⟨"idempotency_key", .text, (·.idempotencyKey)⟩,
   ⟨"evidence_type", .member EvidenceType.value EvidenceType.value_inj, (·.evidenceType)⟩,
   ⟨"schema_version", .int, (·.schemaVersion)⟩, ⟨"strategy_id", .optText, (·.strategyId)⟩,
   ⟨"strategy_version", .optText, (·.strategyVersion)⟩, ⟨"experiment_id", .optText, (·.experimentId)⟩,
   ⟨"run_id", .optText, (·.runId)⟩, ⟨"producer", .text, (·.producer)⟩,
   ⟨"producer_version", .optText, (·.producerVersion)⟩, ⟨"created_at_utc", .time, (·.createdAtUtc)⟩,
   ⟨"observed_at_utc", .optTime, (·.observedAtUtc)⟩, ⟨"git_repo", .optText, (·.gitRepo)⟩,
   ⟨"git_commit", .optText, (·.gitCommit)⟩, ⟨"dataset_id", .optText, (·.datasetId)⟩,
   ⟨"dataset_version", .optText, (·.datasetVersion)⟩, ⟨"dataset_ref", .optText, (·.datasetRef)⟩,
   ⟨"config_hash", .optText, (·.configHash)⟩, ⟨"config_ref", .optText, (·.configRef)⟩,
   ⟨"environment", .optText, (·.environment)⟩, ⟨"instruments", .texts, (·.instruments)⟩,
   ⟨"timeframes", .texts, (·.timeframes)⟩, ⟨"metrics", .metrics, (·.metrics)⟩, ⟨"verdict", .optText, (·.verdict)⟩,
   ⟨"status", .optText, (·.status)⟩, ⟨"regime_tags", .texts, (·.regimeTags)⟩,
   ⟨"parent_evidence_ids", .texts, (·.parentEvidenceIds)⟩, ⟨"parent_run_ids", .texts, (·.parentRunIds)⟩,
   ⟨"artifact_ids", .texts, (·.artifactIds)⟩, ⟨"notes", .json, (·.notes)⟩,
   ⟨"provenance_completeness", .member ProvenanceCompleteness.value ProvenanceCompleteness.value_inj,
    (·.provenanceCompleteness)⟩,
   ⟨"missing_provenance", .texts, (·.missingProvenance)⟩]

def ArtifactRecord.fields : List (Field ArtifactRecord) :=
  [⟨"artifact_id", .text, (·.artifactId)⟩, ⟨"sha256", .text, (·.sha256)⟩, ⟨"size_bytes", .int, (·.sizeBytes)⟩,
   ⟨"content_type", .text, (·.contentType)⟩, ⟨"filename", .text, (·.filename)⟩, ⟨"uri", .text, (·.uri)⟩,
   ⟨"registered_at", .time, (·.registeredAt)⟩, ⟨"run_id", .optText, (·.runId)⟩,
   ⟨"evidence_id", .optText, (·.evidenceId)⟩]

def PromotionTransition.fields : List (Field PromotionTransition) :=
  [⟨"transition_id", .text, (·.transitionId)⟩, ⟨"strategy_id", .text, (·.strategyId)⟩,
   ⟨"strategy_version", .text, (·.strategyVersion)⟩,
   ⟨"from_state", .member PromotionState.value PromotionState.value_inj, (·.fromState)⟩,
   ⟨"to_state", .member PromotionState.value PromotionState.value_inj, (·.toState)⟩, ⟨"at_utc", .time, (·.atUtc)⟩,
   ⟨"authority", .text, (·.authority)⟩, ⟨"producer", .text, (·.producer)⟩,
   ⟨"evidence_ids", .texts, (·.evidenceIds)⟩,
   ⟨"reason", .text, (·.reason)⟩]

def StrategyHealthRecord.fields : List (Field StrategyHealthRecord) :=
  [⟨"health_id", .text, (·.healthId)⟩, ⟨"strategy_id", .text, (·.strategyId)⟩,
   ⟨"strategy_version", .text, (·.strategyVersion)⟩,
   ⟨"health_state", .member HealthState.value HealthState.value_inj, (·.healthState)⟩,
   ⟨"observed_at_utc", .time, (·.observedAtUtc)⟩, ⟨"producer", .text, (·.producer)⟩,
   ⟨"observed_trigger_rate", .optFloat, (·.observedTriggerRate)⟩,
   ⟨"regime_conditioned_expected_trigger_rate", .optFloat, (·.regimeConditionedExpectedTriggerRate)⟩,
   ⟨"expectancy_r", .optFloat, (·.expectancyR)⟩, ⟨"win_rate", .optFloat, (·.winRate)⟩,
   ⟨"drawdown", .optFloat, (·.drawdown)⟩, ⟨"mae", .optFloat, (·.mae)⟩, ⟨"mfe", .optFloat, (·.mfe)⟩,
   ⟨"holding_time", .optFloat, (·.holdingTime)⟩,
   ⟨"execution_slippage_quality", .optFloat, (·.executionSlippageQuality)⟩,
   ⟨"regime_distribution", .optFloats, (·.regimeDistribution)⟩,
   ⟨"strategy_chain_strength_distribution", .optFloats, (·.strategyChainStrengthDistribution)⟩,
   ⟨"baseline_comparison", .optDict, (·.baselineComparison)⟩, ⟨"confidence", .optFloat, (·.confidence)⟩,
   ⟨"reason", .text, (·.reason)⟩, ⟨"evidence_ids", .texts, (·.evidenceIds)⟩]

/-! The values of a valid record are lawful: only mappings have anything to keep. -/

theorem Strategy.lawful (s : Strategy) : ∀ f ∈ Strategy.fields, f.type.Lawful (f.get s) := by
  simp [Strategy.fields]

theorem StrategyVersion.lawful (v : StrategyVersion) : ∀ f ∈ StrategyVersion.fields, f.type.Lawful (f.get v) := by
  simp [StrategyVersion.fields]

theorem Experiment.lawful (e : Experiment) : ∀ f ∈ Experiment.fields, f.type.Lawful (f.get e) := by
  simp [Experiment.fields]

theorem Run.lawful (r : Run) : ∀ f ∈ Run.fields, f.type.Lawful (f.get r) := by
  simp [Run.fields]

theorem EvidenceRecord.lawful {e : EvidenceRecord} (h : e.Valid) :
    ∀ f ∈ EvidenceRecord.fields, f.type.Lawful (f.get e) := by
  have hmetrics : FieldType.metrics.Lawful e.metrics := h.2.1
  have hnotes : FieldType.json.Lawful e.notes := h.2.2
  simp [EvidenceRecord.fields, hmetrics, hnotes]

theorem ArtifactRecord.lawful (a : ArtifactRecord) : ∀ f ∈ ArtifactRecord.fields, f.type.Lawful (f.get a) := by
  simp [ArtifactRecord.fields]

theorem PromotionTransition.lawful (t : PromotionTransition) :
    ∀ f ∈ PromotionTransition.fields, f.type.Lawful (f.get t) := by
  simp [PromotionTransition.fields]

theorem StrategyHealthRecord.lawful {x : StrategyHealthRecord} (h : x.Valid) :
    ∀ f ∈ StrategyHealthRecord.fields, f.type.Lawful (f.get x) := by
  have hregimes : FieldType.optFloats.Lawful x.regimeDistribution := h.2.1
  have hstrengths : FieldType.optFloats.Lawful x.strategyChainStrengthDistribution := h.2.2.1
  have hbaseline : FieldType.optDict.Lawful x.baselineComparison := h.2.2.2
  simp [StrategyHealthRecord.fields, hregimes, hstrengths, hbaseline]

/-- A type of records with one of its exclusion sets. -/
inductive Fingerprinted
  | strategy | strategyVersion | experiment | run | evidence | promotion | health | artifact | artifactIdem
deriving DecidableEq

namespace Fingerprinted

def Rec : Fingerprinted → Type
  | strategy => Strategy
  | strategyVersion => StrategyVersion
  | experiment => Experiment
  | run => Run
  | evidence => EvidenceRecord
  | promotion => PromotionTransition
  | health => StrategyHealthRecord
  | artifact | artifactIdem => ArtifactRecord

def exclude : Fingerprinted → List String
  | strategy => strategyFpExclude
  | strategyVersion => strategyVersionFpExclude
  | experiment => experimentFpExclude
  | run => runFpExclude
  | evidence => evidenceFpExclude
  | promotion => promotionFpExclude
  | health => healthFpExclude
  | artifact => artifactFpExclude
  | artifactIdem => artifactIdemFpExclude

def Valid : (x : Fingerprinted) → x.Rec → Prop
  | strategy => Strategy.Valid
  | strategyVersion => StrategyVersion.Valid
  | experiment => Experiment.Valid
  | run => Run.Valid
  | evidence => EvidenceRecord.Valid
  | promotion => PromotionTransition.Valid
  | health => StrategyHealthRecord.Valid
  | artifact | artifactIdem => ArtifactRecord.Valid

def dump : (x : Fingerprinted) → x.Rec → List (String × Json)
  | strategy => Strategy.dump
  | strategyVersion => StrategyVersion.dump
  | experiment => Experiment.dump
  | run => Run.dump
  | evidence => EvidenceRecord.dump
  | promotion => PromotionTransition.dump
  | health => StrategyHealthRecord.dump
  | artifact | artifactIdem => ArtifactRecord.dump

def fields : (x : Fingerprinted) → List (Field x.Rec)
  | strategy => Strategy.fields
  | strategyVersion => StrategyVersion.fields
  | experiment => Experiment.fields
  | run => Run.fields
  | evidence => EvidenceRecord.fields
  | promotion => PromotionTransition.fields
  | health => StrategyHealthRecord.fields
  | artifact | artifactIdem => ArtifactRecord.fields

/-- The dump writes every field, in order. -/
theorem dump_eq (x : Fingerprinted) (r : x.Rec) : x.dump r = x.fields.map (·.item r) := by
  cases x with
  | strategy | promotion => rfl
  | strategyVersion => simp only [dump, StrategyVersion.dump, optStr_eq]; rfl
  | experiment => simp only [dump, Experiment.dump, optStr_eq]; rfl
  | run => simp only [dump, Run.dump, optStr_eq, optTime_eq]; rfl
  | evidence => simp only [dump, EvidenceRecord.dump, EvidenceRecord.values, optStr_eq, optTime_eq]; rfl
  | health =>
    simp only [dump, StrategyHealthRecord.dump, StrategyHealthRecord.values,
      StrategyHealthRecord.jsonMode, optFloat_eq,
      optFloatDict_eq, optDict_eq]
    rfl
  | artifact | artifactIdem => simp only [dump, ArtifactRecord.dump, optStr_eq]; rfl

theorem fields_nodup (x : Fingerprinted) : (x.fields.map (·.name)).Nodup := by
  cases x <;> decide

theorem lawful {x : Fingerprinted} {r : x.Rec} (h : x.Valid r) : ∀ f ∈ x.fields, f.type.Lawful (f.get r) := by
  cases x with
  | strategy => exact Strategy.lawful r
  | strategyVersion => exact StrategyVersion.lawful r
  | experiment => exact Experiment.lawful r
  | run => exact Run.lawful r
  | evidence => exact EvidenceRecord.lawful h
  | promotion => exact PromotionTransition.lawful r
  | health => exact StrategyHealthRecord.lawful h
  | artifact | artifactIdem => exact ArtifactRecord.lawful r

theorem nodupKeys_dump {x : Fingerprinted} {r : x.Rec} (h : x.Valid r) : nodupKeys (.obj (x.dump r)) = true := by
  rw [dump_eq]
  refine nodupKeys_obj (by rw [items_keys]; exact x.fields_nodup) fun kv hkv => ?_
  obtain ⟨f, hf, rfl⟩ := List.mem_map.1 hkv
  exact f.type.nodup _ (lawful h f hf)

variable (env : Env) {x : Fingerprinted} {a b : x.Rec}

/-- The canonical text is one text for all the records that agree, and for no others. -/
theorem canonical_eq_iff_agree (ha : x.Valid a) (hb : x.Valid b) :
    canonical env (x.dump a) x.exclude = canonical env (x.dump b) x.exclude ↔ Agree x.fields x.exclude a b := by
  have hkeys : (x.dump a).map Prod.fst = (x.dump b).map Prod.fst := by
    rw [dump_eq, dump_eq, items_keys, items_keys]
  rw [canonical_eq_iff env (nodupKeys_dump ha) (nodupKeys_dump hb) hkeys, dump_eq, dump_eq]
  exact sameFields_iff_agree x.fields_nodup (lawful ha) (lawful hb) x.exclude

end Fingerprinted

/-- **Equal fingerprints** mean the same content: two valid records of a type have one fingerprint,
and one canonical text, just when they agree outside the exclusion set, where times agree when they
were given as one instant, and free-form values of finite numbers when they are the same JSON. -/
theorem fingerprints_decide_content (env : Env) (x : Fingerprinted) {a b : x.Rec} (ha : x.Valid a) (hb : x.Valid b)
    (hcol : env.NoCollision (canonical env (x.dump a) x.exclude) (canonical env (x.dump b) x.exclude)) :
    (fingerprint env (x.dump a) x.exclude = fingerprint env (x.dump b) x.exclude ↔ Agree x.fields x.exclude a b) ∧
      (canonical env (x.dump a) x.exclude = canonical env (x.dump b) x.exclude ↔ Agree x.fields x.exclude a b) ∧
      (∀ (s t : AwareTime) (u v : DateTime), toUtc s = .ok u → toUtc t = .ok v →
        (FieldType.time.Same u v ↔ instantOf s = instantOf t)) ∧
      ∀ j k : Json, isFinite j = true → isFinite k = true → (FieldType.json.Same j k ↔ Json.Same j k) := by
  have htext := Fingerprinted.canonical_eq_iff_agree env ha hb
  refine ⟨?_, htext, fun s t u v hu hv => ?_, fun j k hj hk => ?_⟩
  · rw [← htext]
    exact ⟨hcol, congrArg env.digest⟩
  · rw [← instantOf_toUtc hu, ← instantOf_toUtc hv]
    exact Int.ofNat_inj.symm
  · show Json.Same (nullNonFinite j) (nullNonFinite k) ↔ Json.Same j k
    rw [nullNonFinite_of_isFinite hj, nullNonFinite_of_isFinite hk]

/-- An observation compared with a baseline. -/
def sampleCompared (baseline : List (String × Json)) : StrategyHealthRecord :=
  { sampleHealth with mae := none, baselineComparison := some baseline }

theorem sampleCompared_valid (baseline : List (String × Json)) (h : nodupKeys (.obj baseline) = true) :
    (sampleCompared baseline).Valid := by
  refine ⟨?_, fun _ hd => (by cases hd), fun _ hd => (by cases hd), fun kvs hkvs => ?_⟩
  · have hchecks : (sampleCompared baseline).checks = sampleHealth.checks := rfl
    have hpass : runChecks sampleHealth.checks = .ok () := by decide +kernel
    show (do runChecks (sampleCompared baseline).checks; return sampleCompared baseline) = _
    rw [hchecks, hpass]
    rfl
  · cases hkvs
    exact h

/-- The baseline's items in another order, and a time given in another zone. -/
theorem sampleCompared_agree :
    Agree StrategyHealthRecord.fields healthFpExclude (sampleCompared [("trades", .int 3), ("exact", .bool true)])
        (sampleCompared [("exact", .bool true), ("trades", .int 3)]) ∧
      (FieldType.time.Same sampleTime sampleTime ↔ instantOf ⟨sampleTime, some 0⟩ =
        instantOf ⟨⟨2026, 9, 4, 13, 0, 0, 0, by decide⟩, some 3600000000⟩) := by
  have hsorted : sortKeys
    (.obj (payload (sampleCompared [("trades", .int 3), ("exact", .bool true)]).dump healthFpExclude)) =
      sortKeys (.obj (payload
        (sampleCompared [("exact", .bool true), ("trades", .int 3)]).dump healthFpExclude)) := by
    decide +kernel
  have hcanonical : canonical .reference
    (sampleCompared [("trades", .int 3), ("exact", .bool true)]).dump healthFpExclude =
      canonical .reference (sampleCompared [("exact", .bool true), ("trades", .int 3)]).dump healthFpExclude := by
    unfold canonical Py.dumps
    rw [hsorted]
  have h := fingerprints_decide_content .reference .health
    (sampleCompared_valid [("trades", .int 3), ("exact", .bool true)] (by decide))
    (sampleCompared_valid [("exact", .bool true), ("trades", .int 3)] (by decide)) fun _ => hcanonical
  exact ⟨h.1.1 (congrArg Env.reference.digest hcanonical), h.2.2.1 _ _ _ _ rfl (by decide)⟩

end Cer
