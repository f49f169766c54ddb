import Cer.Contract.Models
import Cer.Lib.JsonRoundTrip
import Cer.Metadata.Schema
import Cer.Runtime.Env

/-!
# Records as rows

`toRow` is the tuple of values an INSERT writes for a record, `rowTo...` the decoder of a
fetched row, with the model's constructor at its end.  What is read back is `stored`:
the record with its mappings in key order and, in the REAL columns, NULL for a NaN.
One theorem for each record says so (`rowToRun_toRow` and its siblings).

Fingerprints are SHA-256 digests of the canonical JSON text of the fields outside an
exclusion set.
-/

namespace Cer

open Py

/-! ## Column texts -/

/-- `_dumps`. -/
def dumpsText (env : Env) (value : Json) : String := Py.dumps env.floats value

/-- `_loads`. -/
def loadsText (env : Env) (s : String) : Except Exc Json :=
  match Py.loads env.floats s with
  | some j => .ok j
  | none => .error (.valueError "not a JSON text")

/-- `_dt_to_str`. -/
def dtToStr (dt : DateTime) : String := isoformat dt

/-- `_str_to_dt`. -/
def strToDt (s : String) : Except Exc DateTime :=
  match fromIsoformat s with
  | some dt => toUtc dt
  | none => .error (.valueError s!"Invalid isoformat string: {Py.repr s}")

def optStrToDt : Option String → Except Exc (Option DateTime)
  | none => .ok none
  | some s => (strToDt s).map some

theorem strToDt_dtToStr (dt : DateTime) : strToDt (dtToStr dt) = .ok dt := by
  unfold strToDt dtToStr
  rw [fromIsoformat_isoformat]
  exact toUtc_utc dt

theorem optStrToDt_map (dt : Option DateTime) : optStrToDt (dt.map dtToStr) = .ok dt := by
  cases dt with
  | none => rfl
  | some dt =>
    show (strToDt (dtToStr dt)).map some = .ok (some dt)
    rw [strToDt_dtToStr]
    rfl

theorem loadsText_dumpsText (env : Env) {j : Json} (h : nodupKeys j = true) :
    loadsText env (dumpsText env j) = .ok (sortKeys j) := by
  unfold loadsText dumpsText
  rw [loads_dumps env.floats j h]

/-! ## Fingerprints -/

/-- The fields of a dump outside the exclusion set. -/
def payload (modelDump : List (String × Json)) (exclude : List String) : List (String × Json) :=
  modelDump.filter fun kv => !exclude.contains kv.1

/-- The canonical JSON text of the fields outside the exclusion set. -/
def canonical (env : Env) (modelDump : List (String × Json)) (exclude : List String) : String :=
  Py.dumps env.floats (.obj (payload modelDump exclude))

/-- `_fingerprint`. -/
def fingerprint (env : Env) (modelDump : List (String × Json)) (exclude : List String) : String :=
  env.digest (canonical env modelDump exclude)

def runFpExclude : List String := ["run_id", "started_at", "provenance_completeness", "missing_provenance"]

def evidenceFpExclude : List String :=
  ["evidence_id", "created_at_utc", "provenance_completeness", "missing_provenance"]

def strategyFpExclude : List String := ["created_at"]
def strategyVersionFpExclude : List String := ["created_at"]
def experimentFpExclude : List String := ["experiment_id", "created_at"]
def promotionFpExclude : List String := ["transition_id", "at_utc"]
def healthFpExclude : List String := ["health_id", "observed_at_utc"]
def artifactFpExclude : List String := ["artifact_id", "run_id", "evidence_id"]
def artifactIdemFpExclude : List String := artifactFpExclude ++ ["registered_at", "uri"]

/-! ## Values from JSON columns -/

/-- A value of a column that is not of the field's type. -/
def typeError (field : String) : Exc := .pydantic [(field, "Input is not of the field's type")]

def asStr : Json → Option String
  | .str s => some s
  | _ => none

def asFloat : Json → Option PyFloat
  | .float f => some f
  | _ => none

def asMetric : Json → Option MetricValue
  | .float f => some (.float f)
  | .int n => some (.int n)
  | .str s => some (.str s)
  | .bool b => some (.bool b)
  | _ => none

def orTypeError {α : Type} (field : String) : Option α → Except Exc α
  | some v => .ok v
  | none => .error (typeError field)

/-- A list field, each element read by `read`. -/
def readList {α : Type} (read : Json → Option α) (field : String) : Json → Except Exc (List α)
  | .arr xs => orTypeError field (xs.mapM read)
  | _ => .error (typeError field)

/-- An item of a mapping, its value read by `read`. -/
def readItem {α : Type} (read : Json → Option α) (kv : String × Json) : Option (String × α) :=
  (read kv.2).map fun v => (kv.1, v)

/-- A mapping field, each value read by `read`. -/
def readDict {α : Type} (read : Json → Option α) (field : String) : Json → Except Exc (List (String × α))
  | .obj kvs => orTypeError field (kvs.mapM (readItem read))
  | _ => .error (typeError field)

/-- A nullable JSON column. -/
def loadsOpt {α : Type} (env : Env) (read : Json → Except Exc α) : Option String → Except Exc (Option α)
  | none => .ok none
  | some s => (loadsText env s >>= read).map some

/-- The items of a mapping in key order. -/
def sortItems {α : Type} (kvs : List (String × α)) : List (String × α) := kvs.insertionSort fun a b => a.1 ≤ b.1

theorem mapM_map_of_left_inv {α β : Type} {f : β → Option α} {g : α → β} (h : ∀ a, f (g a) = some a) (l : List α) :
    (l.map g).mapM f = some l := by
  induction l with
  | nil => rfl
  | cons a l ih =>
    rw [List.map_cons, List.mapM_cons, h, ih]
    rfl

theorem sortKeys_strList (vs : List String) : sortKeys (strList vs) = strList vs := by
  unfold strList
  rw [sortKeys, sortKeysList_eq_map, List.map_map]
  rfl

theorem nodupKeys_strList (vs : List String) : nodupKeys (strList vs) = true := by
  unfold strList
  rw [nodupKeys, nodupKeysList_iff]
  intro x hx
  obtain ⟨s, _, rfl⟩ := List.mem_map.1 hx
  rfl

theorem readList_strList (field : String) (vs : List String) : readList asStr field (strList vs) = .ok vs := by
  show orTypeError field ((vs.map Json.str).mapM asStr) = .ok vs
  rw [mapM_map_of_left_inv (f := asStr) (g := Json.str) (fun _ => rfl)]
  rfl

/-- Mappings whose values hold no mapping: sorting them sorts the items. -/
theorem sortKeys_scalars {α : Type} {g : α → Json} (hg : ∀ a, sortKeys (g a) = g a) (kvs : List (String × α)) :
    sortKeys (.obj (kvs.map fun kv => (kv.1, g kv.2))) = .obj ((sortItems kvs).map fun kv => (kv.1, g kv.2)) := by
  have hfields : sortKeysFields (kvs.map fun kv => (kv.1, g kv.2)) = kvs.map fun kv => (kv.1, g kv.2) := by
    rw [sortKeysFields_eq_map, List.map_map]
    refine List.map_congr_left fun kv _ => ?_
    show (kv.1, sortKeys (g kv.2)) = (kv.1, g kv.2)
    rw [hg]
  have hmap := List.map_insertionSort (fun a b : String × α => a.1 ≤ b.1) keyLe (fun kv => (kv.1, g kv.2)) kvs
    fun _ _ _ _ => Iff.rfl
  unfold sortItems
  rw [sortKeys, hfields, hmap]

theorem nodupKeys_scalars {α : Type} {g : α → Json} (hg : ∀ a, nodupKeys (g a) = true) {kvs : List (String × α)}
    (h : (kvs.map Prod.fst).Nodup) : nodupKeys (.obj (kvs.map fun kv => (kv.1, g kv.2))) = true := by
  rw [nodupKeys, Bool.and_eq_true, decide_eq_true_eq, List.map_map]
  refine ⟨h, (nodupKeysFields_iff _).2 fun kv hkv => ?_⟩
  obtain ⟨x, _, rfl⟩ := List.mem_map.1 hkv
  exact hg x.2

theorem readDict_scalars {α : Type} {read : Json → Option α} {g : α → Json} (h : ∀ a, read (g a) = some a)
    (field : String) (kvs : List (String × α)) :
    readDict read field (.obj (kvs.map fun kv => (kv.1, g kv.2))) = .ok kvs := by
  have hitem : ∀ kv : String × α, readItem read (kv.1, g kv.2) = some kv := by
    intro kv
    unfold readItem
    rw [h]
    rfl
  show orTypeError field ((kvs.map fun kv => (kv.1, g kv.2)).mapM (readItem read)) = .ok kvs
  rw [mapM_map_of_left_inv hitem]
  rfl

theorem sortKeys_metric (v : MetricValue) : sortKeys v.toJson = v.toJson := by
  cases v <;> rfl

theorem nodupKeys_metric (v : MetricValue) : nodupKeys v.toJson = true := by
  cases v <;> rfl

theorem asMetric_toJson (v : MetricValue) : asMetric v.toJson = some v := by
  cases v <;> rfl

/-- A list of texts written to a column and read back. -/
theorem read_strList (env : Env) (field : String) (vs : List String) :
    (loadsText env (dumpsText env (strList vs)) >>= readList asStr field) = .ok vs := by
  rw [loadsText_dumpsText env (nodupKeys_strList vs), sortKeys_strList]
  exact readList_strList field vs

/-- A mapping of plain values written to a column and read back: its items in key order. -/
theorem read_scalars (env : Env) {α : Type} {read : Json → Option α} {g : α → Json} (h : ∀ a, read (g a) = some a)
    (hs : ∀ a, sortKeys (g a) = g a) (hn : ∀ a, nodupKeys (g a) = true) (field : String) {kvs : List (String × α)}
    (hk : (kvs.map Prod.fst).Nodup) :
    (loadsText env (dumpsText env (.obj (kvs.map fun kv => (kv.1, g kv.2)))) >>= readDict read field) =
      .ok (sortItems kvs) := by
  rw [loadsText_dumpsText env (nodupKeys_scalars hn hk), sortKeys_scalars hs]
  exact readDict_scalars h field _

/-! ## Strategies -/

def Strategy.toRow (s : Strategy) : StrategyRow :=
  { strategyId := s.strategyId, name := s.name, thesis := s.thesis, createdAt := dtToStr s.createdAt }

def rowToStrategy (row : StrategyRow) : Except Exc Strategy := do
  Strategy.construct
    { strategyId := row.strategyId, name := row.name, thesis := row.thesis, createdAt := ← strToDt row.createdAt }

theorem rowToStrategy_toRow {s : Strategy} (h : s.Valid) : rowToStrategy s.toRow = .ok s := by
  unfold rowToStrategy Strategy.toRow
  simp only [strToDt_dtToStr]
  exact h

def StrategyVersion.toRow (v : StrategyVersion) : StrategyVersionRow :=
  { strategyId := v.strategyId, strategyVersion := v.strategyVersion, gitRepo := v.gitRepo,
    gitCommit := v.gitCommit
    createdAt := dtToStr v.createdAt, notes := v.notes }

def rowToStrategyVersion (row : StrategyVersionRow) : Except Exc StrategyVersion := do
  StrategyVersion.construct
    { strategyId := row.strategyId, strategyVersion := row.strategyVersion, gitRepo := row.gitRepo
      gitCommit := row.gitCommit, createdAt := ← strToDt row.createdAt, notes := row.notes }

theorem rowToStrategyVersion_toRow {v : StrategyVersion} (h : v.Valid) : rowToStrategyVersion v.toRow = .ok v := by
  unfold rowToStrategyVersion StrategyVersion.toRow
  simp only [strToDt_dtToStr]
  exact h

/-! ## Experiments -/

def Experiment.fp (env : Env) (e : Experiment) : String := fingerprint env e.dump experimentFpExclude

def Experiment.toRow (env : Env) (e : Experiment) (idempotencyKey : Option String) : ExperimentRow :=
  { experimentId := e.experimentId, objective := e.objective, strategyId := e.strategyId
    strategyVersion := e.strategyVersion, producer := e.producer, createdAt := dtToStr e.createdAt
    idempotencyKey := idempotencyKey, contentFingerprint := some (e.fp env) }

def rowToExperiment (row : ExperimentRow) : Except Exc Experiment := do
  Experiment.construct
    { experimentId := row.experimentId, objective := row.objective, strategyId := row.strategyId
      strategyVersion := row.strategyVersion, producer := row.producer, createdAt := ← strToDt row.createdAt }

theorem rowToExperiment_toRow (env : Env) {e : Experiment} (h : e.Valid) (key : Option String) :
    rowToExperiment (e.toRow env key) = .ok e := by
  unfold rowToExperiment Experiment.toRow
  simp only [strToDt_dtToStr]
  exact h

/-! ## Runs -/

def Run.fp (env : Env) (r : Run) : String := fingerprint env r.dump runFpExclude

def Run.toRow (env : Env) (r : Run) (idempotencyKey : Option String) : RunRow :=
  { runId := r.runId, experimentId := r.experimentId, status := r.status.value, startedAt := dtToStr r.startedAt
    endedAt := r.endedAt.map dtToStr, producer := r.producer, producerVersion := r.producerVersion
    gitRepo := r.gitRepo, gitCommit := r.gitCommit, datasetId := r.datasetId, datasetVersion := r.datasetVersion
    datasetRef := r.datasetRef, configHash := r.configHash, configRef := r.configRef, environment := r.environment
    provenanceCompleteness := r.provenanceCompleteness.value
    missingProvenanceJson := dumpsText env (strList r.missingProvenance)
    idempotencyKey := idempotencyKey, contentFingerprint := some (r.fp env) }

/-- The two derived fields are not read back: the constructor computes them. -/
def rowToRun (row : RunRow) : Except Exc Run := do
  Run.construct
    { runId := row.runId, experimentId := row.experimentId, status := ← parseRunStatus row.status
      startedAt := ← strToDt row.startedAt, endedAt := ← optStrToDt row.endedAt, producer := row.producer
      producerVersion := row.producerVersion, gitRepo := row.gitRepo, gitCommit := row.gitCommit
      datasetId := row.datasetId, datasetVersion := row.datasetVersion, datasetRef := row.datasetRef
      configHash := row.configHash, configRef := row.configRef, environment := row.environment
      provenanceCompleteness := .incomplete, missingProvenance := [] }

theorem Run.valid_iff (r : Run) : r.Valid ↔ (∀ c ∈ r.checks, c = .pass) ∧ r.applyProvenance = r :=
  runChecks_then_eq_ok

/-- A run read back from its row, its status and end set to whatever they are now. -/
theorem rowToRun_toRow (env : Env) {r : Run} (h : r.Valid) (key : Option String) (status : RunStatus)
    (endedAt : Option DateTime) :
    rowToRun { r.toRow env key with status := status.value, endedAt := endedAt.map dtToStr } =
      .ok { r with status := status, endedAt := endedAt } := by
  obtain ⟨hc, hp⟩ := (Run.valid_iff r).1 h
  unfold rowToRun Run.toRow
  simp only [parseRunStatus_value, strToDt_dtToStr, optStrToDt_map]
  refine runChecks_then_eq_ok.2 ⟨hc, ?_⟩
  have hprov : computeRunProvenanceCompleteness r = (r.provenanceCompleteness, r.missingProvenance) := by
    have h1 := congrArg Run.provenanceCompleteness hp
    have h2 := congrArg Run.missingProvenance hp
    exact Prod.ext h1 h2
  show Run.mk _ _ _ _ _ _ _ _ _ _ _ _ _ _ _ (computeRunProvenanceCompleteness r).1
    (computeRunProvenanceCompleteness r).2 = _
  rw [hprov]

/-! ## Evidence -/

def EvidenceRecord.fp (env : Env) (e : EvidenceRecord) : String := fingerprint env e.dump evidenceFpExclude

def EvidenceRecord.toRow (env : Env) (e : EvidenceRecord) : EvidenceRow :=
  { evidenceId := e.evidenceId, idempotencyKey := e.idempotencyKey, evidenceType := e.evidenceType.value
    schemaVersion := e.schemaVersion, strategyId := e.strategyId, strategyVersion := e.strategyVersion
    experimentId := e.experimentId, runId := e.runId, producer := e.producer, producerVersion := e.producerVersion
    createdAtUtc := dtToStr e.createdAtUtc, observedAtUtc := e.observedAtUtc.map dtToStr, gitRepo := e.gitRepo
    gitCommit := e.gitCommit, datasetId := e.datasetId, datasetVersion := e.datasetVersion
    datasetRef := e.datasetRef, configHash := e.configHash, configRef := e.configRef, environment := e.environment
    instrumentsJson :=
      dumpsText env (strList e.instruments), timeframesJson := dumpsText env (strList e.timeframes)
    metricsJson := dumpsText env (metricDict e.metrics), verdict := e.verdict, status := e.status
    regimeTagsJson := dumpsText env (strList e.regimeTags)
    parentEvidenceIdsJson := dumpsText env (strList e.parentEvidenceIds)
    parentRunIdsJson := dumpsText env (strList e.parentRunIds)
    artifactIdsJson := dumpsText env (strList e.artifactIds), notesJson := dumpsText env e.notes
    provenanceCompleteness := e.provenanceCompleteness.value
    missingProvenanceJson := dumpsText env (strList e.missingProvenance), contentFingerprint := e.fp env }

def rowToEvidence (env : Env) (row : EvidenceRow) : Except Exc EvidenceRecord := do
  let createdAtUtc ← strToDt row.createdAtUtc
  let observedAtUtc ← optStrToDt row.observedAtUtc
  let instruments ← loadsText env row.instrumentsJson >>= readList asStr "instruments"
  let timeframes ← loadsText env row.timeframesJson >>= readList asStr "timeframes"
  let metrics ← loadsText env row.metricsJson >>= readDict asMetric "metrics"
  let regimeTags ← loadsText env row.regimeTagsJson >>= readList asStr "regime_tags"
  let parentEvidenceIds ← loadsText env row.parentEvidenceIdsJson >>= readList asStr "parent_evidence_ids"
  let parentRunIds ← loadsText env row.parentRunIdsJson >>= readList asStr "parent_run_ids"
  let artifactIds ← loadsText env row.artifactIdsJson >>= readList asStr "artifact_ids"
  let notes ← loadsText env row.notesJson
  EvidenceRecord.construct row.evidenceType fun evidenceType =>
    { evidenceId := row.evidenceId, idempotencyKey := row.idempotencyKey, evidenceType := evidenceType
      schemaVersion := row.schemaVersion, strategyId := row.strategyId, strategyVersion := row.strategyVersion
      experimentId := row.experimentId, runId := row.runId, producer := row.producer
      producerVersion := row.producerVersion, createdAtUtc := createdAtUtc, observedAtUtc := observedAtUtc
      gitRepo := row.gitRepo, gitCommit := row.gitCommit, datasetId := row.datasetId
      datasetVersion := row.datasetVersion, datasetRef := row.datasetRef, configHash := row.configHash
      configRef := row.configRef, environment := row.environment, instruments := instruments
      timeframes := timeframes, metrics := metrics, verdict := row.verdict, status := row.status
      regimeTags := regimeTags, parentEvidenceIds := parentEvidenceIds, parentRunIds := parentRunIds
      artifactIds := artifactIds, notes := notes, provenanceCompleteness := .incomplete, missingProvenance := [] }

/-- The record as it is read back: the two mappings in key order. -/
def EvidenceRecord.stored (e : EvidenceRecord) : EvidenceRecord :=
  { e with metrics := sortItems e.metrics, notes := sortKeys e.notes }

theorem isEmpty_sortItems {α : Type} (kvs : List (String × α)) : (sortItems kvs).isEmpty = kvs.isEmpty := by
  have h := List.length_insertionSort (fun a b : String × α => a.1 ≤ b.1) kvs
  unfold sortItems
  cases kvs with
  | nil => rfl
  | cons kv kvs =>
    cases hs : (kv :: kvs).insertionSort fun a b => a.1 ≤ b.1 with
    | nil => rw [hs] at h; simp at h
    | cons _ _ => rfl

theorem absentNotes_sortKeys (j : Json) : absentNotes (sortKeys j) = absentNotes j := by
  cases j with
  | obj kvs =>
    have h := List.length_insertionSort keyLe (sortKeysFields kvs)
    have hl : (sortKeysFields kvs).length = kvs.length := by
      rw [sortKeysFields_eq_map, List.length_map]
    show ((sortKeysFields kvs).insertionSort keyLe).isEmpty = kvs.isEmpty
    cases kvs with
    | nil => rfl
    | cons kv kvs =>
      cases hs : (sortKeysFields (kv :: kvs)).insertionSort keyLe with
      | nil =>
        rw [hs, hl] at h
        simp at h
      | cons _ _ => rfl
  | arr xs =>
    cases xs with
    | nil => rfl
    | cons _ _ => rfl
  | null => rfl
  | bool b => rfl
  | int n => rfl
  | float f => rfl
  | str s => rfl

theorem isContainer_sortKeys (j : Json) : isContainer (sortKeys j) = isContainer j := by
  cases j <;> rfl

theorem EvidenceRecord.provenance_stored (e : EvidenceRecord) :
    computeProvenanceCompleteness e.stored = computeProvenanceCompleteness e := by
  unfold computeProvenanceCompleteness
  congr 1
  unfold EvidenceRecord.provenanceFields EvidenceRecord.stored
  dsimp only
  rw [isEmpty_sortItems, absentNotes_sortKeys]

/-- Sorting mappings keeps a record valid. -/
theorem EvidenceRecord.construct_stored {e : EvidenceRecord} (h : e.Valid) :
    EvidenceRecord.construct e.evidenceType.value
      (fun t => { e.stored with evidenceType := t, provenanceCompleteness := .incomplete,
                                missingProvenance := [] }) =
      .ok e.stored := by
  obtain ⟨h, -, -⟩ := h
  obtain ⟨hc, hp⟩ := (EvidenceRecord.construct_eq_ok_iff e e).1 h
  unfold EvidenceRecord.construct
  rw [parseEvidenceType_value]
  refine runChecks_then_eq_ok.2 ⟨?_, ?_⟩
  · have hchecks : ∀ p m, EvidenceRecord.checks { e.stored with provenanceCompleteness := p,
                                                                missingProvenance := m }
        (.ok e.evidenceType) = e.checks (.ok e.evidenceType) := by
      intro p m
      unfold EvidenceRecord.checks EvidenceRecord.stored
      dsimp only
      rw [isContainer_sortKeys]
    intro c hmem
    exact hc c (hchecks .incomplete [] ▸ hmem)
  · have hprov : computeProvenanceCompleteness e.stored = (e.provenanceCompleteness, e.missingProvenance) := by
      rw [EvidenceRecord.provenance_stored]
      exact Prod.ext (congrArg EvidenceRecord.provenanceCompleteness hp)
        (congrArg EvidenceRecord.missingProvenance hp)
    have hset : ∀ p : ProvenanceCompleteness × List String,
        p = (e.provenanceCompleteness, e.missingProvenance) →
        { e.stored with provenanceCompleteness := p.1, missingProvenance := p.2 } = e.stored := by
      rintro _ rfl
      rfl
    exact hset _ hprov

theorem rowToEvidence_toRow (env : Env) {e : EvidenceRecord} (h : e.Valid) :
    rowToEvidence env (e.toRow env) = .ok e.stored := by
  obtain ⟨_, hm, hn⟩ := id h
  have hmetrics : (loadsText env (dumpsText env (metricDict e.metrics)) >>= readDict asMetric "metrics") =
      .ok (sortItems e.metrics) :=
    read_scalars env asMetric_toJson sortKeys_metric nodupKeys_metric "metrics" hm
  unfold rowToEvidence EvidenceRecord.toRow
  simp only [strToDt_dtToStr, optStrToDt_map, read_strList, hmetrics, loadsText_dumpsText env hn]
  exact EvidenceRecord.construct_stored h

/-! ## Artifacts -/

def ArtifactRecord.fp (env : Env) (a : ArtifactRecord) : String := fingerprint env a.dump artifactFpExclude

def ArtifactRecord.idemFp (env : Env) (a : ArtifactRecord) : String := fingerprint env a.dump artifactIdemFpExclude

def ArtifactRecord.toRow (env : Env) (a : ArtifactRecord) (idempotencyKey producer : Option String) :
    ArtifactRow :=
  { artifactId := a.artifactId, sha256 := a.sha256, sizeBytes := a.sizeBytes, contentType := a.contentType
    filename := a.filename, uri := a.uri, registeredAt := dtToStr a.registeredAt, runId := a.runId
    evidenceId := a.evidenceId, contentFingerprint := a.fp env
    producer := if idempotencyKey.isSome then producer else none, idempotencyKey := idempotencyKey
    idempotencyFingerprint := if idempotencyKey.isSome then some (a.idemFp env) else none }

def rowToArtifact (row : ArtifactRow) : Except Exc ArtifactRecord := do
  ArtifactRecord.construct
    { artifactId := row.artifactId, sha256 := row.sha256, sizeBytes := row.sizeBytes,
      contentType := row.contentType
      filename := row.filename, uri := row.uri, registeredAt := ← strToDt row.registeredAt, runId := row.runId
      evidenceId := row.evidenceId }

theorem rowToArtifact_toRow (env : Env) {a : ArtifactRecord} (h : a.Valid) (key producer : Option String) :
    rowToArtifact (a.toRow env key producer) = .ok a := by
  unfold rowToArtifact ArtifactRecord.toRow
  simp only [strToDt_dtToStr]
  exact h

/-! ## Promotions -/

def PromotionTransition.fp (env : Env) (t : PromotionTransition) : String :=
  fingerprint env t.dump promotionFpExclude

def PromotionTransition.toRow (env : Env) (t : PromotionTransition) (idempotencyKey : Option String) :
    PromotionRow :=
  { transitionId := t.transitionId, strategyId := t.strategyId, strategyVersion := t.strategyVersion
    fromState := t.fromState.value, toState := t.toState.value, atUtc := dtToStr t.atUtc, authority := t.authority
    producer := t.producer, evidenceIdsJson := dumpsText env (strList t.evidenceIds), reason := t.reason
    idempotencyKey := idempotencyKey, contentFingerprint := some (t.fp env) }

def rowToPromotion (env : Env) (row : PromotionRow) : Except Exc PromotionTransition := do
  PromotionTransition.construct
    { transitionId := row.transitionId, strategyId := row.strategyId, strategyVersion := row.strategyVersion
      fromState := ← parsePromotionState row.fromState, toState := ← parsePromotionState row.toState
      atUtc := ← strToDt row.atUtc, authority := row.authority, producer := row.producer
      evidenceIds := ← (loadsText env row.evidenceIdsJson >>= readList asStr "evidence_ids"),
      reason := row.reason }

theorem rowToPromotion_toRow (env : Env) {t : PromotionTransition} (h : t.Valid) (key : Option String) :
    rowToPromotion env (t.toRow env key) = .ok t := by
  unfold rowToPromotion PromotionTransition.toRow
  simp only [parsePromotionState_value, strToDt_dtToStr, read_strList]
  exact h

/-! ## Health records -/

def StrategyHealthRecord.fp (env : Env) (h : StrategyHealthRecord) : String :=
  fingerprint env h.dump healthFpExclude

def StrategyHealthRecord.toRow (env : Env) (h : StrategyHealthRecord) (idempotencyKey : Option String) :
    HealthRow :=
  { healthId := h.healthId, strategyId := h.strategyId, strategyVersion := h.strategyVersion
    healthState := h.healthState.value, observedAtUtc := dtToStr h.observedAtUtc, producer := h.producer
    observedTriggerRate := Sql.bindReal h.observedTriggerRate
    regimeConditionedExpectedTriggerRate := Sql.bindReal h.regimeConditionedExpectedTriggerRate
    expectancyR := Sql.bindReal h.expectancyR, winRate := Sql.bindReal h.winRate,
    drawdown := Sql.bindReal h.drawdown
    mae := Sql.bindReal h.mae, mfe := Sql.bindReal h.mfe, holdingTime := Sql.bindReal h.holdingTime
    executionSlippageQuality := Sql.bindReal h.executionSlippageQuality
    regimeDistributionJson := h.regimeDistribution.map fun d => dumpsText env (floatDict d)
    strategyChainStrengthDistributionJson :=
      h.strategyChainStrengthDistribution.map fun d => dumpsText env (floatDict d)
    baselineComparisonJson := h.baselineComparison.map fun d => dumpsText env (.obj d)
    confidence := Sql.bindReal h.confidence, reason := h.reason
    evidenceIdsJson := dumpsText env (strList h.evidenceIds)
    idempotencyKey := idempotencyKey, contentFingerprint := some (h.fp env) }

def rowToHealth (env : Env) (row : HealthRow) : Except Exc StrategyHealthRecord := do
  StrategyHealthRecord.construct
    { healthId := row.healthId, strategyId := row.strategyId, strategyVersion := row.strategyVersion
      healthState := ← parseHealthState row.healthState, observedAtUtc := ← strToDt row.observedAtUtc
      producer := row.producer, observedTriggerRate := row.observedTriggerRate
      regimeConditionedExpectedTriggerRate := row.regimeConditionedExpectedTriggerRate
      expectancyR := row.expectancyR, winRate := row.winRate, drawdown := row.drawdown, mae := row.mae
      mfe := row.mfe, holdingTime := row.holdingTime, executionSlippageQuality := row.executionSlippageQuality
      regimeDistribution := ← loadsOpt env (readDict asFloat "regime_distribution") row.regimeDistributionJson
      strategyChainStrengthDistribution := ← loadsOpt env
        (readDict asFloat "strategy_chain_strength_distribution") row.strategyChainStrengthDistributionJson
      baselineComparison := ← loadsOpt env (readDict some "baseline_comparison") row.baselineComparisonJson
      confidence := row.confidence, reason := row.reason
      evidenceIds := ← (loadsText env row.evidenceIdsJson >>= readList asStr "evidence_ids") }

/-- The items of a mapping of any values, sorted at every level. -/
def sortFields (kvs : List (String × Json)) : List (String × Json) := (sortKeysFields kvs).insertionSort keyLe

/-- The record as it is read back: mappings in key order, and no NaN in a REAL column. -/
def StrategyHealthRecord.stored (h : StrategyHealthRecord) : StrategyHealthRecord :=
  { h with
    observedTriggerRate := Sql.bindReal h.observedTriggerRate
    regimeConditionedExpectedTriggerRate := Sql.bindReal h.regimeConditionedExpectedTriggerRate
    expectancyR := Sql.bindReal h.expectancyR, winRate := Sql.bindReal h.winRate,
    drawdown := Sql.bindReal h.drawdown
    mae := Sql.bindReal h.mae, mfe := Sql.bindReal h.mfe, holdingTime := Sql.bindReal h.holdingTime
    executionSlippageQuality := Sql.bindReal h.executionSlippageQuality
    regimeDistribution := h.regimeDistribution.map sortItems
    strategyChainStrengthDistribution := h.strategyChainStrengthDistribution.map sortItems
    baselineComparison := h.baselineComparison.map sortFields
    confidence := Sql.bindReal h.confidence }

theorem loadsOpt_floatDict (env : Env) (field : String) {d : Option (List (String × PyFloat))} (h : nodupDict d) :
    loadsOpt env (readDict asFloat field) (d.map fun d => dumpsText env (floatDict d)) =
      .ok (d.map sortItems) := by
  cases d with
  | none => rfl
  | some d =>
    have hr : (loadsText env (dumpsText env (floatDict d)) >>= readDict asFloat field) = .ok (sortItems d) :=
      @read_scalars env PyFloat asFloat Json.float (fun _ => rfl) (fun _ => rfl) (fun _ => rfl) field d (h d rfl)
    show (loadsText env (dumpsText env (floatDict d)) >>= readDict asFloat field).map some = _
    rw [hr]
    rfl

theorem loadsOpt_dict (env : Env) (field : String) {d : Option (List (String × Json))}
    (h : ∀ kvs ∈ d, nodupKeys (.obj kvs) = true) :
    loadsOpt env (readDict some field) (d.map fun d => dumpsText env (.obj d)) = .ok (d.map sortFields) := by
  cases d with
  | none => rfl
  | some d =>
    have hr : (loadsText env (dumpsText env (.obj d)) >>= readDict some field) = .ok (sortFields d) := by
      rw [loadsText_dumpsText env (h d rfl)]
      have hm := mapM_map_of_left_inv (f := readItem some) (g := id) (fun _ => rfl) (sortFields d)
      rw [List.map_id] at hm
      show orTypeError field ((sortFields d).mapM (readItem some)) = .ok (sortFields d)
      rw [hm]
      rfl
    show (loadsText env (dumpsText env (.obj d)) >>= readDict some field).map some = _
    rw [hr]
    rfl

theorem rowToHealth_toRow (env : Env) {h : StrategyHealthRecord} (hv : h.Valid) (key : Option String) :
    rowToHealth env (h.toRow env key) = .ok h.stored := by
  obtain ⟨hc, hr, hs, hb⟩ := hv
  unfold rowToHealth StrategyHealthRecord.toRow
  simp only [parseHealthState_value, strToDt_dtToStr, read_strList, loadsOpt_floatDict env _ hr,
    loadsOpt_floatDict env _ hs, loadsOpt_dict env _ hb]
  exact runChecks_then_eq_ok.2 ⟨(runChecks_then_eq_ok.1 hc).1, rfl⟩

end Cer
