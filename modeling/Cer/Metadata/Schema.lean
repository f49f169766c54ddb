import Cer.Contract.Errors
import Cer.Lib.Ledger
import Cer.Lib.Sql

/-!
# The tables

The eight tables of the metadata store as migrations 1 to 4 leave them: the columns of
each row, the constraints each table declares, and the two statements that change a
table, which refuse what a constraint forbids.
-/

namespace Cer

open Sql

/-! ## Rows -/

structure StrategyRow where
  strategyId : String
  name : String
  thesis : String
  createdAt : String
deriving DecidableEq

structure StrategyVersionRow where
  strategyId : String
  strategyVersion : String
  gitRepo : String
  gitCommit : String
  createdAt : String
  notes : Option String
deriving DecidableEq

structure ExperimentRow where
  experimentId : String
  objective : String
  strategyId : Option String
  strategyVersion : Option String
  producer : String
  createdAt : String
  idempotencyKey : Option String
  contentFingerprint : Option String
deriving DecidableEq

structure RunRow where
  runId : String
  experimentId : String
  status : String
  startedAt : String
  endedAt : Option String
  producer : String
  producerVersion : Option String
  gitRepo : Option String
  gitCommit : Option String
  datasetId : Option String
  datasetVersion : Option String
  datasetRef : Option String
  configHash : Option String
  configRef : Option String
  environment : Option String
  provenanceCompleteness : String
  missingProvenanceJson : String
  idempotencyKey : Option String
  contentFingerprint : Option String
deriving DecidableEq

structure EvidenceRow where
  evidenceId : String
  idempotencyKey : String
  evidenceType : String
  schemaVersion : Int
  strategyId : Option String
  strategyVersion : Option String
  experimentId : Option String
  runId : Option String
  producer : String
  producerVersion : Option String
  createdAtUtc : String
  observedAtUtc : Option String
  gitRepo : Option String
  gitCommit : Option String
  datasetId : Option String
  datasetVersion : Option String
  datasetRef : Option String
  configHash : Option String
  configRef : Option String
  environment : Option String
  instrumentsJson : String
  timeframesJson : String
  metricsJson : String
  verdict : Option String
  status : Option String
  regimeTagsJson : String
  parentEvidenceIdsJson : String
  parentRunIdsJson : String
  artifactIdsJson : String
  notesJson : String
  provenanceCompleteness : String
  missingProvenanceJson : String
  contentFingerprint : String
deriving DecidableEq

structure ArtifactRow where
  artifactId : String
  sha256 : String
  sizeBytes : Int
  contentType : String
  filename : String
  uri : String
  registeredAt : String
  runId : Option String
  evidenceId : Option String
  contentFingerprint : String
  producer : Option String
  idempotencyKey : Option String
  idempotencyFingerprint : Option String
deriving DecidableEq

structure PromotionRow where
  transitionId : String
  strategyId : String
  strategyVersion : String
  fromState : String
  toState : String
  atUtc : String
  authority : String
  producer : String
  evidenceIdsJson : String
  reason : String
  idempotencyKey : Option String
  contentFingerprint : Option String
deriving DecidableEq

structure HealthRow where
  healthId : String
  strategyId : String
  strategyVersion : String
  healthState : String
  observedAtUtc : String
  producer : String
  observedTriggerRate : Option Py.PyFloat
  regimeConditionedExpectedTriggerRate : Option Py.PyFloat
  expectancyR : Option Py.PyFloat
  winRate : Option Py.PyFloat
  drawdown : Option Py.PyFloat
  mae : Option Py.PyFloat
  mfe : Option Py.PyFloat
  holdingTime : Option Py.PyFloat
  executionSlippageQuality : Option Py.PyFloat
  regimeDistributionJson : Option String
  strategyChainStrengthDistributionJson : Option String
  baselineComparisonJson : Option String
  confidence : Option Py.PyFloat
  reason : String
  evidenceIdsJson : String
  idempotencyKey : Option String
  contentFingerprint : Option String
deriving DecidableEq

structure Database where
  strategies : List StrategyRow
  strategyVersions : List StrategyVersionRow
  experiments : List ExperimentRow
  runs : List RunRow
  evidence : List EvidenceRow
  artifacts : List ArtifactRow
  promotions : List PromotionRow
  healthRecords : List HealthRow
deriving DecidableEq

/-- A database the migrations were just applied to. -/
def Database.empty : Database := ⟨[], [], [], [], [], [], [], []⟩

/-! ## Columns -/

def StrategyRow.columns (r : StrategyRow) : Columns :=
  [("strategy_id", .text r.strategyId), ("name", .text r.name), ("thesis", .text r.thesis),
   ("created_at", .text r.createdAt)]

def StrategyVersionRow.columns (r : StrategyVersionRow) : Columns :=
  [("strategy_id", .text r.strategyId), ("strategy_version", .text r.strategyVersion),
    ("git_repo", .text r.gitRepo),
   ("git_commit", .text r.gitCommit), ("created_at", .text r.createdAt), ("notes", optText r.notes)]

def ExperimentRow.columns (r : ExperimentRow) : Columns :=
  [("experiment_id", .text r.experimentId), ("objective", .text r.objective),
    ("strategy_id", optText r.strategyId),
   ("strategy_version", optText r.strategyVersion), ("producer", .text r.producer),
   ("created_at", .text r.createdAt),
   ("idempotency_key", optText r.idempotencyKey), ("content_fingerprint", optText r.contentFingerprint)]

def RunRow.columns (r : RunRow) : Columns :=
  [("run_id", .text r.runId), ("experiment_id", .text r.experimentId), ("status", .text r.status),
   ("started_at", .text r.startedAt), ("ended_at", optText r.endedAt), ("producer", .text r.producer),
   ("producer_version", optText r.producerVersion), ("git_repo", optText r.gitRepo),
   ("git_commit", optText r.gitCommit), ("dataset_id", optText r.datasetId),
   ("dataset_version", optText r.datasetVersion), ("dataset_ref", optText r.datasetRef),
   ("config_hash", optText r.configHash), ("config_ref", optText r.configRef),
   ("environment", optText r.environment),
   ("provenance_completeness", .text r.provenanceCompleteness),
   ("missing_provenance_json", .text r.missingProvenanceJson), ("idempotency_key", optText r.idempotencyKey),
   ("content_fingerprint", optText r.contentFingerprint)]

def EvidenceRow.columns (r : EvidenceRow) : Columns :=
  [("evidence_id", .text r.evidenceId), ("idempotency_key", .text r.idempotencyKey),
   ("evidence_type", .text r.evidenceType), ("schema_version", .integer r.schemaVersion),
   ("strategy_id", optText r.strategyId), ("strategy_version", optText r.strategyVersion),
   ("experiment_id", optText r.experimentId), ("run_id", optText r.runId), ("producer", .text r.producer),
   ("producer_version", optText r.producerVersion), ("created_at_utc", .text r.createdAtUtc),
   ("observed_at_utc", optText r.observedAtUtc), ("git_repo", optText r.gitRepo),
   ("git_commit", optText r.gitCommit),
   ("dataset_id", optText r.datasetId), ("dataset_version", optText r.datasetVersion),
   ("dataset_ref", optText r.datasetRef), ("config_hash", optText r.configHash),
   ("config_ref", optText r.configRef),
   ("environment", optText r.environment), ("instruments_json", .text r.instrumentsJson),
   ("timeframes_json", .text r.timeframesJson), ("metrics_json", .text r.metricsJson),
   ("verdict", optText r.verdict),
   ("status", optText r.status), ("regime_tags_json", .text r.regimeTagsJson),
   ("parent_evidence_ids_json", .text r.parentEvidenceIdsJson), ("parent_run_ids_json", .text r.parentRunIdsJson),
   ("artifact_ids_json", .text r.artifactIdsJson), ("notes_json", .text r.notesJson),
   ("provenance_completeness", .text r.provenanceCompleteness),
   ("missing_provenance_json", .text r.missingProvenanceJson), ("content_fingerprint", .text r.contentFingerprint)]

def ArtifactRow.columns (r : ArtifactRow) : Columns :=
  [("artifact_id", .text r.artifactId), ("sha256", .text r.sha256), ("size_bytes", .integer r.sizeBytes),
   ("content_type", .text r.contentType), ("filename", .text r.filename), ("uri", .text r.uri),
   ("registered_at", .text r.registeredAt), ("run_id", optText r.runId), ("evidence_id", optText r.evidenceId),
   ("content_fingerprint", .text r.contentFingerprint), ("producer", optText r.producer),
   ("idempotency_key", optText r.idempotencyKey), ("idempotency_fingerprint", optText r.idempotencyFingerprint)]

def PromotionRow.columns (r : PromotionRow) : Columns :=
  [("transition_id", .text r.transitionId), ("strategy_id", .text r.strategyId),
   ("strategy_version", .text r.strategyVersion), ("from_state", .text r.fromState), ("to_state", .text r.toState),
   ("at_utc", .text r.atUtc), ("authority", .text r.authority), ("producer", .text r.producer),
   ("evidence_ids_json", .text r.evidenceIdsJson), ("reason", .text r.reason),
   ("idempotency_key", optText r.idempotencyKey), ("content_fingerprint", optText r.contentFingerprint)]

def HealthRow.columns (r : HealthRow) : Columns :=
  [("health_id", .text r.healthId), ("strategy_id", .text r.strategyId),
    ("strategy_version", .text r.strategyVersion),
   ("health_state", .text r.healthState), ("observed_at_utc", .text r.observedAtUtc),
   ("producer", .text r.producer),
   ("observed_trigger_rate", optReal r.observedTriggerRate),
   ("regime_conditioned_expected_trigger_rate", optReal r.regimeConditionedExpectedTriggerRate),
   ("expectancy_r", optReal r.expectancyR), ("win_rate", optReal r.winRate), ("drawdown", optReal r.drawdown),
   ("mae", optReal r.mae), ("mfe", optReal r.mfe), ("holding_time", optReal r.holdingTime),
   ("execution_slippage_quality", optReal r.executionSlippageQuality),
   ("regime_distribution_json", optText r.regimeDistributionJson),
   ("strategy_chain_strength_distribution_json", optText r.strategyChainStrengthDistributionJson),
   ("baseline_comparison_json", optText r.baselineComparisonJson), ("confidence", optReal r.confidence),
   ("reason", .text r.reason), ("evidence_ids_json", .text r.evidenceIdsJson),
   ("idempotency_key", optText r.idempotencyKey), ("content_fingerprint", optText r.contentFingerprint)]

/-! ## Constraints -/

inductive TableName
  | strategies | strategyVersions | experiments | runs | evidence | artifacts | promotions | healthRecords
deriving DecidableEq, Repr

/-- The rows of a table, as its columns. -/
def Database.table (db : Database) : TableName → List Columns
  | .strategies => db.strategies.map StrategyRow.columns
  | .strategyVersions => db.strategyVersions.map StrategyVersionRow.columns
  | .experiments => db.experiments.map ExperimentRow.columns
  | .runs => db.runs.map RunRow.columns
  | .evidence => db.evidence.map EvidenceRow.columns
  | .artifacts => db.artifacts.map ArtifactRow.columns
  | .promotions => db.promotions.map PromotionRow.columns
  | .healthRecords => db.healthRecords.map HealthRow.columns

/-- A `(producer, idempotency_key)` index, partial but on `evidence`. -/
def producerKeyIndex (table : String) : UniqueIndex :=
  ⟨s!"ux_{table}_producer_idempotency_key", ["producer", "idempotency_key"], some "idempotency_key"⟩

/-- The constraints of the schema, migrations 1 to 4 applied. -/
def schemaOf : TableName → Schema TableName
  | .strategies =>
    { name := "strategies", notNull := ["name", "thesis", "created_at"], primaryKey := ["strategy_id"]
      uniques := [], foreignKeys := [] }
  | .strategyVersions =>
    { name := "strategy_versions"
      notNull := ["strategy_id", "strategy_version", "git_repo", "git_commit", "created_at"]
      primaryKey := ["strategy_id", "strategy_version"], uniques := []
      foreignKeys := [⟨"strategy_id", .strategies, "strategy_id"⟩] }
  | .experiments =>
    { name := "experiments", notNull := ["objective", "producer", "created_at"], primaryKey := ["experiment_id"]
      uniques := [producerKeyIndex "experiments"], foreignKeys := [] }
  | .runs =>
    { name := "runs"
      notNull := ["experiment_id", "status", "started_at", "producer", "provenance_completeness",
        "missing_provenance_json"]
      primaryKey := ["run_id"], uniques := [producerKeyIndex "runs"]
      foreignKeys := [⟨"experiment_id", .experiments, "experiment_id"⟩] }
  | .evidence =>
    { name := "evidence"
      notNull := ["idempotency_key", "evidence_type", "schema_version", "producer", "created_at_utc",
        "instruments_json", "timeframes_json", "metrics_json", "regime_tags_json", "parent_evidence_ids_json",
        "parent_run_ids_json", "artifact_ids_json", "notes_json", "provenance_completeness",
        "missing_provenance_json", "content_fingerprint"]
      primaryKey := ["evidence_id"]
      uniques := [⟨"ux_evidence_producer_idempotency_key", ["producer", "idempotency_key"], none⟩]
      foreignKeys := [⟨"run_id", .runs, "run_id"⟩, ⟨"experiment_id", .experiments, "experiment_id"⟩] }
  | .artifacts =>
    { name := "artifacts"
      notNull := ["sha256", "size_bytes", "content_type", "filename", "uri", "registered_at",
        "content_fingerprint"]
      primaryKey := ["artifact_id"], uniques := [producerKeyIndex "artifacts"]
      foreignKeys := [⟨"run_id", .runs, "run_id"⟩, ⟨"evidence_id", .evidence, "evidence_id"⟩] }
  | .promotions =>
    { name := "promotions"
      notNull := ["strategy_id", "strategy_version", "from_state", "to_state", "at_utc", "authority", "producer",
        "evidence_ids_json", "reason"]
      primaryKey := ["transition_id"], uniques := [producerKeyIndex "promotions"], foreignKeys := [] }
  | .healthRecords =>
    { name := "health_records"
      notNull := ["strategy_id", "strategy_version", "health_state", "observed_at_utc", "producer", "reason",
        "evidence_ids_json"]
      primaryKey := ["health_id"], uniques := [producerKeyIndex "health_records"], foreignKeys := [] }

/-! ## Statements -/

/-- A table of the database: where its rows stand and how a row is written as columns. -/
structure Table (Row : Type) where
  name : TableName
  rows : Database → List Row
  setRows : Database → List Row → Database
  columns : Row → Columns

def strategiesTable : Table StrategyRow :=
  ⟨.strategies, (·.strategies), fun db rows => { db with strategies := rows }, StrategyRow.columns⟩

def strategyVersionsTable : Table StrategyVersionRow :=
  ⟨.strategyVersions, (·.strategyVersions), fun db rows => { db with strategyVersions := rows },
    StrategyVersionRow.columns⟩

def experimentsTable : Table ExperimentRow :=
  ⟨.experiments, (·.experiments), fun db rows => { db with experiments := rows }, ExperimentRow.columns⟩

def runsTable : Table RunRow := ⟨.runs, (·.runs), fun db rows => { db with runs := rows }, RunRow.columns⟩

def evidenceTable : Table EvidenceRow :=
  ⟨.evidence, (·.evidence), fun db rows => { db with evidence := rows }, EvidenceRow.columns⟩

def artifactsTable : Table ArtifactRow :=
  ⟨.artifacts, (·.artifacts), fun db rows => { db with artifacts := rows }, ArtifactRow.columns⟩

def promotionsTable : Table PromotionRow :=
  ⟨.promotions, (·.promotions), fun db rows => { db with promotions := rows }, PromotionRow.columns⟩

def healthRecordsTable : Table HealthRow :=
  ⟨.healthRecords, (·.healthRecords), fun db rows => { db with healthRecords := rows }, HealthRow.columns⟩

variable {Row : Type}

/-- `INSERT INTO t VALUES (...)`: an integer over 64 bits cannot be bound, a broken constraint is refused. -/
def Table.insert (t : Table Row) (db : Database) (row : Row) : Except Exc Database :=
  if !bindable (t.columns row) then .error (.overflowError "Python int too large to convert to SQLite INTEGER")
  else match (schemaOf t.name).violation ((t.rows db).map t.columns) db.table (t.columns row) with
    | some c => .error (.integrityError c)
    | none => .ok (t.setRows db (t.rows db ++ [row]))

/-- `UPDATE t SET ... WHERE p`: each row it changes is checked beside the rows it leaves alone. -/
def Table.update (t : Table Row) (db : Database) (p : Row → Bool) (f : Row → Row) : Except Exc Database :=
  let others := ((t.rows db).filter (!p ·)).map t.columns
  match ((t.rows db).filter p).findSome? fun r =>
    (schemaOf t.name).violation others db.table (t.columns (f r)) with
  | some c => .error (.integrityError c)
  | none => .ok (t.setRows db ((t.rows db).map fun r => if p r then f r else r))

theorem Table.insert_ok {t : Table Row} {db db' : Database} {row : Row} (h : t.insert db row = .ok db') :
    db' = t.setRows db (t.rows db ++ [row]) := by
  unfold Table.insert at h
  split at h
  · cases h
  · split at h
    · cases h
    · injection h with h
      exact h.symm

theorem Table.insert_error {t : Table Row} {db : Database} {row : Row} {e : Exc} (h : t.insert db row = .error e) :
    (∃ m, e = .overflowError m) ∨ ∃ c, e = .integrityError c := by
  unfold Table.insert at h
  split at h
  · cases h
    exact Or.inl ⟨_, rfl⟩
  · split at h
    · cases h
      exact Or.inr ⟨_, rfl⟩
    · cases h

theorem Table.update_ok {t : Table Row} {db db' : Database} {p : Row → Bool} {f : Row → Row}
    (h : t.update db p f = .ok db') : db' = t.setRows db ((t.rows db).map fun r => if p r then f r else r) := by
  unfold Table.update at h
  dsimp only at h
  split at h
  · cases h
  · injection h with h
    exact h.symm

end Cer
