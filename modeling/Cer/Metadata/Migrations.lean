import Cer.Lib.Ddl
import Cer.Lib.PyText
import Cer.Metadata.Schema

/-!
# Migrations

The four files of the schema directory, and `apply_migrations`, which executes them one
statement after the other: `executescript` commits each statement by itself, and the row
of `schema_migrations` that records a version is written after the last of them.
-/

namespace Cer

open Ddl

/-! ## The schema files -/

section columns

def required (name : String) : Column := ⟨name, .text, true⟩
def optional (name : String) : Column := ⟨name, .text, false⟩
def real (name : String) : Column := ⟨name, .real, false⟩

end columns

def plainIndex (name table : String) (columns : List String) : Statement :=
  .createIndex ⟨name, table, columns, false, none⟩

/-- The unique index on a producer's optional key. -/
def optionalKeyIndex (table : String) : Index :=
  ⟨"ux_" ++ table ++ "_producer_idempotency_key", table, ["producer", "idempotency_key"],
    true, some "idempotency_key"⟩

/-- `001_initial.sql`. -/
def initialStatements : List Statement :=
  [.createTable
    { name := "strategies"
      columns := [optional "strategy_id", required "name", required "thesis", required "created_at"]
      primaryKey := ["strategy_id"], foreignKeys := [] },
   .createTable
    { name := "strategy_versions"
      columns := [required "strategy_id", required "strategy_version", required "git_repo", required "git_commit",
        required "created_at", optional "notes"]
      primaryKey := ["strategy_id", "strategy_version"]
      foreignKeys := [⟨"strategy_id", "strategies", "strategy_id"⟩] },
   .createTable
    { name := "experiments"
      columns := [optional "experiment_id", required "objective", optional "strategy_id",
        optional "strategy_version",
        required "producer", required "created_at"]
      primaryKey := ["experiment_id"], foreignKeys := [] },
   .createTable
    { name := "runs"
      columns := [optional "run_id", required "experiment_id", required "status", required "started_at",
        optional "ended_at", required "producer", optional "producer_version", optional "git_repo",
        optional "git_commit", optional "dataset_id", optional "dataset_version", optional "dataset_ref",
        optional "config_hash", optional "config_ref", optional "environment", required "provenance_completeness",
        required "missing_provenance_json", optional "idempotency_key", optional "content_fingerprint"]
      primaryKey := ["run_id"], foreignKeys := [⟨"experiment_id", "experiments", "experiment_id"⟩] },
   .createIndex ⟨"ux_runs_idempotency_key", "runs", ["idempotency_key"], true, some "idempotency_key"⟩,
   plainIndex "ix_runs_experiment_id" "runs" ["experiment_id"],
   plainIndex "ix_runs_started_at" "runs" ["started_at"],
   .createTable
    { name := "evidence"
      columns := [optional "evidence_id", required "idempotency_key", required "evidence_type",
        ⟨"schema_version", .integer, true⟩, optional "strategy_id", optional "strategy_version",
        optional "experiment_id", optional "run_id", required "producer", optional "producer_version",
        required "created_at_utc", optional "observed_at_utc", optional "git_repo", optional "git_commit",
        optional "dataset_id", optional "dataset_version", optional "dataset_ref", optional "config_hash",
        optional "config_ref", optional "environment", required "instruments_json", required "timeframes_json",
        required "metrics_json", optional "verdict", optional "status", required "regime_tags_json",
        required "parent_evidence_ids_json", required "parent_run_ids_json", required "artifact_ids_json",
        required "notes_json", required "provenance_completeness", required "missing_provenance_json",
        required "content_fingerprint"]
      primaryKey := ["evidence_id"]
      foreignKeys := [⟨"run_id", "runs", "run_id"⟩, ⟨"experiment_id", "experiments", "experiment_id"⟩] },
   .createIndex ⟨"ux_evidence_idempotency_key", "evidence", ["idempotency_key"], true, none⟩,
   plainIndex "ix_evidence_strategy_id" "evidence" ["strategy_id"],
   plainIndex "ix_evidence_strategy_id_version" "evidence" ["strategy_id", "strategy_version"],
   plainIndex "ix_evidence_run_id" "evidence" ["run_id"],
   plainIndex "ix_evidence_experiment_id" "evidence" ["experiment_id"],
   plainIndex "ix_evidence_evidence_type" "evidence" ["evidence_type"],
   plainIndex "ix_evidence_created_at_utc" "evidence" ["created_at_utc"],
   .createTable
    { name := "artifacts"
      columns := [optional "artifact_id", required "sha256", ⟨"size_bytes", .integer, true⟩,
        required "content_type",
        required "filename", required "uri", required "registered_at", optional "run_id", optional "evidence_id",
        required "content_fingerprint"]
      primaryKey := ["artifact_id"]
      foreignKeys := [⟨"run_id", "runs", "run_id"⟩, ⟨"evidence_id", "evidence", "evidence_id"⟩] },
   plainIndex "ix_artifacts_run_id" "artifacts" ["run_id"],
   plainIndex "ix_artifacts_evidence_id" "artifacts" ["evidence_id"],
   plainIndex "ix_artifacts_registered_at" "artifacts" ["registered_at"],
   .createTable
    { name := "promotions"
      columns := [optional "transition_id", required "strategy_id", required "strategy_version",
        required "from_state",
        required "to_state", required "at_utc", required "authority", required "producer",
        required "evidence_ids_json", required "reason"]
      primaryKey := ["transition_id"], foreignKeys := [] },
   plainIndex "ix_promotions_strategy_id" "promotions" ["strategy_id"],
   plainIndex "ix_promotions_strategy_id_version" "promotions" ["strategy_id", "strategy_version"],
   plainIndex "ix_promotions_at_utc" "promotions" ["at_utc"],
   .createTable
    { name := "health_records"
      columns := [optional "health_id", required "strategy_id", required "strategy_version",
        required "health_state",
        required "observed_at_utc", required "producer", real "observed_trigger_rate",
        real "regime_conditioned_expected_trigger_rate", real "expectancy_r", real "win_rate", real "drawdown",
        real "mae", real "mfe", real "holding_time", real "execution_slippage_quality",
        optional "regime_distribution_json", optional "strategy_chain_strength_distribution_json",
        optional "baseline_comparison_json", real "confidence", required "reason", required "evidence_ids_json"]
      primaryKey := ["health_id"], foreignKeys := [] },
   plainIndex "ix_health_strategy_id" "health_records" ["strategy_id"],
   plainIndex "ix_health_strategy_id_version" "health_records" ["strategy_id", "strategy_version"],
   plainIndex "ix_health_observed_at_utc" "health_records" ["observed_at_utc"]]

/-- `002_producer_scoped_idempotency.sql`. -/
def producerScopedStatements : List Statement :=
  [.dropIndex "ux_evidence_idempotency_key",
   .dropIndex "ux_runs_idempotency_key",
   .createIndex
    ⟨"ux_evidence_producer_idempotency_key", "evidence", ["producer", "idempotency_key"], true, none⟩,
   .createIndex (optionalKeyIndex "runs")]

/-- `003_optional_idempotency_keys.sql`. -/
def optionalKeysStatements : List Statement :=
  [.addColumn "experiments" (optional "idempotency_key"),
   .addColumn "experiments" (optional "content_fingerprint"),
   .addColumn "promotions" (optional "idempotency_key"),
   .addColumn "promotions" (optional "content_fingerprint"),
   .addColumn "health_records" (optional "idempotency_key"),
   .addColumn "health_records" (optional "content_fingerprint"),
   .createIndex (optionalKeyIndex "experiments"),
   .createIndex (optionalKeyIndex "promotions"),
   .createIndex (optionalKeyIndex "health_records")]

/-- `004_artifact_idempotency_keys.sql`. -/
def artifactKeysStatements : List Statement :=
  [.addColumn "artifacts" (optional "producer"),
   .addColumn "artifacts" (optional "idempotency_key"),
   .addColumn "artifacts" (optional "idempotency_fingerprint"),
   .createIndex (optionalKeyIndex "artifacts")]

structure Migration where
  version : Nat
  filename : String
  statements : List Statement
  checksum : String
deriving DecidableEq

/-- The schema directory, in version order; `sums` gives each file's checksum. -/
def migrations (sums : Nat → String) : List Migration :=
  [⟨1, "001_initial.sql", initialStatements, sums 1⟩,
   ⟨2, "002_producer_scoped_idempotency.sql", producerScopedStatements, sums 2⟩,
   ⟨3, "003_optional_idempotency_keys.sql", optionalKeysStatements, sums 3⟩,
   ⟨4, "004_artifact_idempotency_keys.sql", artifactKeysStatements, sums 4⟩]

/-! ## `apply_migrations` -/

/-- A row of `schema_migrations`. -/
structure Recorded where
  version : Nat
  filename : String
  checksum : String
deriving DecidableEq

structure SchemaState where
  catalog : Catalog
  /-- The rows of `schema_migrations`, once that table is there. -/
  applied : Option (List Recorded)
deriving DecidableEq

def Migration.recorded (m : Migration) : Recorded := ⟨m.version, m.filename, m.checksum⟩

/-- The versions recorded. -/
def SchemaState.versions (σ : SchemaState) : List Nat := (σ.applied.getD []).map (·.version)

def refusalText : Refusal → String
  | .noSuchTable table => s!"no such table: {table}"
  | .noSuchColumn index => s!"no such column in index {index}"
  | .notUnique index => s!"UNIQUE constraint failed: index {index}"
  | .duplicateColumn column => s!"duplicate column name: {column}"

def Migration.failed (m : Migration) (text : String) : Exc :=
  ErrorClass.metadataStoreError.exc s!"failed applying migration {Py.repr m.filename}: {text}"

/-- What a migrator does, one statement at a time. -/
inductive Action
  /-- `CREATE TABLE IF NOT EXISTS schema_migrations`. -/
  | createTracking
  | ddl (m : Migration) (s : Statement)
  /-- `INSERT OR IGNORE INTO schema_migrations`. -/
  | record (m : Migration)
  /-- The recorded checksum is not the file's. -/
  | mismatch (m : Migration) (recorded : String)
deriving DecidableEq

def SchemaState.exec (σ : SchemaState) : Action → Except Exc SchemaState
  | .createTracking => .ok { σ with applied := some (σ.applied.getD []) }
  | .ddl m s => match σ.catalog.exec s with
    | .ok c => .ok { σ with catalog := c }
    | .error r => .error (m.failed (refusalText r))
  | .record m => match σ.applied with
    | none => .error (m.failed "no such table: schema_migrations")
    | some rs => if rs.any (·.version == m.version) then .ok σ
        else .ok { σ with applied := some (rs ++ [m.recorded]) }
  | .mismatch m recorded => .error (ErrorClass.metadataStoreError.exc
      (s!"migration {Py.repr m.filename} (version {m.version}) has been modified since it was applied to this " ++
        s!"database: recorded checksum {recorded} does not match the current file's checksum {m.checksum}. " ++
        "Migrations are forward-only and must never be edited after being applied -- add a new numbered " ++
        "migration file instead."))

def SchemaState.run (σ : SchemaState) (l : List Action) : Except Exc SchemaState := l.foldlM SchemaState.exec σ

def Migration.actions (m : Migration) : List Action := m.statements.map (.ddl m) ++ [.record m]

/-- What the loop does with one file, after its one look at `schema_migrations`. -/
def Migration.pending (snapshot : List Recorded) (m : Migration) : List Action :=
  match snapshot.find? (·.version == m.version) with
  | some r => if r.checksum ≠ m.checksum then [.mismatch m r.checksum] else []
  | none => m.actions

def program (snapshot : List Recorded) (ms : List Migration) : List Action := ms.flatMap (·.pending snapshot)

/-- The statements of a call, in order. -/
def SchemaState.steps (ms : List Migration) (σ : SchemaState) : List Action :=
  .createTracking :: program (σ.applied.getD []) ms

/-- `apply_migrations`: the highest version of the directory, and the state left. -/
def applyMigrations (ms : List Migration) (σ : SchemaState) : Except Exc (Option Nat × SchemaState) :=
  (σ.run (σ.steps ms)).map fun σ' => (ms.getLast?.map (·.version), σ')

/-! ## What the files build -/

/-- The schema after the first `p` versions. -/
def schemaAfter (p : Nat) : Catalog :=
  match (⟨[], []⟩ : Catalog).run (((migrations fun _ => "").take p).flatMap (·.statements)) with
  | .ok c => c
  | .error _ => ⟨[], []⟩

/-- The four files run through on an empty database. -/
theorem run_all_statements : (⟨[], []⟩ : Catalog).run ((migrations fun _ => "").flatMap (·.statements)) =
    .ok (schemaAfter 4) := by
  decide +kernel

/-- What a table of the catalog enforces. -/
def constraints (cat : Catalog) (ts : TableState) : Sql.Schema String where
  name := ts.schema.name
  notNull := (ts.schema.columns.filter (·.notNull)).map (·.name)
  primaryKey := ts.schema.primaryKey
  uniques := (cat.indexes.filter fun ix => ix.unique && ix.table == ts.schema.name).map (·.toUnique)
  foreignKeys := ts.schema.foreignKeys

/-- **The schema the store works on is the one the migrations build**: table by table, the constraints are those of
`schemaOf`. -/
theorem migrated_constraints (t : TableName) : ∃ ts ∈ (schemaAfter 4).tables,
    ts.schema.name = (schemaOf t).name ∧
      (constraints (schemaAfter 4) ts).notNull = (schemaOf t).notNull ∧
      (constraints (schemaAfter 4) ts).primaryKey = (schemaOf t).primaryKey ∧
      (constraints (schemaAfter 4) ts).uniques = (schemaOf t).uniques ∧
      (constraints (schemaAfter 4) ts).foreignKeys =
        (schemaOf t).foreignKeys.map fun fk => ⟨fk.column, (schemaOf fk.parent).name, fk.parentColumn⟩ := by
  cases t <;> decide +kernel

end Cer
