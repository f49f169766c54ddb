import Cer.Metadata.Codec

/-!
# `SQLiteMetadataStore`: the ten writes

Each write is the body of one `_transaction`: a function of the database it reads that
returns what the method returns and the database to commit, or the exception that
makes the transaction roll back.

The eight writes that insert share one shape, `Submission.run`: the lookup by
`(producer, idempotency_key)` when a key is given, then the lookup by primary
identity, then the INSERT.  What differs is in the fields of `Submission`.
-/

namespace Cer

open Py

/-! ## Errors and guards -/

def notFound (message : String) : Exc := ErrorClass.notFound.exc message
def immutability (message : String) : Exc := ErrorClass.immutabilityError.exc message
def idempotencyConflict (message : String) : Exc := ErrorClass.idempotencyConflict.exc message
def contractViolation (message : String) : Exc := ErrorClass.contractViolation.exc message

/-- A guard: the row it asks for exists. -/
def require (present : Bool) (e : Exc) : Except Exc Unit := if present then .ok () else .error e

def requireStrategy (db : Database) (strategyId : String) : Except Exc Unit :=
  require (db.strategies.any (·.strategyId == strategyId))
    (notFound s!"strategy_id {Py.repr strategyId} does not exist")

def requireExperiment (db : Database) (experimentId : String) : Except Exc Unit :=
  require (db.experiments.any (·.experimentId == experimentId))
    (notFound s!"experiment_id {Py.repr experimentId} does not exist")

def requireRun (db : Database) (runId : String) : Except Exc Unit :=
  require (db.runs.any (·.runId == runId)) (notFound s!"run_id {Py.repr runId} does not exist")

def requireEvidence (db : Database) (evidenceId : String) : Except Exc Unit :=
  require (db.evidence.any (·.evidenceId == evidenceId))
    (notFound s!"evidence_id {Py.repr evidenceId} does not exist")

/-- `if v is not None: guard(v)`. -/
def ifPresent (guard : String → Except Exc Unit) : Option String → Except Exc Unit
  | none => .ok ()
  | some v => guard v

/-! ## The shape of an inserting write -/

structure Submission (Row Rec : Type) where
  table : Table Row
  /-- The row's `(producer, idempotency_key)`, when it has a key. -/
  keyOf : Row → Option (String × String)
  /-- The submission's producer and key, when it gives a key. -/
  key : Option (String × String)
  /-- The fingerprint column the key path compares. -/
  fpOf : Row → Option String
  fp : String
  conflict : String
  /-- What the key path returns of the row it finds. -/
  replay : Row → Except Exc Rec
  /-- `WHERE <primary identity> = ?`. -/
  sameId : Row → Bool
  /-- What the identity path makes of the row it finds. -/
  existing : Row → Except Exc Rec
  row : Row
  record : Rec

variable {Row Rec : Type}

/-- The row the submission's key is bound to. -/
def Submission.byKey (s : Submission Row Rec) (db : Database) : Option Row :=
  s.key.bind fun k => (s.table.rows db).find? fun r => s.keyOf r == some k

def Submission.byId (s : Submission Row Rec) (db : Database) : Option Row := (s.table.rows db).find? s.sameId

def Submission.run (s : Submission Row Rec) (db : Database) : Except Exc (Rec × Database) :=
  match s.byKey db with
  | some r =>
    if s.fpOf r ≠ some s.fp then .error (idempotencyConflict s.conflict)
    else (s.replay r).map fun rec => (rec, db)
  | none => match s.byId db with
    | some r => (s.existing r).map fun rec => (rec, db)
    | none => (s.table.insert db s.row).map fun db' => (s.record, db')

/-- `(producer, key)` of a row whose key may be NULL. -/
def producerKey (producer : String) (idempotencyKey : Option String) : Option (String × String) :=
  idempotencyKey.map fun k => (producer, k)

def conflictMessage (key producer doing : String) : String :=
  s!"idempotency_key {Py.repr key} was already used by producer {Py.repr producer} {doing}"

/-- The message of a conflict under an optional key. -/
def conflictFor (key : Option String) (producer doing : String) : String :=
  conflictMessage (key.getD "") producer doing

/-! ## Strategies -/

def strategySubmission (env : Env) (strategy : Strategy) : Submission StrategyRow Strategy where
  table := strategiesTable
  keyOf _ := none
  key := none
  fpOf _ := none
  fp := fingerprint env strategy.dump strategyFpExclude
  conflict := ""
  replay := rowToStrategy
  sameId row := row.strategyId == strategy.strategyId
  existing row := do
    let existing ← rowToStrategy row
    if fingerprint env existing.dump strategyFpExclude ≠ fingerprint env strategy.dump strategyFpExclude then
      .error (immutability s!"strategy_id {Py.repr strategy.strategyId} already registered with different content")
    else .ok existing
  row := strategy.toRow
  record := strategy

def registerStrategy (env : Env) (db : Database) (strategy : Strategy) : Except Exc (Strategy × Database) :=
  (strategySubmission env strategy).run db

def strategyVersionSubmission (env : Env) (sv : StrategyVersion) :
    Submission StrategyVersionRow StrategyVersion where
  table := strategyVersionsTable
  keyOf _ := none
  key := none
  fpOf _ := none
  fp := fingerprint env sv.dump strategyVersionFpExclude
  conflict := ""
  replay := rowToStrategyVersion
  sameId row := row.strategyId == sv.strategyId && row.strategyVersion == sv.strategyVersion
  existing row := do
    let existing ← rowToStrategyVersion row
    if fingerprint env existing.dump strategyVersionFpExclude ≠
      fingerprint env sv.dump strategyVersionFpExclude then
      .error (immutability
        s!"strategy_version {Py.repr sv.strategyId}/{Py.repr sv.strategyVersion} already registered with different content")
    else .ok existing
  row := sv.toRow
  record := sv

def registerStrategyVersion (env : Env) (db : Database) (sv : StrategyVersion) :
    Except Exc (StrategyVersion × Database) := do
  requireStrategy db sv.strategyId
  (strategyVersionSubmission env sv).run db

/-! ## Experiments -/

def experimentSubmission (env : Env) (experiment : Experiment) (idempotencyKey : Option String) :
    Submission ExperimentRow Experiment where
  table := experimentsTable
  keyOf row := producerKey row.producer row.idempotencyKey
  key := producerKey experiment.producer idempotencyKey
  fpOf row := row.contentFingerprint
  fp := experiment.fp env
  conflict := conflictFor idempotencyKey experiment.producer "to create an experiment with different content"
  replay := rowToExperiment
  sameId row := row.experimentId == experiment.experimentId
  -- the same fingerprint as on the key path, so that the two never disagree about a replay
  existing row := do
    let existing ← rowToExperiment row
    if existing.fp env ≠ experiment.fp env then
      .error (immutability
        s!"experiment_id {Py.repr experiment.experimentId} already exists with different content")
    else .ok existing
  row := experiment.toRow env idempotencyKey
  record := experiment

def createExperiment (env : Env) (db : Database) (experiment : Experiment) (idempotencyKey : Option String) :
    Except Exc (Experiment × Database) :=
  (experimentSubmission env experiment idempotencyKey).run db

/-! ## Runs -/

def fetchRun (db : Database) (runId : String) : Except Exc Run :=
  match db.runs.find? (·.runId == runId) with
  | none => .error (notFound s!"run_id {Py.repr runId} does not exist")
  | some row => rowToRun row

def runSubmission (env : Env) (db : Database) (run : Run) (idempotencyKey : Option String) :
    Submission RunRow Run where
  table := runsTable
  keyOf row := producerKey row.producer row.idempotencyKey
  key := producerKey run.producer idempotencyKey
  fpOf row := row.contentFingerprint
  fp := run.fp env
  conflict := conflictFor idempotencyKey run.producer "to create a run with different content"
  replay row := fetchRun db row.runId
  sameId row := row.runId == run.runId
  -- a used run_id is refused whatever the content
  existing _ := .error (immutability s!"run_id {Py.repr run.runId} already exists")
  row := run.toRow env idempotencyKey
  record := run

def createRun (env : Env) (db : Database) (run : Run) (idempotencyKey : Option String) :
    Except Exc (Run × Database) := do
  requireExperiment db run.experimentId
  (runSubmission env db run idempotencyKey).run db

def closeRun (db : Database) (runId : String) (status : RunStatus) (endedAt : AwareTime) :
    Except Exc (Run × Database) := do
  let endedAt ← toUtc endedAt
  match db.runs.find? (·.runId == runId) with
  | none => .error (notFound s!"run_id {Py.repr runId} does not exist")
  | some row =>
    if row.status ≠ RunStatus.open_.value then
      .error (immutability
        s!"run_id {Py.repr runId} is already {Py.repr row.status}; a CLOSED/FAILED run cannot be re-closed")
    else
      let db' ← runsTable.update db (·.runId == runId)
        fun r => { r with status := status.value, endedAt := some (dtToStr endedAt) }
      let run ← fetchRun db' runId
      return (run, db')

/-! ## Evidence -/

def fetchEvidence (env : Env) (db : Database) (evidenceId : String) : Except Exc EvidenceRecord :=
  match db.evidence.find? (·.evidenceId == evidenceId) with
  | none => .error (notFound s!"evidence_id {Py.repr evidenceId} does not exist")
  | some row => rowToEvidence env row

def getEvidence (env : Env) (db : Database) (evidenceId : String) : Except Exc EvidenceRecord :=
  fetchEvidence env db evidenceId

def evidenceSubmission (env : Env) (db : Database) (evidence : EvidenceRecord) :
    Submission EvidenceRow EvidenceRecord where
  table := evidenceTable
  keyOf row := some (row.producer, row.idempotencyKey)
  key := some (evidence.producer, evidence.idempotencyKey)
  fpOf row := some row.contentFingerprint
  fp := evidence.fp env
  conflict := conflictMessage evidence.idempotencyKey evidence.producer "to append evidence with different content"
  replay row := fetchEvidence env db row.evidenceId
  sameId row := row.evidenceId == evidence.evidenceId
  existing row :=
    if row.contentFingerprint ≠ evidence.fp env then
      .error (immutability s!"evidence_id {Py.repr evidence.evidenceId} already exists with different content")
    else fetchEvidence env db evidence.evidenceId
  row := evidence.toRow env
  record := evidence

def appendEvidence (env : Env) (db : Database) (evidence : EvidenceRecord) :
    Except Exc (EvidenceRecord × Database) := do
  ifPresent (requireRun db) evidence.runId
  ifPresent (requireExperiment db) evidence.experimentId
  (evidenceSubmission env db evidence).run db

/-! ## Artifacts -/

/-- The store's own `_require_producer_for_key`. -/
def requireProducerForKey (producer : Option String) (idempotencyKey : String) : Except Exc String :=
  let refused : Exc := contractViolation
    (s!"idempotency_key {Py.repr idempotencyKey} requires a non-empty producer to scope it " ++
      "(idempotency keys are scoped per-producer, not global)")
  match producer with
  | none => .error refused
  | some p => if strip p == "" then .error refused else .ok p

/-- A row's producer and key, when it has both. -/
def ArtifactRow.key (row : ArtifactRow) : Option (String × String) :=
  row.producer.bind fun p => row.idempotencyKey.map fun k => (p, k)

def artifactSubmission (env : Env) (artifact : ArtifactRecord) (idempotencyKey producer : Option String) :
    Submission ArtifactRow ArtifactRecord where
  table := artifactsTable
  keyOf := ArtifactRow.key
  key := producer.bind fun p => idempotencyKey.map fun k => (p, k)
  fpOf row := row.idempotencyFingerprint
  fp := artifact.idemFp env
  conflict := conflictFor idempotencyKey (producer.getD "") "to register a materially different artifact"
  replay := rowToArtifact
  sameId row := row.artifactId == artifact.artifactId
  existing row :=
    if row.contentFingerprint ≠ artifact.fp env then
      .error (immutability s!"artifact_id {Py.repr artifact.artifactId} already registered with different content")
    else rowToArtifact row
  row := artifact.toRow env idempotencyKey producer
  record := artifact

/-- The producer is asked for only where there is a key to scope. -/
def requireScope (idempotencyKey producer : Option String) : Except Exc Unit :=
  match idempotencyKey with
  | none => .ok ()
  | some k => (requireProducerForKey producer k).map fun _ => ()

def registerArtifact (env : Env) (db : Database) (artifact : ArtifactRecord)
    (idempotencyKey producer : Option String) : Except Exc (ArtifactRecord × Database) := do
  ifPresent (requireRun db) artifact.runId
  ifPresent (requireEvidence db) artifact.evidenceId
  requireScope idempotencyKey producer
  (artifactSubmission env artifact idempotencyKey producer).run db

/-- `find_artifact_by_idempotency_key`. -/
def findArtifactByIdempotencyKey (db : Database) (producer : Option String) (idempotencyKey : String) :
    Except Exc (Option ArtifactRecord) := do
  let p ← requireProducerForKey producer idempotencyKey
  match db.artifacts.find? fun row => row.key == some (p, idempotencyKey) with
  | none => return none
  | some row => return some (← rowToArtifact row)

/-- The value a link takes: a set link is never changed to another value. -/
def attachLink (artifactId field : String) (current requested : Option String) : Except Exc (Option String) :=
  match requested with
  | none => .ok current
  | some new => match current with
    | none => .ok (some new)
    | some old =>
      if old ≠ new then
        .error (immutability
          s!"artifact_id {Py.repr artifactId} is already attached to {field} {Py.repr old}; cannot relink to {Py.repr new}")
      else .ok (some new)

def attachArtifact (db : Database) (artifactId : String) (evidenceId runId : Option String) :
    Except Exc (ArtifactRecord × Database) := do
  match db.artifacts.find? (·.artifactId == artifactId) with
  | none => .error (notFound s!"artifact_id {Py.repr artifactId} does not exist")
  | some row =>
    ifPresent (requireEvidence db) evidenceId
    ifPresent (requireRun db) runId
    let newEvidenceId ← attachLink artifactId "evidence_id" row.evidenceId evidenceId
    let newRunId ← attachLink artifactId "run_id" row.runId runId
    if newEvidenceId ≠ row.evidenceId ∨ newRunId ≠ row.runId then
      let db' ← artifactsTable.update db (·.artifactId == artifactId)
        fun r => { r with evidenceId := newEvidenceId, runId := newRunId }
      match db'.artifacts.find? (·.artifactId == artifactId) with
      | none => .error (.valueError "'NoneType' object is not subscriptable")
      | some row' =>
        let artifact ← rowToArtifact row'
        return (artifact, db')
    else
      let artifact ← rowToArtifact row
      return (artifact, db)

/-! ## Promotions -/

def promotionSubmission (env : Env) (transition : PromotionTransition) (idempotencyKey : Option String) :
    Submission PromotionRow PromotionTransition where
  table := promotionsTable
  keyOf row := producerKey row.producer row.idempotencyKey
  key := producerKey transition.producer idempotencyKey
  fpOf row := row.contentFingerprint
  fp := transition.fp env
  conflict := conflictFor idempotencyKey transition.producer
    "to record a promotion transition with different content"
  replay := rowToPromotion env
  sameId row := row.transitionId == transition.transitionId
  -- the whole dumps are compared here, the creation time included; they hold no float
  existing row := do
    let existing ← rowToPromotion env row
    if !pyEq true (.obj existing.dump) (.obj transition.dump) then
      .error (immutability
        s!"transition_id {Py.repr transition.transitionId} already recorded with different content")
    else .ok existing
  row := transition.toRow env idempotencyKey
  record := transition

def recordPromotion (env : Env) (db : Database) (transition : PromotionTransition)
    (idempotencyKey : Option String) :
    Except Exc (PromotionTransition × Database) :=
  (promotionSubmission env transition idempotencyKey).run db

/-! ## Health records -/

/-- `sharedNaN`: the NaNs in the record's mappings are the object that `json.loads` has for every NaN, as those of
a stored record are. -/
def healthSubmission (env : Env) (record : StrategyHealthRecord) (idempotencyKey : Option String)
    (sharedNaN : Bool) :
    Submission HealthRow StrategyHealthRecord where
  table := healthRecordsTable
  keyOf row := producerKey row.producer row.idempotencyKey
  key := producerKey record.producer idempotencyKey
  fpOf row := row.contentFingerprint
  fp := record.fp env
  conflict := conflictFor idempotencyKey record.producer "to record a health record with different content"
  replay := rowToHealth env
  sameId row := row.healthId == record.healthId
  existing row := do
    let existing ← rowToHealth env row
    if !pyEq sharedNaN (.obj existing.dump) (.obj record.dump) then
      .error (immutability s!"health_id {Py.repr record.healthId} already recorded with different content")
    else .ok existing
  row := record.toRow env idempotencyKey
  record := record

def recordHealth (env : Env) (db : Database) (record : StrategyHealthRecord) (idempotencyKey : Option String)
    (sharedNaN : Bool) : Except Exc (StrategyHealthRecord × Database) :=
  (healthSubmission env record idempotencyKey sharedNaN).run db

/-! ## Any write -/

/-- A record of any of the eight types, as a write returns it. -/
inductive Reply
  | strategy (s : Strategy)
  | strategyVersion (v : StrategyVersion)
  | experiment (e : Experiment)
  | run (r : Run)
  | evidence (e : EvidenceRecord)
  | artifact (a : ArtifactRecord)
  | promotion (t : PromotionTransition)
  | health (h : StrategyHealthRecord)
deriving DecidableEq

/-- A call of one of the ten writes. -/
inductive Write
  | registerStrategy (strategy : Strategy)
  | registerStrategyVersion (sv : StrategyVersion)
  | createExperiment (experiment : Experiment) (idempotencyKey : Option String)
  | createRun (run : Run) (idempotencyKey : Option String)
  | closeRun (runId : String) (status : RunStatus) (endedAt : AwareTime)
  | appendEvidence (evidence : EvidenceRecord)
  | registerArtifact (artifact : ArtifactRecord) (idempotencyKey producer : Option String)
  | attachArtifact (artifactId : String) (evidenceId runId : Option String)
  | recordPromotion (transition : PromotionTransition) (idempotencyKey : Option String)
  | recordHealth (record : StrategyHealthRecord) (idempotencyKey : Option String) (sharedNaN : Bool)
deriving DecidableEq

/-- The records a write is given are contract-valid. -/
def Write.Valid : Write → Prop
  | .registerStrategy s => s.Valid
  | .registerStrategyVersion v => v.Valid
  | .createExperiment e _ => e.Valid
  | .createRun r _ => r.Valid
  | .closeRun _ _ _ => True
  | .appendEvidence e => e.Valid
  | .registerArtifact a _ _ => a.Valid
  | .attachArtifact _ _ _ => True
  | .recordPromotion t _ => t.Valid
  | .recordHealth h _ _ => h.Valid

def asReply {α : Type} (f : α → Reply) (r : Except Exc (α × Database)) : Except Exc (Reply × Database) :=
  r.map fun x => (f x.1, x.2)

def Write.run (env : Env) (db : Database) : Write → Except Exc (Reply × Database)
  | .registerStrategy s => asReply .strategy (Cer.registerStrategy env db s)
  | .registerStrategyVersion v => asReply .strategyVersion (Cer.registerStrategyVersion env db v)
  | .createExperiment e k => asReply .experiment (Cer.createExperiment env db e k)
  | .createRun r k => asReply .run (Cer.createRun env db r k)
  | .closeRun i s t => asReply .run (Cer.closeRun db i s t)
  | .appendEvidence e => asReply .evidence (Cer.appendEvidence env db e)
  | .registerArtifact a k p => asReply .artifact (Cer.registerArtifact env db a k p)
  | .attachArtifact i e r => asReply .artifact (Cer.attachArtifact db i e r)
  | .recordPromotion t k => asReply .promotion (Cer.recordPromotion env db t k)
  | .recordHealth h k n => asReply .health (Cer.recordHealth env db h k n)

/-! ## Submissions without a text -/

/-- What `model_dump` or `json.dumps` raises of the value, if anything. -/
def Env.textError (env : Env) (j : Json) : Option Exc :=
  if env.maxDepth < depth j then some (.valueError "Circular reference detected (depth exceeded)")
  else if intsWithin env.intMaxStrDigits j then none
  else some (.valueError ("Exceeds the limit (" ++ toString env.intMaxStrDigits ++
    " digits) for integer string conversion; use sys.set_int_max_str_digits() to increase the limit"))

/-- And of the submission.  The other records hold texts alone. -/
def Write.textError (env : Env) : Write → Option Exc
  | .appendEvidence e => env.textError (.obj e.dump)
  | .registerArtifact a _ _ => env.textError (.obj a.dump)
  | .recordHealth h _ _ => env.textError (.obj h.dump)
  | _ => none

/-- The guards of such a submission, which come before its fingerprint. -/
def Write.requireReferences (db : Database) : Write → Except Exc Unit
  | .appendEvidence e => do
    ifPresent (requireRun db) e.runId
    ifPresent (requireExperiment db) e.experimentId
  | .registerArtifact a _ _ => do
    ifPresent (requireRun db) a.runId
    ifPresent (requireEvidence db) a.evidenceId
  | _ => .ok ()

/-- The call of the method: `run`, where the submission has a canonical text. -/
def Write.call (env : Env) (db : Database) (w : Write) : Except Exc (Reply × Database) :=
  match w.textError env with
  | none => w.run env db
  | some e => do
    w.requireReferences db
    .error e

end Cer
