import Cer.Lib.Transaction
import Cer.Metadata.Backing
import Cer.Metadata.Queries

/-!
# The store's methods, one SQL call after the other

Each write is here the script of its statements, in the order the method makes them,
and `script_eval` says that where no call fails the script is `Write.run`.  A method
runs it on the thread's cached connection (`_transaction`), under an arbitrary choice of
the calls that raise; a read is one SELECT, `health` a connection of its own.

`failed_writes_are_atomic`: whatever raises, a write takes effect as a whole or not at
all, and leaves its connection idle.
-/

namespace Cer

open Py Txn

/-! ## The statements of the writes -/

abbrev SqlScript := Script Database Exc

/-- One SELECT, and what the code makes of its rows. -/
def ask {A : Type} (query : Database → Except Exc A) : SqlScript A := do
  let r ← select query
  ofExcept r

def askIfPresent (guard : String → Database → Except Exc Unit) : Option String → SqlScript Unit
  | none => pure ()
  | some v => ask (guard v)

/-- The lookup by key is made where a key is given. -/
def Submission.selectByKey {Row Rec : Type} (s : Submission Row Rec) : SqlScript (Option Row) :=
  match s.key with
  | none => pure none
  | some _ => select s.byKey

/-- The lookups and the INSERT; `replay` and `existing` are what is done with the row a lookup finds. -/
def Submission.script {Row Rec : Type} (s : Submission Row Rec) (replay existing : Row → SqlScript Rec) :
    SqlScript Rec := do
  match ← s.selectByKey with
  | some row => if s.fpOf row ≠ some s.fp then ofExcept (.error (idempotencyConflict s.conflict)) else replay row
  | none => do
    match ← select s.byId with
    | some row => existing row
    | none => do
      execute fun db => s.table.insert db s.row
      return s.record

/-- A lookup's row is all that is needed of it. -/
def Submission.plainScript {Row Rec : Type} (s : Submission Row Rec) : SqlScript Rec :=
  s.script (fun row => ofExcept (s.replay row)) fun row => ofExcept (s.existing row)

def closeRunScript (runId : String) (status : RunStatus) (endedAt : AwareTime) : SqlScript Run := do
  let endedAt ← ofExcept (toUtc endedAt)
  match ← select fun db => db.runs.find? (·.runId == runId) with
  | none => ofExcept (.error (notFound s!"run_id {Py.repr runId} does not exist"))
  | some row =>
    if row.status ≠ RunStatus.open_.value then
      ofExcept (.error (immutability
        s!"run_id {Py.repr runId} is already {Py.repr row.status}; a CLOSED/FAILED run cannot be re-closed"))
    else do
      execute fun db => runsTable.update db (·.runId == runId)
        fun r => { r with status := status.value, endedAt := some (dtToStr endedAt) }
      ask fun db => fetchRun db runId

def attachArtifactScript (artifactId : String) (evidenceId runId : Option String) : SqlScript ArtifactRecord := do
  match ← select fun db => db.artifacts.find? (·.artifactId == artifactId) with
  | none => ofExcept (.error (notFound s!"artifact_id {Py.repr artifactId} does not exist"))
  | some row => do
    askIfPresent (fun i db => requireEvidence db i) evidenceId
    askIfPresent (fun i db => requireRun db i) runId
    let newEvidenceId ← ofExcept (attachLink artifactId "evidence_id" row.evidenceId evidenceId)
    let newRunId ← ofExcept (attachLink artifactId "run_id" row.runId runId)
    if newEvidenceId ≠ row.evidenceId ∨ newRunId ≠ row.runId then do
      execute fun db => artifactsTable.update db (·.artifactId == artifactId)
        fun r => { r with evidenceId := newEvidenceId, runId := newRunId }
      match ← select fun db => db.artifacts.find? (·.artifactId == artifactId) with
      | none => ofExcept (.error (.valueError "'NoneType' object is not subscriptable"))
      | some row' => ofExcept (rowToArtifact row')
    else ofExcept (rowToArtifact row)

/-- The body of the write's `with self._transaction()` block.  What a run or an evidence submission replays, it
reads in a statement of its own. -/
def Write.script (env : Env) : Write → SqlScript Reply
  | .registerStrategy s => do return .strategy (← (strategySubmission env s).plainScript)
  | .registerStrategyVersion v => do
    ask fun db => requireStrategy db v.strategyId
    return .strategyVersion (← (strategyVersionSubmission env v).plainScript)
  | .createExperiment e k => do return .experiment (← (experimentSubmission env e k).plainScript)
  | .createRun r k => do
    ask fun db => requireExperiment db r.experimentId
    let s := runSubmission env .empty r k
    return .run (← s.script (fun row => ask fun db => fetchRun db row.runId) fun row => ofExcept (s.existing row))
  | .closeRun i s t => do return .run (← closeRunScript i s t)
  | .appendEvidence e => do
    askIfPresent (fun i db => requireRun db i) e.runId
    askIfPresent (fun i db => requireExperiment db i) e.experimentId
    let s := evidenceSubmission env .empty e
    return .evidence (← s.script (fun row => ask fun db => fetchEvidence env db row.evidenceId) fun row =>
      if row.contentFingerprint ≠ e.fp env then
        ofExcept (.error
          (immutability s!"evidence_id {Py.repr e.evidenceId} already exists with different content"))
      else ask fun db => fetchEvidence env db e.evidenceId)
  | .registerArtifact a k p => do
    askIfPresent (fun i db => requireRun db i) a.runId
    askIfPresent (fun i db => requireEvidence db i) a.evidenceId
    ofExcept (requireScope k p)
    return .artifact (← (artifactSubmission env a k p).plainScript)
  | .attachArtifact i e r => do return .artifact (← attachArtifactScript i e r)
  | .recordPromotion t k => do return .promotion (← (promotionSubmission env t k).plainScript)
  | .recordHealth h k n => do return .health (← (healthSubmission env h k n).plainScript)

/-! ### Without failing calls a script is its write -/

section eval
variable {A Row Rec : Type} {db : Database}

@[simp] theorem eval_ask (query : Database → Except Exc A) : (ask query).eval db =
    (query db).map fun a => (a, db) := rfl

@[simp] theorem eval_askIfPresent (guard : String → Database → Except Exc Unit) (v : Option String) :
    (askIfPresent guard v).eval db = (ifPresent (fun i => guard i db) v).map fun a => (a, db) := by
  cases v <;> rfl

theorem Submission.eval_selectByKey (s : Submission Row Rec) : s.selectByKey.eval db = .ok (s.byKey db, db) := by
  unfold Submission.selectByKey Submission.byKey
  cases s.key <;> rfl

/-- The submission's script is its `run`, given that what is done with a row found is. -/
theorem Submission.eval_script {s : Submission Row Rec} {replay existing : Row → SqlScript Rec}
    (hreplay : ∀ row, (replay row).eval db = (s.replay row).map fun a => (a, db))
    (hexisting : ∀ row, s.byId db = some row → (existing row).eval db = (s.existing row).map fun a => (a, db)) :
    (s.script replay existing).eval db = s.run db := by
  unfold Submission.script Submission.run
  rw [eval_bind, s.eval_selectByKey, ok_bind]
  cases s.byKey db with
  | some row =>
    dsimp only
    by_cases hfp : s.fpOf row ≠ some s.fp
    · rw [if_pos hfp, if_pos hfp]
      rfl
    · rw [if_neg hfp, if_neg hfp]
      exact hreplay row
  | none =>
    dsimp only
    rw [eval_bind, eval_select, ok_bind]
    cases hid : s.byId db with
    | some row => exact hexisting row hid
    | none =>
      dsimp only
      rw [eval_bind, eval_execute]
      cases s.table.insert db s.row <;> rfl

theorem Submission.eval_plainScript (s : Submission Row Rec) : s.plainScript.eval db = s.run db :=
  Submission.eval_script (fun _ => rfl) fun _ _ => rfl

theorem map_bind {α β γ : Type} (x : Except Exc α) (f : α → β) (k : β → Except Exc γ) :
    (x.map f >>= k) = x >>= fun a => k (f a) := by
  cases x <;> rfl

theorem eval_closeRunScript (i : String) (s : RunStatus) (t : AwareTime) :
    (closeRunScript i s t).eval db = closeRun db i s t := by
  unfold closeRunScript closeRun
  rw [eval_bind, eval_ofExcept, map_bind]
  refine bind_congr fun ended => ?_
  rw [eval_bind, eval_select, ok_bind]
  dsimp only
  cases db.runs.find? (·.runId == i) with
  | none => rfl
  | some row =>
    dsimp only
    by_cases hs : row.status ≠ RunStatus.open_.value
    · rw [if_pos hs, if_pos hs]
      rfl
    · rw [if_neg hs, if_neg hs, eval_bind, eval_execute, map_bind]
      refine bind_congr fun db' => ?_
      rw [eval_ask]
      cases fetchRun db' i <;> rfl

theorem eval_attachArtifactScript (i : String) (e r : Option String) :
    (attachArtifactScript i e r).eval db = attachArtifact db i e r := by
  unfold attachArtifactScript attachArtifact
  rw [eval_bind, eval_select, ok_bind]
  dsimp only
  cases db.artifacts.find? (·.artifactId == i) with
  | none => rfl
  | some row =>
    dsimp only
    simp only [eval_bind, eval_askIfPresent, eval_ofExcept, map_bind]
    refine bind_congr fun _ => bind_congr fun _ => bind_congr fun e' => bind_congr fun r' => ?_
    by_cases hch : e' ≠ row.evidenceId ∨ r' ≠ row.runId
    · rw [if_pos hch, if_pos hch, eval_bind, eval_execute, map_bind]
      refine bind_congr fun db' => ?_
      rw [eval_bind, eval_select, ok_bind]
      dsimp only
      cases db'.artifacts.find? (·.artifactId == i) with
      | none => rfl
      | some row' =>
        dsimp only
        rw [eval_ofExcept]
        cases rowToArtifact row' <;> rfl
    · rw [if_neg hch, if_neg hch, eval_ofExcept]
      cases rowToArtifact row <;> rfl

/-- Handing the record back as a reply. -/
theorem eval_return {f : A → Reply} {s : SqlScript A} {x : Except Exc (A × Database)} (h : s.eval db = x) :
    (do return f (← s) : SqlScript Reply).eval db = asReply f x := by
  rw [eval_bind, h]
  cases x <;> rfl

theorem asReply_bind {α : Type} (f : A → Reply) (x : Except Exc α) (k : α → Except Exc (A × Database)) :
    asReply f (x >>= k) = x >>= fun a => asReply f (k a) := by
  cases x <;> rfl

/-- **Where no call fails, the script of a write is the write.** -/
theorem Write.script_eval (env : Env) (db : Database) (w : Write) : (w.script env).eval db = w.run env db := by
  cases w with
  | registerStrategy s => exact eval_return (Submission.eval_plainScript _)
  | registerStrategyVersion v =>
    show (Script.eval (do
      ask fun db => requireStrategy db v.strategyId
      return .strategyVersion (← (strategyVersionSubmission env v).plainScript)) db) =
        asReply .strategyVersion
          (requireStrategy db v.strategyId >>= fun _ => (strategyVersionSubmission env v).run db)
    rw [eval_bind, eval_ask, map_bind, asReply_bind]
    exact bind_congr fun _ => eval_return (Submission.eval_plainScript _)
  | createExperiment e k => exact eval_return (Submission.eval_plainScript _)
  | createRun r k =>
    show (Script.eval (do
      ask fun db => requireExperiment db r.experimentId
      return .run (← (runSubmission env .empty r k).script
        (fun row => ask fun db => fetchRun db row.runId) fun row =>
        ofExcept ((runSubmission env .empty r k).existing row))) db) =
        asReply .run (requireExperiment db r.experimentId >>= fun _ => (runSubmission env db r k).run db)
    rw [eval_bind, eval_ask, map_bind, asReply_bind]
    exact bind_congr fun _ => eval_return (Submission.eval_script (s := runSubmission env db r k) (fun _ => rfl)
      fun _ _ => rfl)
  | closeRun i s t => exact eval_return (eval_closeRunScript i s t)
  | appendEvidence e =>
    show (Script.eval (do
      askIfPresent (fun i db => requireRun db i) e.runId
      askIfPresent (fun i db => requireExperiment db i) e.experimentId
      return .evidence (← (evidenceSubmission env .empty e).script
        (fun row => ask fun db => fetchEvidence env db row.evidenceId) fun row =>
          if row.contentFingerprint ≠ e.fp env then
            ofExcept (.error
              (immutability s!"evidence_id {Py.repr e.evidenceId} already exists with different content"))
          else ask fun db => fetchEvidence env db e.evidenceId)) db) =
      asReply .evidence (ifPresent (requireRun db) e.runId >>= fun _ =>
        ifPresent (requireExperiment db) e.experimentId >>= fun _ => (evidenceSubmission env db e).run db)
    rw [eval_bind, eval_askIfPresent, map_bind, asReply_bind]
    refine bind_congr fun _ => ?_
    rw [eval_bind, eval_askIfPresent, map_bind, asReply_bind]
    refine bind_congr fun _ =>
      eval_return (Submission.eval_script (s := evidenceSubmission env db e) (fun _ => rfl)
      fun row _ => ?_)
    show (if row.contentFingerprint ≠ e.fp env then _ else _ : SqlScript EvidenceRecord).eval db =
      (if row.contentFingerprint ≠ e.fp env then _ else fetchEvidence env db e.evidenceId : Except Exc _).map _
    by_cases hfp : row.contentFingerprint ≠ e.fp env
    · rw [if_pos hfp, if_pos hfp]
      rfl
    · rw [if_neg hfp, if_neg hfp]
      rfl
  | registerArtifact a k p =>
    show (Script.eval (do
      askIfPresent (fun i db => requireRun db i) a.runId
      askIfPresent (fun i db => requireEvidence db i) a.evidenceId
      ofExcept (requireScope k p)
      return .artifact (← (artifactSubmission env a k p).plainScript)) db) =
      asReply .artifact (ifPresent (requireRun db) a.runId >>= fun _ =>
        ifPresent (requireEvidence db) a.evidenceId >>= fun _ => requireScope k p >>= fun _ =>
          (artifactSubmission env a k p).run db)
    rw [eval_bind, eval_askIfPresent, map_bind, asReply_bind]
    refine bind_congr fun _ => ?_
    rw [eval_bind, eval_askIfPresent, map_bind, asReply_bind]
    refine bind_congr fun _ => ?_
    rw [eval_bind, eval_ofExcept, map_bind, asReply_bind]
    exact bind_congr fun _ => eval_return (Submission.eval_plainScript _)
  | attachArtifact i e r => exact eval_return (eval_attachArtifactScript i e r)
  | recordPromotion t k => exact eval_return (Submission.eval_plainScript _)
  | recordHealth h k n => exact eval_return (Submission.eval_plainScript _)

end eval

/-! ## The store -/

/-- The store as one of its threads sees it. -/
structure Store where
  dbPath : String
  /-- The database file is at its path. -/
  present : Bool
  session : Session Database

/-- `_require_durable_backing`. -/
def Store.requireDurableBacking (σ : Store) (detail : String) : Except Exc Unit :=
  if σ.present then .ok ()
  else
    let message := s!"metadata store database file {σ.dbPath} does not exist"
    .error (metadataStoreError (if detail == "" then message else s!"{message}: {detail}"))

/-- `_open_connection`: `sqlite3.connect` and three PRAGMAs; its errors and those of BEGIN are wrapped. -/
def Store.driver (σ : Store) : Driver Exc where
  openCalls := 4
  opening e := metadataStoreError s!"failed to open metadata store at {σ.dbPath}: {e.str}"
  beginning e := metadataStoreError s!"failed to begin transaction: {e.str}"
  nested := .operationalError "cannot start a transaction within a transaction"
  noTransaction := .operationalError "cannot rollback - no transaction is active"

/-- The methods that read. -/
inductive Query
  | getEvidence (evidenceId : String)
  | queryEvidence (q : EvidenceQuery) (limit offset : Int)
  | findArtifactByIdempotencyKey (producer : Option String) (idempotencyKey : String)
  | getArtifact (artifactId : String)
  | queryArtifacts (evidenceId runId : Option String) (limit offset : Int)
  | queryPromotions (strategyId strategyVersion : Option String) (limit offset : Int)
  | queryHealth (strategyId strategyVersion : Option String) (limit offset : Int)

inductive Method
  | write (w : Write)
  | read (q : Query)
  | health

inductive Answer
  | reply (rep : Reply)
  | found (artifact : Option ArtifactRecord)
  | listing (records : List Reply)
  | ready

def errorOf {A : Type} : Except Exc A → Option Exc
  | .ok _ => none
  | .error e => some e

/-- What a read raises before it asks for the connection. -/
def Query.refusal : Query → Option Exc
  | .queryEvidence q _ _ => errorOf (do let _ ← boundText q.since; boundText q.until)
  | .findArtifactByIdempotencyKey p k => errorOf (requireProducerForKey p k)
  | _ => none

/-- Its SELECT, and what is made of the rows. -/
def Query.answer (env : Env) (db : Database) : Query → Except Exc Answer
  | .getEvidence i => (Cer.getEvidence env db i).map fun e => .reply (.evidence e)
  | .queryEvidence q limit offset => (Cer.queryEvidence env db q limit offset).map fun es =>
      .listing (es.map .evidence)
  | .findArtifactByIdempotencyKey p k => (Cer.findArtifactByIdempotencyKey db p k).map .found
  | .getArtifact i => (Cer.getArtifact db i).map fun a => .reply (.artifact a)
  | .queryArtifacts e r limit offset => (Cer.queryArtifacts db e r limit offset).map fun xs =>
      .listing (xs.map .artifact)
  | .queryPromotions s v limit offset => (Cer.queryPromotions env db s v limit offset).map fun ts =>
      .listing (ts.map .promotion)
  | .queryHealth s v limit offset => (Cer.queryHealth env db s v limit offset).map fun hs =>
      .listing (hs.map .health)

section methods
variable (env : Env) (φ : Nat → Option (Fault Exc))

/-- A write method: what precedes the block, the file, and the transaction. -/
def Store.write (σ : Store) (w : Write) : Outcome Database Exc Reply :=
  match w.refusal with
  | some e => ⟨.error e, [], σ.session⟩
  | none => match σ.requireDurableBacking "refusing to acknowledge a write that could not survive a restart" with
    | .error e => ⟨.error e, [], σ.session⟩
    | .ok _ => transaction σ.driver φ σ.session (w.script env)

def Store.query (σ : Store) (q : Query) : Outcome Database Exc Answer :=
  match q.refusal with
  | some e => ⟨.error e, [], σ.session⟩
  | none => read σ.driver φ σ.session fun db => q.answer env db

/-- `health()`: a connection of its own, two SELECTs on `schema_migrations`, BEGIN IMMEDIATE and ROLLBACK.  A file
that was ever migrated records its version, so that only the calls can fail. -/
def Store.health (σ : Store) : Outcome Database Exc Unit :=
  let failed := fun (e : Exc) => metadataStoreError s!"metadata store health check failed: {e.str}"
  match σ.requireDurableBacking "" with
  | .error e => ⟨.error (failed e), [], σ.session⟩
  | .ok _ => match calls φ σ.session.clock σ.driver.openCalls with
    | (some e, n) => ⟨.error (σ.driver.opening e), [(.opening, e)], { σ.session with clock := n }⟩
    | (none, n) => match calls φ n 4 with
      | (some e, n) => ⟨.error (failed e), [(.probe, e)], { σ.session with clock := n }⟩
      | (none, n) => ⟨.ok (), [], { σ.session with clock := n }⟩

def Store.call (σ : Store) : Method → Outcome Database Exc Answer
  | .write w => let o := σ.write env φ w; ⟨o.result.map .reply, o.raised, o.session⟩
  | .read q => σ.query env φ q
  | .health => let o := σ.health φ; ⟨o.result.map fun _ => .ready, o.raised, o.session⟩

/-- The store after a call. -/
def Store.after (σ : Store) (m : Method) : Store := { σ with session := (σ.call env φ m).session }

def Method.Valid : Method → Prop
  | .write w => w.Valid
  | _ => True

/-- The states of a store: its thread calls methods and closes its connection, another connection commits a write,
the file disappears and comes back. -/
inductive Store.Reached : Store → Prop
  | start (dbPath : String) : Reached ⟨dbPath, true, ⟨.empty, none, 0⟩⟩
  | call {σ : Store} (reached : Reached σ) (m : Method) (valid : m.Valid) : Reached (σ.after env φ m)
  | close {σ : Store} (reached : Reached σ) : Reached { σ with session := { σ.session with conn := none } }
  | other {σ : Store} (reached : Reached σ) (w : Write) (valid : w.Valid) {rep : Reply} {db' : Database}
    (run : w.run env σ.session.committed = .ok (rep, db')) :
    Reached { σ with session := { σ.session with committed := db' } }
  | move {σ : Store} (reached : Reached σ) (present : Bool) : Reached { σ with present := present }

end methods

/-! ## Every write is atomic -/

/-- A write took effect as a whole or not at all, and the next one can begin. -/
structure Store.WriteAtomic (env : Env) (φ : Nat → Option (Fault Exc)) (σ : Store) (w : Write) : Prop where
  error : ∀ e, (σ.write env φ w).result = .error e → (σ.write env φ w).session.committed = σ.session.committed
  ok : ∀ rep, (σ.write env φ w).result = .ok rep →
    w.run env σ.session.committed = .ok (rep, (σ.write env φ w).session.committed)
  idle : (σ.write env φ w).session.Idle
  /-- It returns just where none of the points at which it may fail does. -/
  returns_iff : (∃ rep, (σ.write env φ w).result = .ok rep) ↔ w.refusal = none ∧ σ.present = true ∧
    Calm φ σ.session.clock (transactionCalls σ.driver σ.session (w.script env)) ∧
    ∃ x, w.run env σ.session.committed = .ok x

section atomic
variable {env : Env} {φ : Nat → Option (Fault Exc)} {σ : Store}

theorem Store.write_refused {w : Write} {e : Exc} (h : w.refusal = some e) :
    σ.write env φ w = ⟨.error e, [], σ.session⟩ := by
  unfold Store.write
  rw [h]

theorem Store.write_unbacked {w : Write} (h : w.refusal = none) (hp : σ.present = false) :
    ∃ e, σ.write env φ w = ⟨.error e, [], σ.session⟩ ∧ e.isA .metadataStoreError = true := by
  unfold Store.write Store.requireDurableBacking
  rw [h, hp]
  exact ⟨_, rfl, rfl⟩

theorem Store.write_backed {w : Write} (h : w.refusal = none) (hp : σ.present = true) :
    σ.write env φ w = transaction σ.driver φ σ.session (w.script env) := by
  unfold Store.write Store.requireDurableBacking
  rw [h, hp]
  rfl

theorem Store.write_atomic (hidle : σ.session.Idle) (w : Write) : σ.WriteAtomic env φ w := by
  have hstopped : ∀ {e : Exc}, σ.write env φ w = ⟨.error e, [], σ.session⟩ →
      ¬ (w.refusal = none ∧ σ.present = true) → σ.WriteAtomic env φ w := by
    intro e he hnot
    refine ⟨fun _ _ => by rw [he], fun rep h => ?_, by rw [he]; exact hidle, fun ⟨rep, h⟩ => ?_, fun h => ?_⟩
    · rw [he] at h
      cases h
    · rw [he] at h
      cases h
    · exact absurd ⟨h.1, h.2.1⟩ hnot
  cases href : w.refusal with
  | some e =>
    refine hstopped (Store.write_refused href) fun h => ?_
    rw [href] at h
    cases h.1
  | none =>
    cases hp : σ.present with
    | false =>
      obtain ⟨e, he, _⟩ := @Store.write_unbacked env φ _ _ href hp
      refine hstopped he fun h => ?_
      rw [hp] at h
      cases h.2
    | true =>
      have h := transaction_atomic (δ := σ.driver) (φ := φ) hidle (w.script env)
      rw [← Store.write_backed href hp] at h
      refine ⟨h.error, fun rep hrep => ?_, h.idle, h.returns_iff.trans ?_⟩
      · rw [← w.script_eval]
        exact h.ok rep hrep
      · rw [w.script_eval, href, hp]
        simp

theorem read_session (δ : Driver Exc) (s : Session Database) {A : Type} (query : Database → Except Exc A) :
    (read δ φ s query).session.committed = s.committed ∧ (s.Idle → (read δ φ s query).session.Idle) := by
  unfold Txn.read
  by_cases hc : Calm φ s.clock (opens δ s)
  · obtain ⟨c, hconnect, hnone⟩ := connect_calm hc
    rw [hconnect]
    dsimp only
    cases φ (s.clock + opens δ s) with
    | some x => exact ⟨rfl, fun hidle => by rw [hnone hidle]; exact idle_of_none _ _⟩
    | none => exact ⟨rfl, fun hidle => by rw [hnone hidle]; exact idle_of_none _ _⟩
  · obtain ⟨m, x, _, hconnect⟩ := connect_not_calm hc
    rw [hconnect]
    exact ⟨rfl, fun hidle => hidle⟩

theorem Store.health_session (σ : Store) : (σ.health φ).session.committed = σ.session.committed ∧
    (σ.health φ).session.conn = σ.session.conn := by
  unfold Store.health
  split
  · exact ⟨rfl, rfl⟩
  · split
    · exact ⟨rfl, rfl⟩
    · split
      · exact ⟨rfl, rfl⟩
      · exact ⟨rfl, rfl⟩

/-- A call leaves what is committed, or commits what its write does. -/
theorem Store.after_committed (hidle : σ.session.Idle) (m : Method) :
    (σ.after env φ m).session.committed = σ.session.committed ∨
      ∃ w rep, m = .write w ∧ w.run env σ.session.committed = .ok (rep, (σ.after env φ m).session.committed) := by
  cases m with
  | write w =>
    have h := @Store.write_atomic env φ σ hidle w
    cases hres : (σ.write env φ w).result with
    | error e => exact Or.inl (h.error e hres)
    | ok rep => exact Or.inr ⟨w, rep, rfl, h.ok rep hres⟩
  | read q =>
    show (σ.query env φ q).session.committed = _ ∨ _
    unfold Store.query
    cases q.refusal with
    | some e => exact Or.inl rfl
    | none => exact Or.inl (read_session _ _ _).1
  | health => exact Or.inl σ.health_session.1

theorem Store.after_idle (hidle : σ.session.Idle) (m : Method) : (σ.after env φ m).session.Idle := by
  cases m with
  | write w => exact (Store.write_atomic hidle w).idle
  | read q =>
    show (σ.query env φ q).session.Idle
    unfold Store.query
    cases q.refusal with
    | some e => exact hidle
    | none => exact (read_session _ _ _).2 hidle
  | health =>
    intro d h
    exact hidle d (σ.health_session.2 ▸ h)

/-- Between two calls the connection is idle, and what is committed is what writes have committed. -/
theorem Store.Reached.invariant (h : Store.Reached env φ σ) :
    σ.session.Idle ∧ Reachable env σ.session.committed := by
  induction h with
  | start dbPath =>
    refine ⟨fun d hd => ?_, .refl _⟩
    cases hd
  | call reached m valid ih =>
    refine ⟨Store.after_idle ih.1 m, ?_⟩
    rcases @Store.after_committed env φ _ ih.1 m with hc | ⟨w, rep, rfl, hrun⟩
    · rw [hc]
      exact ih.2
    · exact .commit ih.2 valid hrun
  | close reached ih =>
    refine ⟨fun d hd => ?_, ih.2⟩
    cases hd
  | other reached w valid run ih => exact ⟨ih.1, .commit ih.2 valid run⟩
  | move reached present ih => exact ih

end atomic

/-- **Failed writes are atomic and do not wedge the connection**: in every reached state, whichever calls raise, a
write that raises leaves what is committed, one that returns has committed its whole effect, and the connection is
outside any transaction. -/
theorem failed_writes_are_atomic (env : Env) (φ : Nat → Option (Fault Exc)) {σ : Store}
    (reached : Store.Reached env φ σ) (w : Write) : σ.WriteAtomic env φ w :=
  Store.write_atomic reached.invariant.1 w

/-- The thread's first BEGIN is refused. -/
def busyOnce (n : Nat) : Option (Fault Exc) :=
  if n = 4 then some ⟨.operationalError "database is locked", false⟩ else none

def newStore : Store := ⟨"cer.db", true, ⟨.empty, none, 0⟩⟩

/-- The refused write leaves the store as it was, and the next one is committed. -/
theorem refused_write_is_atomic :
    newStore.WriteAtomic .reference busyOnce (.registerStrategy sampleStrategy) ∧
      (newStore.write .reference busyOnce (.registerStrategy sampleStrategy)).result =
        .error (metadataStoreError "failed to begin transaction: database is locked") ∧
      ((newStore.after .reference busyOnce (.write (.registerStrategy sampleStrategy))).write .reference busyOnce
        (.registerStrategy sampleStrategy)).result = .ok (.strategy sampleStrategy) :=
  ⟨failed_writes_are_atomic .reference busyOnce (.start "cer.db") _, rfl, rfl⟩

end Cer
