import Cer.Lib.Connections
import Cer.Metadata.Session
import Cer.Metadata.GrowingPages

/-!
# The store under many threads

`storeProgram` is what a thread of the service does with the database in a call of one of
the store's methods, SQL call by SQL call; `Store.call_runs` says that a thread that is
left alone does what `Store.call` does.  `Method.Serves` is the store that answers each
call at one moment, which is how the rest of this development sees it.

`concurrent_calls_are_atomic`: to its callers the first is the second, whatever the order
of the SQL calls, whichever of them fail, and wherever the process stops.  The runs are
those in which no connection is opened while the file is away, so that only one file is
ever at the path; `backing_serves` says that then the threads of `Backing` are served by it.
-/

namespace Cer

open Txn Refinement

/-- The store of a process that has not yet opened a connection. -/
def Store.opened (dbPath : String) (present : Bool) : Store := ⟨dbPath, present, ⟨.empty, none, 0⟩⟩

/-- `health`'s own message around what a check of it raises. -/
def healthCheckFailed (e : Exc) : Exc := metadataStoreError s!"metadata store health check failed: {e.str}"

def storeProgram (env : Env) (dbPath : String) : Connections.Program Method Database Exc Answer where
  driver := (Store.opened dbPath true).driver
  refuse present
    | .write w => w.refusal.or (errorOf ((Store.opened dbPath present).requireDurableBacking
        "refusing to acknowledge a write that could not survive a restart"))
    | .read q => q.refusal
    | .health => (errorOf ((Store.opened dbPath present).requireDurableBacking "")).map healthCheckFailed
  job
    | .write w => .transaction (Answer.reply <$> w.script env)
    | .read q => .read (q.answer env)
    | .health => .probe 2 healthCheckFailed .ready
  fault e := e.isSqlite = true

/-- How a call of the store may be answered at one moment. -/
inductive Method.Serves (env : Env) : Method → Database → Except Exc Answer → Database → Prop
  | wrote {w : Write} {db db' : Database} {rep : Reply} (run : w.run env db = .ok (rep, db')) :
    Serves env (.write w) db (.ok (.reply rep)) db'
  | refused {w : Write} {db : Database} {e : Exc} (h : w.refusal = some e ∨ w.run env db = .error e) :
    Serves env (.write w) db (.error e) db
  | answered {q : Query} {db : Database} {r : Except Exc Answer} (h : q.answer env db = r) :
      Serves env (.read q) db r db
  | declined {q : Query} {db : Database} {e : Exc} (h : q.refusal = some e) : Serves env (.read q) db (.error e) db
  | healthy (db : Database) : Serves env .health db (.ok .ready) db
  /-- The database could not be used: the call did nothing, and says so. -/
  | unavailable {m : Method} {db : Database} {e : Exc} (h : e.isSqlite = true ∨ e.isA .metadataStoreError = true) :
    Serves env m db (.error e) db

section
variable {env : Env} {dbPath : String}

theorem errorOf_backing {σ : Store} {detail : String} {e : Exc}
    (h : errorOf (σ.requireDurableBacking detail) = some e) : e.isA .metadataStoreError = true := by
  unfold Store.requireDurableBacking at h
  cases hp : σ.present with
  | true =>
    rw [hp] at h
    cases h
  | false =>
    rw [hp] at h
    cases h
    rfl

/-- What the machine's threads are answered is what the store answers. -/
theorem Method.serves_of_program {m : Method} {db db' : Database} {r : Except Exc Answer}
    (h : (storeProgram env dbPath).Serves m db r db') : m.Serves env db r db' := by
  cases h with
  | refused present h =>
    cases m with
    | write w =>
      cases hw : w.refusal with
      | some e' =>
        have he : w.refusal.or _ = some _ := h
        rw [hw] at he
        cases he
        exact .refused (Or.inl hw)
      | none =>
        have he : w.refusal.or _ = some _ := h
        rw [hw] at he
        exact .unavailable (Or.inr (errorOf_backing he))
    | read q => exact .declined h
    | health =>
      obtain ⟨e', he', rfl⟩ := Option.map_eq_some_iff.1 h
      exact .unavailable (Or.inr rfl)
  | wrote job heval =>
    cases m with
    | write w =>
      cases job
      rw [eval_map, w.script_eval] at heval
      obtain ⟨⟨rep, d⟩, hrun, hx⟩ := map_eq_ok heval
      cases hx
      exact .wrote hrun
    | read q => cases job
    | health => cases job
  | raised job heval =>
    cases m with
    | write w =>
      cases job
      rw [eval_map, w.script_eval] at heval
      refine .refused (Or.inr ?_)
      cases hrun : w.run env db with
      | error x =>
        rw [hrun] at heval
        exact congrArg Except.error (Except.error.inj heval)
      | ok x =>
        rw [hrun] at heval
        cases heval
    | read q => cases job
    | health => cases job
  | read job =>
    cases m with
    | write w => cases job
    | read q =>
      cases job
      exact .answered rfl
    | health => cases job
  | probed job =>
    cases m with
    | write w => cases job
    | read q => cases job
    | health =>
      cases job
      exact .healthy db
  | failed fault h =>
    refine .unavailable ?_
    rcases h with rfl | rfl | rfl | ⟨n, f, a, job, rfl⟩
    · exact Or.inl fault
    · exact Or.inr rfl
    · exact Or.inr rfl
    · cases m with
      | write w => cases job
      | read q => cases job
      | health =>
        cases job
        exact Or.inr rfl
  | lost => exact .unavailable (Or.inl rfl)

/-! ## A thread alone -/

section alone
variable {T : Type} [DecidableEq T] {φ : Nat → Option (Fault Exc)}

/-- A call that is refused before it asks for a connection. -/
theorem refused_runs {τ : Connections.State T Method Database Exc Answer} {t : T} {m : Method} {e : Exc}
    {S : Session Database} (hcommitted : τ.committed = S.committed) (hcached : τ.cached t = S.conn.isSome)
    (hat : τ.phase t = .asked m) (h : (storeProgram env dbPath).refuse τ.present m = some e) :
    ∃ τ', Runs (Connections.machine (storeProgram env dbPath)) τ [] τ' ∧ τ.Leaves t (.error e) S τ' :=
  ⟨_, .silent .refl (.refuse τ t m e hat h), Connections.State.leaves_to hcommitted hcached _⟩

theorem Store.present_of_backing {σ : Store} {detail : String} {u : Unit}
    (h : σ.requireDurableBacking detail = .ok u) :
    σ.present = true := by
  unfold Store.requireDurableBacking at h
  cases hp : σ.present with
  | true => rfl
  | false =>
    rw [hp] at h
    cases h

variable {τ : Connections.State T Method Database Exc Answer} {t : T} {σ : Store}

/-- A write of the store, whichever of its SQL calls raise, is what one thread may do while no other
holds the lock. -/
theorem Store.write_runs (sqlite : ∀ n x, φ n = some x → x.error.isSqlite = true)
    (hidle : σ.session.Idle) {w : Write}
    (hat : τ.phase t = .asked (.write w)) (hpresent : τ.present = σ.present)
    (hcommitted : τ.committed = σ.session.committed) (hcached : τ.cached t = σ.session.conn.isSome)
    (hfree : ∀ u, u ≠ t → ¬ (τ.phase u).Holds) :
    ∃ τ', Runs (Connections.machine (storeProgram env σ.dbPath)) τ [] τ' ∧
      τ.Leaves t (σ.call env φ (.write w)).result (σ.call env φ (.write w)).session τ' := by
  have hcall : σ.call env φ (.write w) = (σ.write env φ w).map Answer.reply := rfl
  have hrefuse : (storeProgram env σ.dbPath).refuse τ.present (.write w) = w.refusal.or (errorOf
      (σ.requireDurableBacking "refusing to acknowledge a write that could not survive a restart")) := by
    rw [hpresent]
    rfl
  rw [hcall]
  unfold Store.write
  cases hw : w.refusal with
  | some e =>
    rw [hw] at hrefuse
    exact refused_runs hcommitted hcached hat hrefuse
  | none =>
    rw [hw] at hrefuse
    dsimp only
    cases hb : σ.requireDurableBacking "refusing to acknowledge a write that could not survive a restart" with
    | error e =>
      rw [hb] at hrefuse
      exact refused_runs hcommitted hcached hat hrefuse
    | ok u =>
      rw [hb] at hrefuse
      dsimp only
      rw [← transaction_map]
      exact Connections.transaction_runs (P := storeProgram env σ.dbPath) sqlite hidle hcommitted hcached
        (fun _ => hpresent.trans (Store.present_of_backing hb)) hfree hat hrefuse rfl

/-- So is a query, where the thread has its connection or the file is there to open one on. -/
theorem Store.query_runs (sqlite : ∀ n x, φ n = some x → x.error.isSqlite = true) {q : Query}
    (hat : τ.phase t = .asked (.read q)) (hcommitted : τ.committed = σ.session.committed)
    (hcached : τ.cached t = σ.session.conn.isSome) (hthere : τ.cached t = false → τ.present = true) :
    ∃ τ', Runs (Connections.machine (storeProgram env σ.dbPath)) τ [] τ' ∧
      τ.Leaves t (σ.call env φ (.read q)).result (σ.call env φ (.read q)).session τ' := by
  have hcall : σ.call env φ (.read q) = σ.query env φ q := rfl
  have hrefuse : (storeProgram env σ.dbPath).refuse τ.present (.read q) = q.refusal := rfl
  rw [hcall]
  unfold Store.query
  cases hq : q.refusal with
  | some e => exact refused_runs hcommitted hcached hat (hrefuse.trans hq)
  | none => exact Connections.read_runs sqlite hcommitted hcached hthere hat (hrefuse.trans hq) rfl

/-- So is `health`. -/
theorem Store.health_runs (sqlite : ∀ n x, φ n = some x → x.error.isSqlite = true)
    (hat : τ.phase t = .asked .health)
    (hpresent : τ.present = σ.present) (hcommitted : τ.committed = σ.session.committed)
    (hcached : τ.cached t = σ.session.conn.isSome) (hfree : ∀ u, u ≠ t → ¬ (τ.phase u).Holds) :
    ∃ τ', Runs (Connections.machine (storeProgram env σ.dbPath)) τ [] τ' ∧
      τ.Leaves t (σ.call env φ .health).result (σ.call env φ .health).session τ' := by
  have hrefuse : (storeProgram env σ.dbPath).refuse τ.present .health =
      (errorOf (σ.requireDurableBacking "")).map healthCheckFailed := by
    rw [hpresent]
    rfl
  cases hb : σ.requireDurableBacking "" with
  | error e =>
    rw [hb] at hrefuse
    have hcall : σ.call env φ .health = ⟨.error (healthCheckFailed e), [], σ.session⟩ := by
      unfold Store.call Store.health
      dsimp only
      rw [hb]
      rfl
    rw [hcall]
    exact refused_runs hcommitted hcached hat hrefuse
  | ok u =>
    rw [hb] at hrefuse
    have hprobe := Connections.probe_runs (P := storeProgram env σ.dbPath) sqlite
      (hpresent.trans (Store.present_of_backing hb)) hat hrefuse hfree rfl σ.session.clock
    have hresult : (σ.call env φ .health).result = Connections.probeResult (storeProgram env σ.dbPath) φ
        σ.session.clock 2 healthCheckFailed .ready := by
      unfold Store.call Store.health Connections.probeResult
      dsimp only
      rw [hb]
      rw [show (storeProgram env σ.dbPath).driver = σ.driver from rfl]
      dsimp only
      cases calls φ σ.session.clock σ.driver.openCalls with
      | mk failed n => cases failed with
        | some e => rfl
        | none =>
          dsimp only
          cases calls φ n 4 with
          | mk failed' n' => cases failed' <;> rfl
    rw [hresult]
    refine ⟨_, hprobe, hcommitted.trans σ.health_session.1.symm, rfl, hcached.trans ?_, fun _ _ => rfl, rfl⟩
    exact congrArg Option.isSome σ.health_session.2.symm

/-- A call of the store is what one thread of the machine may do while no other holds the write
lock, unless it would open a connection where there is no file. -/
theorem Store.call_runs (sqlite : ∀ n x, φ n = some x → x.error.isSqlite = true)
    (hidle : σ.session.Idle) {m : Method}
    (hat : τ.phase t = .asked m) (hpresent : τ.present = σ.present)
    (hcommitted : τ.committed = σ.session.committed)
    (hcached : τ.cached t = σ.session.conn.isSome) (hthere : τ.cached t = false → τ.present = true)
    (hfree : ∀ u, u ≠ t → ¬ (τ.phase u).Holds) :
    ∃ τ', Runs (Connections.machine (storeProgram env σ.dbPath)) τ [] τ' ∧
      τ.Leaves t (σ.call env φ m).result (σ.call env φ m).session τ' := by
  cases m with
  | write w => exact Store.write_runs sqlite hidle hat hpresent hcommitted hcached hfree
  | read q => exact Store.query_runs sqlite hat hcommitted hcached hthere
  | health => exact Store.health_runs sqlite hat hpresent hcommitted hcached hfree

/-- A write that goes through, made by a thread that is left alone. -/
theorem Write.commits_runs {w : Write} {rep : Reply} {db' : Database} (hrefusal : w.refusal = none)
    (hat : τ.phase t = .asked (.write w)) (hpresent : τ.present = true)
    (hfree : ∀ u, u ≠ t → ¬ (τ.phase u).Holds) (hrun : w.run env τ.committed = .ok (rep, db')) :
    ∃ τ', Runs (Connections.machine (storeProgram env dbPath)) τ [.ret t (.ok (.reply rep))] τ' ∧
    τ'.committed = db' ∧
      τ'.present = τ.present ∧ τ'.phase = Function.update τ.phase t .idle := by
  refine Connections.commits_runs (P := storeProgram env dbPath) hpresent hfree hat ?_ rfl ?_
  · show w.refusal.or (errorOf ((Store.opened dbPath τ.present).requireDurableBacking _)) = none
    rw [hrefusal, hpresent]
    rfl
  · rw [eval_map, w.script_eval, hrun]
    rfl

/-- And one that is refused. -/
theorem Write.refuses_runs {w : Write} {e : Exc} (hrefusal : w.refusal = none)
    (hat : τ.phase t = .asked (.write w))
    (hpresent : τ.present = true) (hfree : ∀ u, u ≠ t → ¬ (τ.phase u).Holds)
    (hrun : w.run env τ.committed = .error e) :
    ∃ τ', Runs (Connections.machine (storeProgram env dbPath)) τ [.ret t (.error e)] τ' ∧
    τ'.committed = τ.committed ∧
      τ'.present = τ.present ∧ τ'.phase = Function.update τ.phase t .idle := by
  refine Connections.refuses_runs (P := storeProgram env dbPath) hpresent hfree hat ?_ rfl ?_
  · show w.refusal.or (errorOf ((Store.opened dbPath τ.present).requireDurableBacking _)) = none
    rw [hrefusal, hpresent]
    rfl
  · rw [eval_map, w.script_eval, hrun]
    rfl

end alone

/-! ## The file behind the store

While no thread creates a file at the path, the threads of `Backing` are served by this store. -/

section backing
variable {T : Type} [DecidableEq T] {σ : Backing T}

/-- A write over the original file is answered as the store answers it, and leaves what the store leaves. -/
theorem Backing.Original.serves (h : σ.Original) {db : Database} (hdb : σ.files Cer.original = some db)
    (t : T) (w : Write) :
    ∃ db', (σ.write env t w).2.files Cer.original = some db' ∧
      Method.Serves env (.write w) db ((σ.write env t w).1.map .reply) db' := by
  unfold Backing.write
  cases hw : w.refusal with
  | some e => exact ⟨db, hdb, .refused (Or.inl hw)⟩
  | none =>
    dsimp only
    cases hpath : σ.path with
    | none =>
      unfold Backing.requireDurableBacking
      rw [hpath]
      exact ⟨db, hdb, .unavailable (Or.inr rfl)⟩
    | some f =>
      obtain ⟨hreached, _, hfiles, _⟩ := h.connect (t := t) fun hc => by
        rw [hpath] at hc
        cases hc.2
      unfold Backing.requireDurableBacking
      rw [hpath]
      dsimp only
      rw [hreached, hfiles, hdb]
      dsimp only
      cases hrun : w.run env db with
      | error e =>
        refine ⟨db, ?_, .refused (Or.inr hrun)⟩
        show (σ.connect t).2.files Cer.original = some db
        rw [hfiles, hdb]
      | ok r =>
        refine ⟨r.2, ?_, .wrote hrun⟩
        show Function.update σ.files Cer.original (some r.2) Cer.original = some r.2
        exact Function.update_self _ _ _

/-- Any step leaves the original file what the store makes of it. -/
theorem Backing.Original.next_serves (h : σ.Original) {db : Database} (hdb : σ.files Cer.original = some db)
    {e : BackingEvent T} (hc : ¬ e.CreatesFile σ) :
    ∃ db', (σ.next env e).files Cer.original = some db' ∧ Later (Method.Serves env) db db' := by
  cases e with
  | read t table select =>
    obtain ⟨_, _, hfiles, _⟩ := h.connect hc
    refine ⟨db, ?_, .refl⟩
    show (σ.read t table select).2.files Cer.original = some db
    have hstate : (σ.read t table select).2 = (σ.connect t).2 := by
      unfold Backing.read
      dsimp only
      split <;> rfl
    rw [hstate, hfiles, hdb]
  | write t w =>
    obtain ⟨db', hfile, hserves⟩ := h.serves hdb t w
    exact ⟨db', hfile, .single ⟨_, _, hserves⟩⟩
  | health t => exact ⟨db, hdb, .refl⟩
  | close t => exact ⟨db, hdb, .refl⟩
  | remove => exact ⟨db, hdb, .refl⟩
  | restore => exact ⟨db, hdb, .refl⟩

/-- **A run in which no thread creates a file** leaves in the original one what the store leaves
that answers one call after the other, and each thread's next write is answered as that store
answers it. -/
theorem backing_serves (dbPath : String) (db : Database) {es : List (BackingEvent T)}
    (hes : ∀ before e rest, es = before ++ e :: rest →
      ¬ e.CreatesFile ((Backing.start T dbPath db).after env before)) :
    ∃ db', ((Backing.start T dbPath db).after env es).files Cer.original = some db' ∧
      Later (Method.Serves env) db db' ∧ ∀ t w, ∃ db'',
        (((Backing.start T dbPath db).after env es).write env t w).2.files Cer.original = some db'' ∧
          Method.Serves env (.write w) db'
            ((((Backing.start T dbPath db).after env es).write env t w).1.map .reply) db'' := by
  have hstart : (Backing.start T dbPath db).Original := Backing.original_start dbPath db
  suffices hlater : ∃ db', ((Backing.start T dbPath db).after env es).files Cer.original = some db' ∧
      Later (Method.Serves env) db db' by
    obtain ⟨db', hfile, hlater⟩ := hlater
    exact ⟨db', hfile, hlater, fun t w => (hstart.after hes).serves hfile t w⟩
  induction es using List.reverseRecOn with
  | nil =>
    refine ⟨db, ?_, .refl⟩
    show (if Cer.original = Cer.original then some db else none) = some db
    rw [if_pos rfl]
  | append_singleton es e ih =>
    have hbefore : ∀ before e' rest, es = before ++ e' :: rest →
        ¬ e'.CreatesFile ((Backing.start T dbPath db).after env before) := by
      intro before e' rest he
      refine hes before e' (rest ++ [e]) ?_
      rw [he, List.append_assoc, List.cons_append]
    obtain ⟨db₁, hfile, hlater⟩ := ih hbefore
    obtain ⟨db₂, hfile', hlater'⟩ : ∃ db₂, _ ∧ Later (Method.Serves env) db₁ db₂ :=
      (hstart.after hbefore).next_serves hfile (hes es e [] rfl)
    rw [Backing.after_append]
    exact ⟨db₂, hfile', hlater.trans hlater'⟩

end backing

/-! ## Two overlapping calls -/

/-- No SQL call raises. -/
def calm (_ : Nat) : Option (Fault Exc) := none

/-- A thread's call of a store that nobody has a transaction on, and its answer. -/
theorem answers_runs (env : Env) {T : Type} [DecidableEq T] {σ : Store} (hidle : σ.session.Idle)
    {τ : Connections.State T Method Database Exc Answer} {t : T} {m : Method} {r : Except Exc Answer}
    (hat : τ.phase t = .asked m) (hpresent : τ.present = σ.present)
    (hcommitted : τ.committed = σ.session.committed)
    (hcached : τ.cached t = σ.session.conn.isSome) (there : σ.present = true)
    (hfree : ∀ u, u ≠ t → ¬ (τ.phase u).Holds) (hresult : (σ.call env calm m).result = r) :
    ∃ τ', Runs (Connections.machine (storeProgram env σ.dbPath)) τ [.ret t r] τ' ∧
      τ'.committed = (σ.call env calm m).session.committed ∧ τ'.present = σ.present ∧
      τ'.cached t = (σ.call env calm m).session.conn.isSome ∧ (∀ u, u ≠ t → τ'.cached u = τ.cached u) ∧
      τ'.phase = Function.update τ.phase t .idle := by
  obtain ⟨τ', hrun, hleaves⟩ := Store.call_runs (φ := calm) (fun _ _ h => by cases h) hidle hat hpresent hcommitted
    hcached (fun _ => hpresent.trans there) hfree
  have hdone : τ'.phase t = .done r := by
    rw [hleaves.done, Function.update_self, hresult]
  refine ⟨τ'.to t .idle, .shows hrun (.ret τ' t r hdone), hleaves.committed, hleaves.present.trans hpresent,
    hleaves.cached, hleaves.others, ?_⟩
  show Function.update τ'.phase t _ = _
  rw [hleaves.done, Function.update_idem]

def sampleBlob : ArtifactRecord :=
  { artifactId := "art_01", sha256 := String.ofList (List.replicate 64 '0'), sizeBytes := 1,
    contentType := "text/plain"
    filename := "one.txt", uri := "file:///one", registeredAt := sampleTime, runId := none, evidenceId := none }

theorem sampleBlob_valid : sampleBlob.Valid := by
  unfold ArtifactRecord.Valid
  decide +kernel

/-- The database once it is registered. -/
def sampleBlobDb : Database := { Database.empty with artifacts := [sampleBlob.toRow .reference none none] }

theorem sampleBlob_gets : ((⟨"cer.db", true, ⟨sampleBlobDb, none, 0⟩⟩ : Store).call .reference calm
    (.read (.getArtifact "art_01"))).result = .ok (.reply (.artifact sampleBlob)) := by
  have hread : getArtifact sampleBlobDb "art_01" = .ok sampleBlob :=
    rowToArtifact_toRow .reference sampleBlob_valid none none
  show (getArtifact sampleBlobDb "art_01").map _ = _
  rw [hread]
  rfl

/-- One thread registers while the other probes; the other then asks for what was registered, and
the first probes. -/
def overlapping : List (Event Bool Method (Except Exc Answer)) :=
  [.call true .health, .call false (.write (.registerArtifact sampleBlob none none)),
    .ret false (.ok (.reply (.artifact sampleBlob))), .ret true (.ok .ready),
    .call true (.read (.getArtifact "art_01")),
    .call false .health, .ret true (.ok (.reply (.artifact sampleBlob)))]

theorem idle_of_closed (d : Database) : (⟨d, none, 0⟩ : Session Database).Idle := by
  intro d h
  cases h

theorem overlapping_runs : ∃ σ : Connections.State Bool Method Database Exc Answer,
    Runs (Connections.machine (storeProgram .reference "cer.db"))
      (Connections.State.start .empty) overlapping σ := by
  have hcalls : ∀ {τ : Connections.State Bool Method Database Exc Answer} {m m' : Method},
    τ.phase = (fun _ => .idle) →
      Runs (Connections.machine (storeProgram .reference "cer.db")) τ [.call true m, .call false m']
        ((τ.to true (.asked m)).to false (.asked m')) := by
    intro τ m m' hτ
    refine .shows (.one (Connections.machine.call τ true m (congrFun hτ true)))
      (Connections.machine.call _ false m' ?_)
    exact (Connections.State.to_phase_ne (by decide)).trans (congrFun hτ false)
  have hphase : ∀ {τ : Connections.State Bool Method Database Exc Answer} {m m' : Method} (u : Bool),
      ¬ (((τ.to true (.asked m)).to false (.asked m')).phase u).Holds := fun u h => by cases u <;> exact h
  -- the registration of one thread, while the other waits
  obtain ⟨τ₁, hrun₁, hdb₁, hpresent₁, _, hcached₁, hphase₁⟩ := answers_runs .reference (σ := newStore)
    (τ := ((Connections.State.start .empty).to true (.asked .health)).to false (.asked (.write
      (.registerArtifact sampleBlob none none)))) (r := .ok (.reply (.artifact sampleBlob)))
    (idle_of_closed _) Connections.State.to_phase_self rfl rfl rfl rfl (fun u _ => hphase u) rfl
  -- the other's probe
  obtain ⟨τ₂, hrun₂, hdb₂, hpresent₂, hown₂, _, hphase₂⟩ := answers_runs .reference (t := true) (m := .health)
    (r := .ok .ready) (σ := ⟨"cer.db", true, ⟨τ₁.committed, none, 0⟩⟩) (idle_of_closed _)
    (by rw [hphase₁]; rfl) hpresent₁ rfl ((hcached₁ true (by decide)).trans rfl) rfl
    (fun u hu => by rw [hphase₁]; cases u <;> exact fun h => h) rfl
  have hidle₂ : τ₂.phase = fun _ => .idle := by
    rw [hphase₂, hphase₁]
    funext u
    cases u <;> rfl
  -- what was registered is asked for
  obtain ⟨τ₃, hrun₃, _⟩ := answers_runs .reference (t := true) (r := .ok (.reply (.artifact sampleBlob)))
    (σ := ⟨"cer.db", true, ⟨sampleBlobDb, none, 0⟩⟩)
    (τ := (τ₂.to true (.asked (.read (.getArtifact "art_01")))).to false (.asked .health)) (idle_of_closed _)
    ((Connections.State.to_phase_ne (by decide)).trans Connections.State.to_phase_self) hpresent₂
    (hdb₂.trans hdb₁) hown₂
    rfl (fun u _ => hphase u) sampleBlob_gets
  exact ⟨τ₃, (((hcalls rfl).trans hrun₁).trans hrun₂).trans ((hcalls hidle₂).trans hrun₃)⟩

/-- **To its callers the store is atomic**: in every run of its threads, SQL call by SQL call, with any of these
failing, the process stopping anywhere and the file moved away and put back, they are answered as by
a store that answers each call at one moment between the call and its answer, and what is committed
is that store's database. -/
theorem concurrent_calls_are_atomic (env : Env) {T : Type} [DecidableEq T] (dbPath : String) {db : Database}
    {shown : List (Event T Method (Except Exc Answer))} {σ : Connections.State T Method Database Exc Answer}
    (h : Runs (Connections.machine (storeProgram env dbPath)) (Connections.State.start db) shown σ) :
    ∃ a : Service T Method (Except Exc Answer) Database,
      Runs (service (Method.Serves env)) ⟨db, fun _ => .idle⟩ shown a ∧ a.data = σ.committed ∧
        ∀ t, a.progress t = (σ.phase t).progress := by
  obtain ⟨hruns, _⟩ := Connections.machine_refines (storeProgram env dbPath) h
  exact ⟨σ.view, service_mono (fun _ _ _ _ => Method.serves_of_program) hruns, rfl, fun _ => rfl⟩

theorem overlapping_is_atomic : ∃ (σ : Connections.State Bool Method Database Exc Answer)
    (a : Service Bool Method (Except Exc Answer) Database),
    Runs (service (Method.Serves .reference)) ⟨.empty, fun _ => .idle⟩ overlapping a ∧ a.data = σ.committed ∧
      ∀ t, a.progress t = (σ.phase t).progress := by
  obtain ⟨σ, h⟩ := overlapping_runs
  exact ⟨σ, concurrent_calls_are_atomic .reference "cer.db" h⟩

/-! ## What was answered is found -/

/-- The records an answer shows. -/
def Answer.Shows : Answer → Reply → Prop
  | .reply rep, x => rep = x
  | .found a, x => ∃ b, a = some b ∧ x = .artifact b
  | .listing records, x => x ∈ records
  | .ready, _ => False

/-- The store could not be used. -/
def Unavailable (e : Exc) : Prop := e.isSqlite = true ∨ e.isA .metadataStoreError = true

section shown
variable {db db' : Database} {m : Method} {ans : Answer}

/-- What a read shows it read from a row. -/
theorem Query.shows_row {q : Query} (h : q.answer env db = .ok ans) {rep : Reply} (hshows : ans.Shows rep) :
    db.Holds env rep := by
  have hlisted : ∀ {Rec : Type} {f : Rec → Reply} {found : Except Exc (List Rec)},
      found.map (fun xs => Answer.listing (xs.map f)) = .ok ans → ∃ xs x, found = .ok xs ∧ x ∈ xs ∧ rep = f x := by
    intro Rec f found h
    obtain ⟨xs, hxs, rfl⟩ := map_eq_ok h
    obtain ⟨x, hx, rfl⟩ := List.mem_map.1 hshows
    exact ⟨xs, x, hxs, hx, rfl⟩
  cases q with
  | getEvidence i =>
    obtain ⟨e, he, rfl⟩ := map_eq_ok h
    cases hshows
    exact holds_of_fetchEvidence he
  | queryEvidence q limit offset =>
    obtain ⟨xs, x, hxs, hx, rfl⟩ := hlisted h
    obtain ⟨_, _, hxs⟩ := bind_ok hxs
    obtain ⟨_, _, hxs⟩ := bind_ok hxs
    exact read_of_page hxs hx
  | findArtifactByIdempotencyKey p k =>
    obtain ⟨a, ha, rfl⟩ := map_eq_ok h
    obtain ⟨b, rfl, rfl⟩ := hshows
    exact holds_of_findArtifact ha
  | getArtifact i =>
    obtain ⟨a, ha, rfl⟩ := map_eq_ok h
    cases hshows
    exact holds_of_getArtifact ha
  | queryArtifacts e r limit offset =>
    obtain ⟨xs, x, hxs, hx, rfl⟩ := hlisted h
    exact read_of_page hxs hx
  | queryPromotions s v limit offset =>
    obtain ⟨xs, x, hxs, hx, rfl⟩ := hlisted h
    exact read_of_page hxs hx
  | queryHealth s v limit offset =>
    obtain ⟨xs, x, hxs, hx, rfl⟩ := hlisted h
    exact read_of_page hxs hx

/-- An evidence record that an answer shows has a row, which reads as it, up to the order of its keys. -/
theorem Method.Serves.evidence_row (hdb : WellFormed env db) (hv : m.Valid) (h : m.Serves env db (.ok ans) db')
    {e : EvidenceRecord} (hshows : ans.Shows (.evidence e)) :
    ∃ r ∈ db'.evidence, r.evidenceId = e.evidenceId ∧
      (rowToEvidence env r = .ok e ∨ rowToEvidence env r = .ok e.stored) := by
  have hheld : ∀ {d : Database}, WellFormed env d → d.Holds env (.evidence e) → ∃ r ∈ d.evidence,
      r.evidenceId = e.evidenceId ∧ (rowToEvidence env r = .ok e ∨ rowToEvidence env r = .ok e.stored) := by
    rintro d hd ⟨r, hr, hread⟩
    obtain ⟨x, _, rfl, hx⟩ := (hd.evidence.origin r hr).read
    obtain rfl : x.stored = e := Except.ok.inj (hx.symm.trans hread)
    exact ⟨_, hr, rfl, Or.inl hread⟩
  cases h with
  | @wrote w _ _ rep run =>
    obtain rfl : rep = .evidence e := hshows
    have hdb' : WellFormed env db' := Writes.wellFormed hdb (.commit (.refl db) hv run)
    rcases hdb.run_holds run with hholds | _
    · exact hheld hdb' hholds
    · cases w with
      | appendEvidence x =>
        obtain ⟨a, ha, hrep⟩ := asReply_ok run
        cases hrep
        obtain ⟨_, _, ha⟩ := bind_ok ha
        obtain ⟨_, _, ha⟩ := bind_ok ha
        rcases Submission.run_ok ha with ⟨r, _, _, hreplay, rfl⟩ | ⟨r, _, _, hexisting, rfl⟩ |
          ⟨_, _, hinsert, hrec⟩
        · exact hheld hdb (holds_of_fetchEvidence hreplay)
        · exact hheld hdb (holds_of_fetchEvidence (ok_of_guarded hexisting))
        · obtain rfl : e = x := hrec
          refine ⟨e.toRow env, ?_, rfl, Or.inr (rowToEvidence_toRow env hv)⟩
          rw [Table.insert_ok hinsert]
          exact List.mem_append_right _ (List.mem_singleton_self _)
      | _ =>
        obtain ⟨_, _, hrep⟩ := asReply_ok run
        cases hrep
  | answered h => exact hheld hdb (Query.shows_row h hshows)
  | healthy => exact hshows.elim

/-- So has an artifact. -/
theorem Method.Serves.artifact_row (hdb : WellFormed env db) (hv : m.Valid) (h : m.Serves env db (.ok ans) db')
    {a : ArtifactRecord} (hshows : ans.Shows (.artifact a)) :
    ∃ r ∈ db'.artifacts, r.artifactId = a.artifactId ∧ rowToArtifact r = .ok a := by
  have hheld : ∀ {d : Database}, WellFormed env d → d.Holds env (.artifact a) →
      ∃ r ∈ d.artifacts, r.artifactId = a.artifactId ∧ rowToArtifact r = .ok a := by
    rintro d hd ⟨r, hr, hread⟩
    obtain ⟨x, k, p, _, rfl, hx⟩ := (hd.artifacts.origin r hr).read
    obtain rfl : x = a := Except.ok.inj (hx.symm.trans hread)
    exact ⟨_, hr, rfl, hread⟩
  cases h with
  | @wrote w _ _ rep run =>
    obtain rfl : rep = .artifact a := hshows
    have hdb' : WellFormed env db' := Writes.wellFormed hdb (.commit (.refl db) hv run)
    rcases hdb.run_holds run with hholds | _
    · exact hheld hdb' hholds
    · cases w with
      | registerArtifact x k p =>
        obtain ⟨b, hb, hrep⟩ := asReply_ok run
        cases hrep
        obtain ⟨_, _, hb⟩ := bind_ok hb
        obtain ⟨_, _, hb⟩ := bind_ok hb
        obtain ⟨_, _, hb⟩ := bind_ok hb
        rcases Submission.run_ok hb with ⟨r, hby, _, hreplay, rfl⟩ | ⟨r, hby, hid, hexisting, rfl⟩ |
          ⟨_, _, hinsert, hrec⟩
        · exact hheld hdb ⟨r, (Submission.byKey_mem hby).1, hreplay⟩
        · exact hheld hdb ⟨r, List.mem_of_find?_eq_some hid, ok_of_guarded hexisting⟩
        · obtain rfl : a = x := hrec
          refine ⟨a.toRow env k p, ?_, rfl, rowToArtifact_toRow env hv k p⟩
          rw [Table.insert_ok hinsert]
          exact List.mem_append_right _ (List.mem_singleton_self _)
      | attachArtifact i e r =>
        obtain ⟨b, hb, hrep⟩ := asReply_ok run
        cases hrep
        obtain ⟨row, e', r', hf, _, _, ⟨_, _, rfl, hread⟩ | ⟨_, row', hf', hread⟩⟩ := attachArtifact_ok hb
        · exact hheld hdb ⟨row, List.mem_of_find?_eq_some hf, hread⟩
        · exact hheld hdb' ⟨row', List.mem_of_find?_eq_some hf', hread⟩
      | _ =>
        obtain ⟨_, _, hrep⟩ := asReply_ok run
        cases hrep
  | answered h => exact hheld hdb (Query.shows_row h hshows)
  | healthy => exact hshows.elim

/-- A read of an identity that has a row finds it, where it can be made at all. -/
theorem Method.Serves.finds_evidence {i : String} {r : EvidenceRow} (hdb : WellFormed env db)
    (hr : r ∈ db.evidence)
    (hid : r.evidenceId = i) {answer : Except Exc Answer}
    (h : Method.Serves env (.read (.getEvidence i)) db answer db') :
    answer = (rowToEvidence env r).map (fun e => .reply (.evidence e)) ∨ ∃ e, answer = .error e ∧
    Unavailable e := by
  cases h with
  | answered h =>
    have hget : (Query.getEvidence i).answer env db = (rowToEvidence env r).map fun e => .reply (.evidence e) := by
      subst hid
      exact congrArg (Except.map _) (hdb.fetchEvidence_eq hr)
    exact Or.inl (h.symm.trans hget)
  | declined h => cases h
  | unavailable h => exact Or.inr ⟨_, rfl, h⟩

theorem Method.Serves.finds_artifact {i : String} {r : ArtifactRow} (hdb : WellFormed env db)
    (hr : r ∈ db.artifacts)
    (hid : r.artifactId = i) {answer : Except Exc Answer}
    (h : Method.Serves env (.read (.getArtifact i)) db answer db') :
    answer = (rowToArtifact r).map (fun a => .reply (.artifact a)) ∨ ∃ e, answer = .error e ∧ Unavailable e := by
  cases h with
  | answered h =>
    have hget : (Query.getArtifact i).answer env db = (rowToArtifact r).map fun a => .reply (.artifact a) := by
      subst hid
      show (getArtifact db r.artifactId).map _ = _
      unfold getArtifact
      rw [hdb.find_artifact hr]
    exact Or.inl (h.symm.trans hget)
  | declined h => cases h
  | unavailable h => exact Or.inr ⟨_, rfl, h⟩

end shown

/-- Valid calls, served one after the other, write. -/
theorem writes_of_later {db db' : Database}
    (h : Later (fun m d r d' => m.Valid ∧ Method.Serves env m d r d') db db') : Writes env db db' := by
  induction h with
  | refl => exact .refl db
  | tail _ hstep ih =>
    obtain ⟨m, r, hv, hserves⟩ := hstep
    cases hserves with
    | wrote run => exact .commit ih hv run
    | _ => exact ih

/-- **What was answered is found**: an evidence record or an artifact that any call was answered
with is what a GET of its id that begins later is answered with, whoever makes it and whatever
happens in between; an artifact may have been attached.  Only the database being unavailable can
prevent it. -/
theorem answers_are_found (env : Env) {T : Type} [DecidableEq T] (dbPath : String) {db : Database}
    (reached : Reachable env db) {pre mid post shown : List (Event T Method (Except Exc Answer))}
    {t u : T} {ans : Answer}
    {q : Query} {answer : Except Exc Answer} {σ : Connections.State T Method Database Exc Answer}
    (hshown : shown = pre ++ .ret t (.ok ans) :: (mid ++ .call u (.read q) :: (post ++ [.ret u answer])))
    (h : Runs (Connections.machine (storeProgram env dbPath)) (Connections.State.start db) shown σ)
    (valid : ∀ c m, .call c m ∈ shown → m.Valid) (quiet : ∀ e ∈ post, ¬ e.Touches u) :
    (∀ e, ans.Shows (.evidence e) → q = .getEvidence e.evidenceId →
      answer = .ok (.reply (.evidence e)) ∨ answer = .ok (.reply (.evidence e.stored)) ∨
        ∃ x, answer = .error x ∧ Unavailable x) ∧
    ∀ a, ans.Shows (.artifact a) → q = .getArtifact a.artifactId →
      (∃ b, a.Attaches b ∧ answer = .ok (.reply (.artifact b))) ∨ ∃ x, answer = .error x ∧ Unavailable x := by
  obtain ⟨hruns, _⟩ := Connections.machine_refines (storeProgram env dbPath) h
  have hserved := service_mono (fun _ _ _ _ => Method.serves_of_program) hruns
  have hvalid := service_restrict valid (fun t op h => by cases h) hserved
  subst hshown
  obtain ⟨first, d, ⟨d₁, d₂, h₁, ⟨hfirst, hans⟩, h₂⟩, d₃, d₄, h₃, ⟨_, hget⟩, _⟩ := service_order quiet hvalid
  have hdb₁ : WellFormed env d₁ := Writes.wellFormed reached.wellFormed (writes_of_later h₁)
  have hdb₂ : WellFormed env d₂ :=
    Writes.wellFormed hdb₁ (writes_of_later (.single ⟨first, .ok ans, hfirst, hans⟩))
  have hwrites : Writes env d₂ d₃ := (writes_of_later h₂).trans (writes_of_later h₃)
  have hdb₃ : WellFormed env d₃ := Writes.wellFormed hdb₂ hwrites
  have hext := Writes.extends hdb₂ hwrites
  constructor
  · rintro e hshows rfl
    obtain ⟨r, hr, hid, hread⟩ := hans.evidence_row hdb₁ hfirst hshows
    rcases hget.finds_evidence hdb₃ (mem_of_extends hext.evidence r hr) hid with hget | hun
    · rcases hread with hread | hread
      · rw [hread] at hget
        exact Or.inl hget
      · rw [hread] at hget
        exact Or.inr (Or.inl hget)
    · exact Or.inr (Or.inr hun)
  · rintro a hshows rfl
    obtain ⟨r, hr, hid, hread⟩ := hans.artifact_row hdb₁ hfirst hshows
    obtain ⟨r', hr', hattaches⟩ := hext.artifacts.mem hr
    obtain ⟨b, hb, hsame⟩ := reads_attached hdb₂ hdb₃ hr hr' hattaches hread
    have hid' : r'.artifactId = a.artifactId := by
      rw [hattaches.1]
      exact hid
    rcases hget.finds_artifact hdb₃ hr' hid' with hget | hun
    · rw [hb] at hget
      exact Or.inl ⟨b, hsame, hget⟩
    · exact Or.inr hun

/-- The second thread finds what the first has registered. -/
theorem overlapping_is_found : (∃ b, sampleBlob.Attaches b ∧
      (.ok (.reply (.artifact sampleBlob)) : Except Exc Answer) = .ok (.reply (.artifact b))) ∨
    ∃ x, (.ok (.reply (.artifact sampleBlob)) : Except Exc Answer) = .error x ∧ Unavailable x := by
  obtain ⟨σ, h⟩ := overlapping_runs
  have hvalid : ∀ c m, .call c m ∈ overlapping → m.Valid := by
    intro c m hm
    simp only [overlapping, List.mem_cons, List.not_mem_nil, or_false, Event.call.injEq,
      reduceCtorEq, false_or] at hm
    rcases hm with ⟨_, rfl⟩ | ⟨_, rfl⟩ | ⟨_, rfl⟩ | ⟨_, rfl⟩
    · trivial
    · exact sampleBlob_valid
    · trivial
    · trivial
  have hquiet : ∀ e ∈ [(.call false .health : Event Bool Method (Except Exc Answer))], ¬ e.Touches true := by
    intro e he
    rw [List.mem_singleton.1 he]
    exact Bool.false_ne_true
  have hshown :
    overlapping = [.call true .health, .call false (.write (.registerArtifact sampleBlob none none))] ++
      .ret false (.ok (.reply (.artifact sampleBlob))) :: ([.ret true (.ok .ready)] ++
        .call true (.read (.getArtifact "art_01")) :: ([.call false .health] ++
          [.ret true (.ok (.reply (.artifact sampleBlob)))])) := rfl
  exact (answers_are_found .reference "cer.db" (.refl _) hshown h hvalid hquiet).2 sampleBlob rfl rfl

end

end Cer
