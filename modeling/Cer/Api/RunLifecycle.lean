import Cer.Api.Routes
import Cer.Metadata.Constraints
import Mathlib.Data.List.Induction

/-!
# The life of a run

Runs are made by `POST /experiments/{id}/runs` and closed by `POST /runs/{id}/close`; any
other write may come in between.  `RunLifecycle` is what their life should be: OPEN and
without an end until one close, then CLOSED or FAILED for good.

Both request schemas take every `RunStatus`, and the store looks only at the old one.
`RunOp.Misfit` names the requests that go wrong by it, and `run_lifecycle_iff` says that
they are the only ones.
-/

namespace Cer.Api

open Py

/-! ## Runs of requests -/

/-- The write belongs to none of the two run endpoints. -/
def leavesRuns : Write → Bool
  | .createRun _ _ | .closeRun _ _ _ => false
  | _ => true

inductive RunOp
  /-- `POST /experiments/{experiment_id}/runs`. -/
  | create (draw : Draw) (experimentId : String) (body : RunCreateRequest) (header : Option String)
  /-- `POST /runs/{run_id}/close`. -/
  | close (draw : Draw) (runId : String) (body : RunCloseRequest)
  /-- Any other write. -/
  | other (w : Write) (valid : w.Valid) (leaves : leavesRuns w = true)

section runs
variable (env : Env) (uuid5 : Uuid5)

def RunOp.run (db : Database) : RunOp → Except Exc (Reply × Database)
  | .create draw experimentId body header => handle env uuid5 draw db (.createRun experimentId body header)
  | .close draw runId body => handle env uuid5 draw db (.closeRun runId body)
  | .other w _ _ => w.run env db

/-- What is committed: a refused request leaves the database as it was. -/
def RunOp.next (db : Database) (op : RunOp) : Database :=
  match op.run env uuid5 db with
  | .ok (_, db') => db'
  | .error _ => db

/-- The database after the requests, from a freshly migrated one. -/
def after (ops : List RunOp) : Database := ops.foldl (RunOp.next env uuid5) .empty

/-! ## What the life of a run should be -/

/-- A run is OPEN just as long as it has no end. -/
def RunsConsistent (db : Database) : Prop := ∀ r ∈ db.runs, r.status = RunStatus.open_.value ↔ r.endedAt = none

/-- The request is a close of the run, and it succeeds. -/
def RunOp.Closes (db : Database) (op : RunOp) (runId : String) : Prop :=
  ∃ draw body rep db', op = .close draw runId body ∧ op.run env uuid5 db = .ok (rep, db')

structure RunLifecycle (ops : List RunOp) : Prop where
  consistent : ∀ before rest, ops = before ++ rest → RunsConsistent (after env uuid5 before)
  /-- After a close the run is CLOSED or FAILED and its row stays what the close made it. -/
  settled : ∀ before op mid rest runId, ops = before ++ op :: (mid ++ rest) →
    op.Closes env uuid5 (after env uuid5 before) runId →
    ∃ r ∈ (after env uuid5 (before ++ op :: mid)).runs, r.runId = runId ∧
      (r.status = RunStatus.closed.value ∨ r.status = RunStatus.failed.value) ∧
      r ∈ (after env uuid5 (before ++ [op])).runs
  /-- A further close is refused. -/
  final : ∀ before op mid draw body rest runId, ops = before ++ op :: (mid ++ .close draw runId body :: rest) →
    op.Closes env uuid5 (after env uuid5 before) runId →
    ∃ m, (RunOp.close draw runId body).run env uuid5 (after env uuid5 (before ++ op :: mid)) =
      .error (immutability m)

/-- A request that goes wrong: a first submission of a run that is not OPEN, a close of an open run with status
OPEN, or a close of a run no longer open with an end that has no UTC instant. -/
def RunOp.Misfit (db : Database) : RunOp → Prop
  | .create draw experimentId body header => body.status ≠ .open_ ∧ ∃ run key,
      createRun uuid5 draw experimentId body header = .ok (.createRun run key) ∧ db.hasExperiment experimentId ∧
        (runSubmission env db run key).byKey db = none ∧ (runSubmission env db run key).byId db = none
  | .close draw runId body => ∃ r ∈ db.runs, r.runId = runId ∧
      if r.status = RunStatus.open_.value then body.status = .open_ ∧ ∃ u, toUtc (orNow draw body.endedAt) = .ok u
      else ∀ u, toUtc (orNow draw body.endedAt) ≠ .ok u
  | .other _ _ _ => False

end runs

/-! ## One request -/

section step
variable {env : Env} {uuid5 : Uuid5} {db : Database}

theorem RunOp.next_ok {op : RunOp} {rep : Reply} {db' : Database} (h : op.run env uuid5 db = .ok (rep, db')) :
    op.next env uuid5 db = db' := by
  unfold RunOp.next
  rw [h]

theorem RunOp.next_error {op : RunOp} {e : Exc} (h : op.run env uuid5 db = .error e) :
    op.next env uuid5 db = db := by
  unfold RunOp.next
  rw [h]

/-- A request that succeeds is a write of valid records. -/
theorem RunOp.run_ok {op : RunOp} {rep : Reply} {db' : Database} (h : op.run env uuid5 db = .ok (rep, db')) :
    ∃ w : Write, w.Valid ∧ w.run env db = .ok (rep, db') := by
  cases op with
  | create draw i body header =>
    obtain ⟨w, hw, h⟩ := bind_ok h
    exact ⟨w, @Request.toWrite_valid uuid5 draw w (.createRun i body header) trivial hw, h⟩
  | close draw i body => exact ⟨.closeRun i body.status (orNow draw body.endedAt), trivial, h⟩
  | other w valid _ => exact ⟨w, valid, h⟩

theorem RunOp.writes (op : RunOp) (db : Database) : Writes env db (op.next env uuid5 db) := by
  cases h : op.run env uuid5 db with
  | error e =>
    rw [RunOp.next_error h]
    exact .refl db
  | ok out =>
    obtain ⟨rep, db'⟩ := out
    obtain ⟨w, hv, hw⟩ := RunOp.run_ok h
    rw [RunOp.next_ok h]
    exact .commit (.refl db) hv hw

/-- A write of no run endpoint leaves the runs alone. -/
theorem leavesRuns_effect {w : Write} {db' : Database} (hl : leavesRuns w = true) (h : Effect env db w db') :
    db'.runs = db.runs := by
  cases h with
  | run r k fresh exp => cases hl
  | close i s t ended row hmem hid hopen => cases hl
  | _ => rfl

/-- What a create leaves in the runs: what was there, or that and an OPEN row or one of the status asked for. -/
theorem RunOp.next_create {draw : Draw} {i : String} {body : RunCreateRequest} {header : Option String} :
    ((RunOp.create draw i body header).next env uuid5 db).runs = db.runs ∨
      ∃ run key, createRun uuid5 draw i body header = .ok (.createRun run key) ∧ db.hasExperiment i ∧
        (runSubmission env db run key).byKey db = none ∧ (runSubmission env db run key).byId db = none ∧
        ((RunOp.create draw i body header).next env uuid5 db).runs = db.runs ++ [run.toRow env key] ∧
        run.status = body.status ∧ run.endedAt = none := by
  cases h : (RunOp.create draw i body header).run env uuid5 db with
  | error e =>
    rw [RunOp.next_error h]
    exact Or.inl rfl
  | ok out =>
    obtain ⟨rep, db'⟩ := out
    rw [RunOp.next_ok h]
    obtain ⟨w, hw, h⟩ := bind_ok h
    obtain ⟨key, runId, run, hkey, hid, rfl, _, _, _, hexp, hstatus, hend⟩ := createRun_ok hw
    obtain ⟨rec, h, _⟩ := asReply_ok h
    obtain ⟨_, hreq, h⟩ := bind_ok h
    rcases Submission.run_ok h with ⟨_, _, _, _, rfl⟩ | ⟨_, _, _, _, rfl⟩ | ⟨hk, hi, hins, _⟩
    · exact Or.inl rfl
    · exact Or.inl rfl
    · refine Or.inr ⟨run, key, hw, hexp ▸ requireExperiment_ok hreq, hk, hi, ?_, hstatus, hend⟩
      rw [Table.insert_ok hins]
      rfl

/-- A close that succeeds found the run OPEN and set what it was asked to. -/
theorem RunOp.close_ok {draw : Draw} {i : String} {body : RunCloseRequest} {rep : Reply} {db' : Database}
    (h : (RunOp.close draw i body).run env uuid5 db = .ok (rep, db')) :
    ∃ ended row, toUtc (orNow draw body.endedAt) = .ok ended ∧ row ∈ db.runs ∧ row.runId = i ∧
      row.status = RunStatus.open_.value ∧
      db'.runs = db.runs.map fun r => if r.runId == i then r.closed body.status ended else r := by
  have hw : (Write.closeRun i body.status (orNow draw body.endedAt)).run env db = .ok (rep, db') := h
  obtain ⟨rec, hc, _⟩ := asReply_ok hw
  obtain ⟨ended, row, ht, hf, hopen, rfl, _⟩ := closeRun_ok hc
  exact ⟨ended, row, ht, List.mem_of_find?_eq_some hf, by simpa using List.find?_some hf, hopen, rfl⟩

/-- A close of a run that is no longer open, with an end that has an instant, is refused. -/
theorem RunOp.close_settled (h : WellFormed env db) {draw : Draw} {body : RunCloseRequest}
    {r : RunRow} {u : DateTime}
    (hr : r ∈ db.runs) (hs : r.status ≠ RunStatus.open_.value) (hu : toUtc (orNow draw body.endedAt) = .ok u) :
    ∃ m, (RunOp.close draw r.runId body).run env uuid5 db = .error (immutability m) := by
  have hc : ∃ m, Cer.closeRun db r.runId body.status (orNow draw body.endedAt) = .error (immutability m) := by
    unfold Cer.closeRun
    rw [hu, h.find_run hr]
    exact ⟨_, if_pos hs⟩
  obtain ⟨m, hm⟩ := hc
  refine ⟨m, ?_⟩
  show asReply Reply.run (Cer.closeRun db r.runId body.status (orNow draw body.endedAt)) = _
  rw [hm]
  rfl

/-- An end without an instant is refused as such. -/
theorem RunOp.close_no_instant {draw : Draw} {i : String} {body : RunCloseRequest}
    (hu : ∀ u, toUtc (orNow draw body.endedAt) ≠ .ok u) (m : String) :
    (RunOp.close draw i body).run env uuid5 db ≠ .error (immutability m) := by
  intro h
  cases ht : toUtc (orNow draw body.endedAt) with
  | ok u => exact hu u ht
  | error e =>
    have hc : (RunOp.close draw i body).run env uuid5 db = .error e := by
      show asReply Reply.run (Cer.closeRun db i body.status (orNow draw body.endedAt)) = _
      unfold Cer.closeRun
      rw [ht]
      rfl
    obtain rfl : e = immutability m := Except.error.inj (hc.symm.trans h)
    unfold toUtc at ht
    split at ht
    · cases ht
    · split at ht <;> cases ht

/-- **One step**: a request that is no misfit keeps the runs consistent. -/
theorem RunsConsistent.next (h : RunsConsistent db) {op : RunOp} (hm : ¬ op.Misfit env uuid5 db) :
    RunsConsistent (op.next env uuid5 db) := by
  cases op with
  | create draw i body header =>
    rcases @RunOp.next_create env uuid5 db draw i body header with
      hsame | ⟨run, key, hw, hexp, hk, hi, hruns, hstatus, hend⟩
    · intro r hr
      rw [hsame] at hr
      exact h r hr
    · intro r hr
      rw [hruns, List.mem_append, List.mem_singleton] at hr
      rcases hr with hr | rfl
      · exact h r hr
      · have hopen : body.status = .open_ := by
          by_contra hne
          exact hm ⟨hne, run, key, hw, hexp, hk, hi⟩
        show run.status.value = RunStatus.open_.value ↔ run.endedAt.map dtToStr = none
        rw [hstatus, hopen, hend]
        exact ⟨fun _ => rfl, fun _ => rfl⟩
  | close draw i body =>
    cases hrun : (RunOp.close draw i body).run env uuid5 db with
    | error e =>
      rw [RunOp.next_error hrun]
      exact h
    | ok out =>
      obtain ⟨rep, db'⟩ := out
      rw [RunOp.next_ok hrun]
      obtain ⟨ended, row, ht, hrow, hid, hopen, hruns⟩ := RunOp.close_ok hrun
      have hne : body.status ≠ .open_ := by
        intro hb
        refine hm ⟨row, hrow, hid, ?_⟩
        rw [if_pos hopen]
        exact ⟨hb, ended, ht⟩
      intro r hr
      rw [hruns] at hr
      obtain ⟨x, hx, rfl⟩ := List.mem_map.1 hr
      by_cases hxi : (x.runId == i) = true
      · rw [if_pos hxi]
        show body.status.value = RunStatus.open_.value ↔ some (dtToStr ended) = none
        constructor
        · intro hv
          exact absurd (RunStatus.value_inj hv) hne
        · intro hv
          cases hv
      · rw [if_neg hxi]
        exact h x hx
  | other w valid leaves =>
    cases hrun : (RunOp.other w valid leaves).run env uuid5 db with
    | error e =>
      rw [RunOp.next_error hrun]
      exact h
    | ok out =>
      obtain ⟨rep, db'⟩ := out
      rw [RunOp.next_ok hrun]
      intro r hr
      rw [leavesRuns_effect leaves (effect_of_run hrun)] at hr
      exact h r hr

/-- A row that is not OPEN stays as it is. -/
theorem settled_mem {db' : Database} (h : db.Extends db') {r : RunRow} (hr : r ∈ db.runs)
    (hs : r.status ≠ RunStatus.open_.value) : r ∈ db'.runs := by
  obtain ⟨r', hr', _, hsame | hopen⟩ := h.runs.mem hr
  · rw [← hsame]
    exact hr'
  · exact absurd hopen hs

/-- A close that is no misfit leaves the run CLOSED or FAILED. -/
theorem RunOp.Closes.settled {op : RunOp} {i : String} (hc : op.Closes env uuid5 db i)
    (hm : ¬ op.Misfit env uuid5 db) :
    ∃ r ∈ (op.next env uuid5 db).runs, r.runId = i ∧
      (r.status = RunStatus.closed.value ∨ r.status = RunStatus.failed.value) := by
  obtain ⟨draw, body, rep, db', rfl, hrun⟩ := hc
  obtain ⟨ended, row, ht, hrow, hid, hopen, hruns⟩ := RunOp.close_ok hrun
  rw [RunOp.next_ok hrun, hruns]
  refine ⟨row.closed body.status ended, List.mem_map.2 ⟨row, hrow, if_pos (beq_iff_eq.2 hid)⟩, hid, ?_⟩
  show body.status.value = _ ∨ body.status.value = _
  cases hb : body.status with
  | open_ =>
    refine absurd ⟨row, hrow, hid, ?_⟩ hm
    rw [if_pos hopen]
    exact ⟨hb, ended, ht⟩
  | closed => exact Or.inl rfl
  | failed => exact Or.inr rfl

end step

/-! ## Whole runs -/

section whole
variable {env : Env} {uuid5 : Uuid5}

theorem after_append (a b : List RunOp) : after env uuid5 (a ++ b) = b.foldl (RunOp.next env uuid5)
    (after env uuid5 a) :=
  List.foldl_append

theorem after_snoc (a : List RunOp) (op : RunOp) :
    after env uuid5 (a ++ [op]) = op.next env uuid5 (after env uuid5 a) := by
  rw [after_append]
  rfl

theorem foldl_writes (db : Database) (ops : List RunOp) : Writes env db (ops.foldl (RunOp.next env uuid5) db) := by
  induction ops generalizing db with
  | nil => exact .refl db
  | cons op ops ih => exact (op.writes db).trans (ih _)

theorem after_reachable (ops : List RunOp) : Reachable env (after env uuid5 ops) := foldl_writes _ ops

/-- **Every request a fit**: the runs are consistent in every state. -/
theorem consistent_of_fit {ops : List RunOp}
    (hfit : ∀ before op rest, ops = before ++ op :: rest → ¬ op.Misfit env uuid5 (after env uuid5 before)) :
    RunsConsistent (after env uuid5 ops) := by
  induction ops using List.reverseRecOn with
  | nil =>
    intro r hr
    cases hr
  | append_singleton ops op ih =>
    rw [after_snoc]
    refine RunsConsistent.next (ih fun before o rest h => ?_) (hfit ops op [] rfl)
    refine hfit before o (rest ++ [op]) ?_
    rw [h, List.append_assoc, List.cons_append]

/-- A run that has an end was closed by one of the requests. -/
theorem closed_before {ops : List RunOp} {r : RunRow} (hr : r ∈ (after env uuid5 ops).runs)
    (hend : r.endedAt ≠ none) :
    ∃ before op mid, ops = before ++ op :: mid ∧ op.Closes env uuid5 (after env uuid5 before) r.runId := by
  induction ops using List.reverseRecOn generalizing r with
  | nil => cases hr
  | append_singleton ops op ih =>
    have hold : r ∈ (after env uuid5 ops).runs → ∃ before o mid, ops ++ [op] = before ++ o :: mid ∧
        o.Closes env uuid5 (after env uuid5 before) r.runId := by
      intro hr
      obtain ⟨before, o, mid, rfl, hc⟩ := ih hr hend
      exact ⟨before, o, mid ++ [op], by rw [List.append_assoc, List.cons_append], hc⟩
    rw [after_snoc] at hr
    cases op with
    | create draw i body header =>
      rcases @RunOp.next_create env uuid5 (after env uuid5 ops) draw i body header with
        hsame | ⟨run, key, _, _, _, _, hruns, _, hnone⟩
      · rw [hsame] at hr
        exact hold hr
      · rw [hruns, List.mem_append, List.mem_singleton] at hr
        rcases hr with hr | rfl
        · exact hold hr
        · refine absurd ?_ hend
          show run.endedAt.map dtToStr = none
          rw [hnone]
          rfl
    | close draw i body =>
      cases hrun : (RunOp.close draw i body).run env uuid5 (after env uuid5 ops) with
      | error e =>
        rw [RunOp.next_error hrun] at hr
        exact hold hr
      | ok out =>
        obtain ⟨rep, db'⟩ := out
        rw [RunOp.next_ok hrun] at hr
        obtain ⟨ended, row, _, _, _, _, hruns⟩ := RunOp.close_ok hrun
        rw [hruns] at hr
        obtain ⟨x, hx, rfl⟩ := List.mem_map.1 hr
        by_cases hxi : (x.runId == i) = true
        · -- this request closed it
          rw [if_pos hxi]
          have hid : (x.closed body.status ended).runId = i := beq_iff_eq.1 hxi
          rw [hid]
          exact ⟨ops, _, [], rfl, draw, body, rep, db', rfl, hrun⟩
        · rw [if_neg hxi] at hold hend ⊢
          exact hold hx
    | other w valid leaves =>
      cases hrun : (RunOp.other w valid leaves).run env uuid5 (after env uuid5 ops) with
      | error e =>
        rw [RunOp.next_error hrun] at hr
        exact hold hr
      | ok out =>
        obtain ⟨rep, db'⟩ := out
        rw [RunOp.next_ok hrun, leavesRuns_effect leaves (effect_of_run hrun)] at hr
        exact hold hr

/-- A misfit breaks the life of a run, at once or where it is a close of a run closed before. -/
theorem RunLifecycle.fit {ops : List RunOp} (h : RunLifecycle env uuid5 ops) {before : List RunOp} {op : RunOp}
    {rest : List RunOp} (he : ops = before ++ op :: rest) : ¬ op.Misfit env uuid5 (after env uuid5 before) := by
  intro hm
  have hwf := (@after_reachable env uuid5 before).wellFormed
  have hnext : RunsConsistent (op.next env uuid5 (after env uuid5 before)) := by
    rw [← after_snoc]
    refine h.consistent (before ++ [op]) rest ?_
    rw [he, List.append_assoc, List.singleton_append]
  cases op with
  | create draw i body header =>
    obtain ⟨hne, run, key, hw, hexp, hk, hi⟩ := hm
    obtain ⟨key', _, run', _, _, hwe, hv, _, _, hexpId, hstatus, hend⟩ := createRun_ok hw
    cases hwe
    -- the submission inserts a run that is not OPEN and has no end
    have hexp' : (after env uuid5 before).hasExperiment run.experimentId := hexpId.symm ▸ hexp
    have hins := Submission.run_insert (runSubmission_lawful env (after env uuid5 before) run key) runsTable_keyed
      (runRow_parents (r := run.toRow env key) hexp') (RunRow.bindable _) hk hi
    have hrun : (RunOp.create draw i body header).run env uuid5 (after env uuid5 before) =
        asReply .run ((runSubmission env (after env uuid5 before) run key).run (after env uuid5 before)) := by
      show (createRun uuid5 draw i body header >>= fun w => w.run env (after env uuid5 before)) = _
      rw [hw]
      show asReply Reply.run (requireExperiment (after env uuid5 before) run.experimentId >>= fun _ => _) = _
      rw [requireExperiment_of hexp']
      rfl
    rw [hins] at hrun
    rw [RunOp.next_ok hrun] at hnext
    have hrow := hnext (run.toRow env key) (List.mem_append_right _ (List.mem_singleton_self _))
    have hopen : run.status.value = RunStatus.open_.value :=
      hrow.2 (by show run.endedAt.map dtToStr = none; rw [hend]; rfl)
    exact hne (hstatus ▸ RunStatus.value_inj hopen)
  | close draw i body =>
    obtain ⟨r, hr, rfl, hm⟩ := hm
    by_cases hopen : r.status = RunStatus.open_.value
    · rw [if_pos hopen] at hm
      obtain ⟨hb, u, hu⟩ := hm
      obtain ⟨run, _, hc⟩ := hwf.closeRun_open (s := body.status) hu (hwf.find_run hr) hopen
      have hrun : (RunOp.close draw r.runId body).run env uuid5 (after env uuid5 before) = _ :=
        congrArg (asReply Reply.run) hc
      rw [asReply_mk] at hrun
      rw [RunOp.next_ok hrun] at hnext
      have hrow := hnext (r.closed body.status u) (List.mem_map.2 ⟨r, hr, if_pos (beq_iff_eq.2 rfl)⟩)
      have hnone : some (dtToStr u) = none := hrow.1 (congrArg RunStatus.value hb)
      cases hnone
    · rw [if_neg hopen] at hm
      -- it has an end, so an earlier request closed it: this one had to be refused for that
      have hcons := h.consistent before (.close draw r.runId body :: rest) he
      obtain ⟨b, op, mid, hbe, hc⟩ := closed_before hr fun hn => hopen ((hcons r hr).2 hn)
      have he' : ops = b ++ op :: (mid ++ .close draw r.runId body :: rest) := by
        rw [he, hbe, List.append_assoc, List.cons_append]
      obtain ⟨m, hmsg⟩ := h.final b op mid draw body rest r.runId he' hc
      exact RunOp.close_no_instant hm m hmsg
  | other w valid leaves => exact hm

/-- **The life of a run** is as it should be just where no request is a misfit. -/
theorem run_lifecycle_iff (env : Env) (uuid5 : Uuid5) (ops : List RunOp) : RunLifecycle env uuid5 ops ↔
    ∀ before op rest, ops = before ++ op :: rest → ¬ op.Misfit env uuid5 (after env uuid5 before) := by
  refine ⟨fun h before op rest he => h.fit he, fun hfit => ?_⟩
  have hsettled : ∀ before op mid rest runId, ops = before ++ op :: (mid ++ rest) →
      op.Closes env uuid5 (after env uuid5 before) runId →
      ∃ r ∈ (after env uuid5 (before ++ op :: mid)).runs, r.runId = runId ∧
        (r.status = RunStatus.closed.value ∨ r.status = RunStatus.failed.value) ∧
        r ∈ (after env uuid5 (before ++ [op])).runs := by
    intro before op mid rest runId he hc
    obtain ⟨r, hr, hid, hs⟩ := hc.settled (hfit before op (mid ++ rest) he)
    rw [← after_snoc] at hr
    have hwf := (@after_reachable env uuid5 (before ++ [op])).wellFormed
    have hlater : after env uuid5 (before ++ op :: mid) =
        mid.foldl (RunOp.next env uuid5) (after env uuid5 (before ++ [op])) := by
      rw [← after_append, List.append_assoc, List.singleton_append]
    refine ⟨r, ?_, hid, hs, hr⟩
    rw [hlater]
    refine settled_mem ((foldl_writes _ mid).extends hwf) hr fun hopen => ?_
    rcases hs with hs | hs
    · cases RunStatus.value_inj (hs.symm.trans hopen)
    · cases RunStatus.value_inj (hs.symm.trans hopen)
  refine ⟨fun before rest he => ?_, hsettled, fun before op mid draw body rest runId he hc => ?_⟩
  · refine consistent_of_fit fun b op m hb => hfit b op (m ++ rest) ?_
    rw [he, hb, List.append_assoc, List.cons_append]
  · obtain ⟨r, hr, rfl, hs, _⟩ := hsettled before op mid (.close draw runId body :: rest) runId he hc
    have hopen : r.status ≠ RunStatus.open_.value := by
      intro ho
      rcases hs with hs | hs
      · cases RunStatus.value_inj (hs.symm.trans ho)
      · cases RunStatus.value_inj (hs.symm.trans ho)
    have hne := hfit (before ++ op :: mid) (.close draw r.runId body) rest
      (by rw [he, List.append_assoc, List.cons_append])
    -- no misfit: the end has an instant, and the close is refused for the status
    have hu : ∃ u, toUtc (orNow draw body.endedAt) = .ok u := by
      by_contra hno
      refine hne ⟨r, hr, rfl, ?_⟩
      rw [if_neg hopen]
      intro u hu
      exact hno ⟨u, hu⟩
    obtain ⟨u, hu⟩ := hu
    exact RunOp.close_settled (after_reachable _).wellFormed hr hopen hu

end whole

/-! ## A run created closed -/

def sampleDraw : Draw := ⟨⟨"0123456789abcdef0123456789abcdef", by decide, by decide⟩, sampleTime⟩

/-- A body that asks for a CLOSED run. -/
def sampleClosedRun : RunCreateRequest :=
  { producer := "hsa", status := .closed, startedAt := none, producerVersion := none, gitRepo := none
    gitCommit := none, datasetId := none, datasetVersion := none, datasetRef := none, configHash := none
    configRef := none, environment := none, idempotencyKey := none }

/-- An experiment is created, then a run of it, with status CLOSED. -/
def sampleOps : List RunOp :=
  [.other (.createExperiment sampleExperiment none) sampleExperiment_valid rfl,
    .create sampleDraw "exp_01" sampleClosedRun none]

def sampleUuid5 : Uuid5 := fun _ => sampleDraw.uuid4

theorem sampleClosedRun_create : createRun sampleUuid5 sampleDraw "exp_01" sampleClosedRun none =
    .ok (.createRun
      (runOf "exp_01" "run_0123456789abcdef0123456789abcdef" sampleTime sampleClosedRun).applyProvenance
      none) := by
  decide +kernel

/-- The run is CLOSED and has no end. -/
theorem closed_run_has_no_end : ¬ RunLifecycle .reference sampleUuid5 sampleOps := by
  intro h
  refine @RunLifecycle.fit _ _ sampleOps h
    [.other (.createExperiment sampleExperiment none) sampleExperiment_valid rfl]
    (.create sampleDraw "exp_01" sampleClosedRun none) [] rfl ?_
  refine ⟨by decide, _, none, sampleClosedRun_create, ?_, rfl, rfl⟩
  exact ⟨sampleExperiment.toRow .reference none, List.mem_singleton_self _, rfl⟩

end Cer.Api
