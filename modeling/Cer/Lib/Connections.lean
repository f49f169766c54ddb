import Cer.Lib.Refinement
import Cer.Lib.Transaction

/-!
# Threads on one database, one call of the database after the other

Each thread has at most one cached connection.  A call of a thread's method is let in or
refused, opens the connection where there is none, and then makes its SQL calls one by
one, between those of the other threads.  A BEGIN takes the write lock, which is free
again after COMMIT, ROLLBACK, or a failure that rolls the transaction back.  Any SQL call
may fail, a connection may be closed between two methods, and the process may stop.

The file may be moved away and be put back.  While it is away its open connections go on
working, but a connection opened at its path, or a process started there, would make an
empty file: the machine has neither step, and is of runs in which neither happens.

`machine_refines`: whatever the order of the SQL calls, a run shows what a service shows
that serves each call at one moment.
-/

namespace Connections

open Txn Refinement

variable {T Op D E A : Type}

/-- What a method does once it is let in. -/
inductive Job (D E A : Type)
  /-- BEGIN, a script, COMMIT, on the cached connection. -/
  | transaction (script : Script D E A)
  /-- One SELECT on it. -/
  | read (query : D → Except E A)
  /-- Some SELECTs, BEGIN and ROLLBACK on a connection of its own; `failed` is what it makes of their errors. -/
  | probe (selects : Nat) (failed : E → E) (answer : A)

structure Program (Op D E A : Type) where
  driver : Driver E
  /-- What a method raises before it asks for a connection, given that the file is there, or is not. -/
  refuse : Bool → Op → Option E
  job : Op → Job D E A
  /-- The errors of a failing call. -/
  fault : E → Prop

/-- How far the call of a thread has got. -/
inductive Phase (Op D E A : Type)
  | idle
  | asked (op : Op)
  /-- `left` of the calls that open the connection are still to be made. -/
  | opening (op : Op) (left : Nat)
  | ready (op : Op)
  /-- In a transaction that sees `tx`. -/
  | running (op : Op) (rest : Script D E A) (tx : D)
  /-- `cause` was raised after BEGIN; ROLLBACK is next. -/
  | raised (op : Op) (cause : E) (tx : Option D)
  | probing (op : Op) (left : Nat) (failed : E → E) (answer : A)
  /-- The probe is in a transaction of its own. -/
  | probed (op : Op) (failed : E → E) (answer : A)
  | done (result : Except E A)

/-- The thread's connection holds the write lock. -/
def Phase.Holds : Phase Op D E A → Prop
  | .running _ _ _ | .raised _ _ (some _) | .probed _ _ _ => True
  | _ => False

structure State (T Op D E A : Type) where
  committed : D
  /-- The database file is at its path. -/
  present : Bool
  cached : T → Bool
  phase : T → Phase Op D E A

def State.start (d : D) : State T Op D E A := ⟨d, true, fun _ => false, fun _ => .idle⟩

/-- Nobody holds the write lock. -/
def State.Free (σ : State T Op D E A) : Prop := ∀ t, ¬ (σ.phase t).Holds

variable [DecidableEq T]

def State.to (σ : State T Op D E A) (t : T) (p : Phase Op D E A) : State T Op D E A :=
  { σ with phase := Function.update σ.phase t p }

/-- Where a call goes once it is let in. -/
def Program.enter (P : Program Op D E A) (cached : Bool) (op : Op) : Phase Op D E A :=
  match P.job op with
  | .probe _ _ _ => .opening op P.driver.openCalls
  | _ => if cached then .ready op else .opening op P.driver.openCalls

/-- The machine's steps: one call of the database, or the code between two of them. -/
inductive machine (P : Program Op D E A) : System (State T Op D E A) (Event T Op (Except E A))
  | call (σ : State T Op D E A) (t : T) (op : Op) (at_ : σ.phase t = .idle) :
    machine P σ (some (.call t op)) (σ.to t (.asked op))
  | refuse (σ : State T Op D E A) (t : T) (op : Op) (e : E) (at_ : σ.phase t = .asked op)
    (refused : P.refuse σ.present op = some e) : machine P σ none (σ.to t (.done (.error e)))
  | enter (σ : State T Op D E A) (t : T) (op : Op) (at_ : σ.phase t = .asked op)
    (admitted : P.refuse σ.present op = none) : machine P σ none (σ.to t (P.enter (σ.cached t) op))
  -- opening the connection, where the file is
  | opens (σ : State T Op D E A) (t : T) (op : Op) (left : Nat) (at_ : σ.phase t = .opening op (left + 1))
    (there : σ.present = true) : machine P σ none (σ.to t (.opening op left))
  | openFails (σ : State T Op D E A) (t : T) (op : Op) (left : Nat) (e : E)
    (at_ : σ.phase t = .opening op (left + 1))
    (fails : P.fault e) : machine P σ none (σ.to t (.done (.error (P.driver.opening e))))
  | opened (σ : State T Op D E A) (t : T) (op : Op) (at_ : σ.phase t = .opening op 0)
    (cachedJob : ∀ n f a, P.job op ≠ .probe n f a) :
    machine P σ none { σ.to t (.ready op) with cached := Function.update σ.cached t true }
  | openedProbe (σ : State T Op D E A) (t : T) (op : Op) (n : Nat) (f : E → E) (a : A)
    (at_ : σ.phase t = .opening op 0) (job : P.job op = .probe n f a) :
    machine P σ none (σ.to t (.probing op n f a))
  -- a SELECT outside of a transaction
  | select (σ : State T Op D E A) (t : T) (op : Op) (q : D → Except E A) (at_ : σ.phase t = .ready op)
    (job : P.job op = .read q) : machine P σ none (σ.to t (.done (q σ.committed)))
  | selectFails (σ : State T Op D E A) (t : T) (op : Op) (q : D → Except E A) (e : E) (at_ : σ.phase t = .ready op)
    (job : P.job op = .read q) (fails : P.fault e) : machine P σ none (σ.to t (.done (.error e)))
  -- a transaction
  | begin (σ : State T Op D E A) (t : T) (op : Op) (s : Script D E A) (at_ : σ.phase t = .ready op)
    (job : P.job op = .transaction s) (free : σ.Free) : machine P σ none (σ.to t (.running op s σ.committed))
  | beginFails (σ : State T Op D E A) (t : T) (op : Op) (s : Script D E A) (e : E) (at_ : σ.phase t = .ready op)
    (job : P.job op = .transaction s) (fails : P.fault e) :
    machine P σ none (σ.to t (.done (.error (P.driver.beginning e))))
  | stmt (σ : State T Op D E A) (t : T) (op : Op) (exec : D → Except E D) (next : D → Script D E A) (tx d : D)
    (at_ : σ.phase t = .running op (.stmt exec next) tx) (ok : exec tx = .ok d) :
    machine P σ none (σ.to t (.running op (next d) d))
  | stmtRaises (σ : State T Op D E A) (t : T) (op : Op) (exec : D → Except E D) (next : D → Script D E A) (tx : D)
    (e : E) (at_ : σ.phase t = .running op (.stmt exec next) tx) (raises : exec tx = .error e) :
    machine P σ none (σ.to t (.raised op e (some tx)))
  | stmtFails (σ : State T Op D E A) (t : T) (op : Op) (exec : D → Except E D) (next : D → Script D E A) (tx : D)
    (x : Fault E) (at_ : σ.phase t = .running op (.stmt exec next) tx) (fails : P.fault x.error) :
    machine P σ none (σ.to t (.raised op x.error (if x.aborts then none else some tx)))
  | codeRaises (σ : State T Op D E A) (t : T) (op : Op) (e : E) (tx : D)
    (at_ : σ.phase t = .running op (.ret (.error e)) tx) : machine P σ none (σ.to t (.raised op e (some tx)))
  | commit (σ : State T Op D E A) (t : T) (op : Op) (a : A) (tx : D)
    (at_ : σ.phase t = .running op (.ret (.ok a)) tx) :
    machine P σ none { σ.to t (.done (.ok a)) with committed := tx }
  | commitFails (σ : State T Op D E A) (t : T) (op : Op) (a : A) (tx : D) (x : Fault E)
    (at_ : σ.phase t = .running op (.ret (.ok a)) tx) (fails : P.fault x.error) :
    machine P σ none (σ.to t (.raised op x.error (if x.aborts then none else some tx)))
  | rollback (σ : State T Op D E A) (t : T) (op : Op) (cause : E) (tx : D)
    (at_ : σ.phase t = .raised op cause (some tx)) : machine P σ none (σ.to t (.done (.error cause)))
  | nothingToRollBack (σ : State T Op D E A) (t : T) (op : Op) (cause : E)
    (at_ : σ.phase t = .raised op cause none) :
    machine P σ none (σ.to t (.done (.error P.driver.noTransaction)))
  | rollbackFails (σ : State T Op D E A) (t : T) (op : Op) (cause : E) (tx : Option D) (e : E)
    (at_ : σ.phase t = .raised op cause tx) (fails : P.fault e) : machine P σ none (σ.to t (.done (.error e)))
  -- the probe of a connection of its own
  | probe (σ : State T Op D E A) (t : T) (op : Op) (left : Nat) (f : E → E) (a : A)
    (at_ : σ.phase t = .probing op (left + 1) f a) : machine P σ none (σ.to t (.probing op left f a))
  | probeBegins (σ : State T Op D E A) (t : T) (op : Op) (f : E → E) (a : A) (at_ : σ.phase t = .probing op 0 f a)
    (free : σ.Free) : machine P σ none (σ.to t (.probed op f a))
  | probeFails (σ : State T Op D E A) (t : T) (op : Op) (left : Nat) (f : E → E) (a : A) (e : E)
    (at_ : σ.phase t = .probing op left f a) (fails : P.fault e) : machine P σ none (σ.to t (.done (.error (f e))))
  | probeEnds (σ : State T Op D E A) (t : T) (op : Op) (f : E → E) (a : A) (at_ : σ.phase t = .probed op f a) :
    machine P σ none (σ.to t (.done (.ok a)))
  | probeEndFails (σ : State T Op D E A) (t : T) (op : Op) (f : E → E) (a : A) (e : E)
    (at_ : σ.phase t = .probed op f a) (fails : P.fault e) : machine P σ none (σ.to t (.done (.error (f e))))
  | ret (σ : State T Op D E A) (t : T) (r : Except E A) (at_ : σ.phase t = .done r) :
    machine P σ (some (.ret t r)) (σ.to t .idle)
  -- around the calls
  | close (σ : State T Op D E A) (t : T) (at_ : σ.phase t = .idle) :
    machine P σ none { σ with cached := Function.update σ.cached t false }
  | file (σ : State T Op D E A) (present : Bool) : machine P σ none { σ with present := present }
  -- the process stops, and is started again where the file is
  | crash (σ : State T Op D E A) (there : σ.present = true) :
    machine P σ (some .crash) { σ with cached := fun _ => false, phase := fun _ => .idle }

/-- What a call may be answered with where the database is `d`, and the database it leaves. -/
inductive Program.Serves (P : Program Op D E A) : Op → D → Except E A → D → Prop
  | refused {op : Op} {d : D} {e : E} (present : Bool) (h : P.refuse present op = some e) :
      Serves P op d (.error e) d
  | wrote {op : Op} {d d' : D} {s : Script D E A} {a : A} (job : P.job op = .transaction s)
    (h : s.eval d = .ok (a, d')) : Serves P op d (.ok a) d'
  | raised {op : Op} {d : D} {s : Script D E A} {e : E} (job : P.job op = .transaction s)
      (h : s.eval d = .error e) :
    Serves P op d (.error e) d
  | read {op : Op} {d : D} {q : D → Except E A} (job : P.job op = .read q) : Serves P op d (q d) d
  | probed {op : Op} {d : D} {n : Nat} {f : E → E} {a : A} (job : P.job op = .probe n f a) :
      Serves P op d (.ok a) d
  /-- A call of the database failed. -/
  | failed {op : Op} {d : D} {e x : E} (fault : P.fault x) (h : e = x ∨ e = P.driver.opening x ∨
      e = P.driver.beginning x ∨
      ∃ n f a, P.job op = .probe n f a ∧ e = f x) : Serves P op d (.error e) d
  | lost {op : Op} {d : D} : Serves P op d (.error P.driver.noTransaction) d

/-- A call of the database failed, and its caller says so. -/
def Program.Failed (P : Program Op D E A) (e : E) : Prop :=
  (∃ x, P.fault x ∧ (e = x ∨ e = P.driver.opening x ∨ e = P.driver.beginning x)) ∨ e = P.driver.noTransaction

/-- The program behind a gate that turns a call into one of the program, or refuses it. -/
def Program.behind {Op' : Type} (gate : Op' → Except E Op) (P : Program Op D E A) : Program Op' D E A where
  driver := P.driver
  refuse present op := match gate op with
    | .error e => some e
    | .ok m => P.refuse present m
  job op := match gate op with
    | .error e => .read fun _ => .error e
    | .ok m => P.job m
  fault := P.fault

/-- What the gate lets through is served as before. -/
theorem Program.serves_behind {Op' : Type} {gate : Op' → Except E Op} {P : Program Op D E A} {op : Op'} {d d' : D}
    {r : Except E A} (h : (P.behind gate).Serves op d r d') :
    (∃ m, gate op = .ok m ∧ P.Serves m d r d') ∨
      ∃ e, gate op = .error e ∧ (r = .error e ∨ ∃ x, r = .error x ∧ P.Failed x) ∧ d' = d := by
  cases hgate : gate op with
  | ok m =>
    have hjob : (P.behind gate).job op = P.job m := by
      show (match gate op with | .error e => _ | .ok m => P.job m) = _
      rw [hgate]
    refine Or.inl ⟨m, rfl, ?_⟩
    cases h with
    | refused present h =>
      refine .refused present ?_
      have h' : (match gate op with | .error e => some e | .ok m => P.refuse present m) = _ := h
      rw [hgate] at h'
      exact h'
    | wrote job h => exact .wrote (hjob ▸ job) h
    | raised job h => exact .raised (hjob ▸ job) h
    | read job => exact .read (hjob ▸ job)
    | probed job => exact .probed (hjob ▸ job)
    | failed fault h =>
      rw [hjob] at h
      exact .failed fault h
    | lost => exact .lost
  | error e =>
    have hjob : (P.behind gate).job op = .read fun _ => .error e := by
      show (match gate op with | .error e => _ | .ok m => P.job m) = _
      rw [hgate]
    refine Or.inr ⟨e, rfl, ?_⟩
    cases h with
    | refused present h =>
      have h' : (match gate op with | .error e => some e | .ok m => P.refuse present m) = _ := h
      rw [hgate] at h'
      exact ⟨Or.inl (congrArg Except.error (Option.some.inj h').symm), rfl⟩
    | wrote job h => cases hjob.symm.trans job
    | raised job h => cases hjob.symm.trans job
    | read job =>
      cases hjob.symm.trans job
      exact ⟨Or.inl rfl, rfl⟩
    | probed job => cases hjob.symm.trans job
    | failed fault h =>
      refine ⟨Or.inr ⟨_, rfl, ?_⟩, rfl⟩
      rcases h with rfl | rfl | rfl | ⟨n, f, a, job, rfl⟩
      · exact Or.inl ⟨_, fault, Or.inl rfl⟩
      · exact Or.inl ⟨_, fault, Or.inr (Or.inl rfl)⟩
      · exact Or.inl ⟨_, fault, Or.inr (Or.inr rfl)⟩
      · cases hjob.symm.trans job
    | lost => exact ⟨Or.inr ⟨_, rfl, Or.inr rfl⟩, rfl⟩

/-! ## The invariant -/

/-- The phase of a thread is one that its call may be in while the database is `d`. -/
def Phase.Sound (P : Program Op D E A) (d : D) : Phase Op D E A → Prop
  | .running op rest tx => ∃ s, P.job op = .transaction s ∧ s.eval d = rest.eval tx
  | .raised op cause (some _) =>
    (∃ s, P.job op = .transaction s ∧ s.eval d = .error cause) ∨ P.fault cause
  | .probing op _ f a | .probed op f a => ∃ n, P.job op = .probe n f a
  | _ => True

/-- What the outside knows of a phase. -/
def Phase.progress : Phase Op D E A → Progress Op (Except E A)
  | .idle => .idle
  | .asked op | .opening op _ | .ready op | .running op _ _ | .raised op _ _ | .probing op _ _ _
  | .probed op _ _ =>
    .asked op
  | .done r => .served r

/-- Nobody else publishes while a transaction is open, so every open transaction began on what is committed. -/
structure State.Sound (P : Program Op D E A) (σ : State T Op D E A) : Prop where
  phases : ∀ t, (σ.phase t).Sound P σ.committed
  single : ∀ t t', (σ.phase t).Holds → (σ.phase t').Holds → t = t'

/-- The service that a state of the machine stands for. -/
def State.view (σ : State T Op D E A) : Service T Op (Except E A) D := ⟨σ.committed, fun t => (σ.phase t).progress⟩

section invariant
variable {P : Program Op D E A} {σ : State T Op D E A} {t : T} {op : Op} {p : Phase Op D E A}

/-- Only what holds the lock depends on the database. -/
theorem Phase.Sound.of_not_holds {d : D} (h : p.Sound P d) (hfree : ¬ p.Holds) (d' : D) : p.Sound P d' := by
  cases p with
  | running => exact absurd trivial hfree
  | raised op cause tx => cases tx with
    | none => trivial
    | some _ => exact absurd trivial hfree
  | idle | asked | opening | ready | done => trivial
  | probing => exact h
  | probed => exact h

theorem State.to_phase_ne {u : T} (h : u ≠ t) : (σ.to t p).phase u = σ.phase u := Function.update_of_ne h _ _

theorem State.to_phase_self : (σ.to t p).phase t = p := Function.update_self _ _ _

theorem State.view_to : (σ.to t p).view = σ.view.moved t p.progress σ.committed := by
  show (⟨_, _⟩ : Service T Op (Except E A) D) = ⟨_, _⟩
  congr 1
  funext u
  by_cases hu : u = t
  · subst hu
    rw [State.to_phase_self, Function.update_self]
  · rw [State.to_phase_ne hu, Function.update_of_ne hu]
    rfl

omit [DecidableEq T] in
theorem State.sound_start (d : D) : (State.start d : State T Op D E A).Sound P :=
  ⟨fun _ => trivial, fun _ _ h => h.elim⟩

/-- A thread moves on; it holds the lock only if it did, or if the lock was free. -/
theorem State.Sound.to (h : σ.Sound P) (hp : p.Sound P σ.committed) (hold : p.Holds → (σ.phase t).Holds ∨ σ.Free) :
    (σ.to t p).Sound P := by
  have hother : ∀ u, u ≠ t → ((σ.to t p).phase u).Holds → p.Holds → False := by
    intro u hu hheld hp
    rw [State.to_phase_ne hu] at hheld
    rcases hold hp with ht | hfree
    · exact hu (h.single u t hheld ht)
    · exact hfree u hheld
  constructor
  · intro u
    by_cases hu : u = t
    · subst hu
      rw [State.to_phase_self]
      exact hp
    · rw [State.to_phase_ne hu]
      exact h.phases u
  · intro u v hu hv
    by_cases hut : u = t
    · subst hut
      by_cases hvt : v = u
      · exact hvt.symm
      · rw [State.to_phase_self] at hu
        exact (hother v hvt hv hu).elim
    · by_cases hvt : v = t
      · subst hvt
        rw [State.to_phase_self] at hv
        exact (hother u hut hu hv).elim
      · rw [State.to_phase_ne hut] at hu
        rw [State.to_phase_ne hvt] at hv
        exact h.single u v hu hv

/-- COMMIT: nobody else has a transaction open that could see the difference. -/
theorem State.Sound.publish (h : σ.Sound P) (ht : (σ.phase t).Holds) (d : D) (r : Except E A) :
    State.Sound P { σ.to t (.done r) with committed := d } := by
  have hdone : (σ.to t (.done r)).Sound P := h.to trivial fun hheld => hheld.elim
  refine ⟨fun u => ?_, hdone.single⟩
  refine (hdone.phases u).of_not_holds (fun hu => ?_) d
  by_cases hut : u = t
  · subst hut
    rw [State.to_phase_self] at hu
    exact hu
  · rw [State.to_phase_ne hut] at hu
    exact hut (h.single u t hu ht)

/-! ## The simulation -/

/-- The service can show `l` as well, and the invariant holds afterwards. -/
def Follows (P : Program Op D E A) (σ : State T Op D E A) (l : Option (Event T Op (Except E A)))
    (σ' : State T Op D E A) : Prop :=
  σ'.Sound P ∧ Runs (service P.Serves) σ.view l.toList σ'.view

/-- A step within a call, before it is served. -/
theorem State.Sound.quiet (h : σ.Sound P) (hp : p.Sound P σ.committed) (hold : p.Holds →
    (σ.phase t).Holds ∨ σ.Free)
    (same : p.progress = (σ.phase t).progress) : Follows P σ none (σ.to t p) := by
  refine ⟨h.to hp hold, ?_⟩
  have hview : (σ.to t p).view = σ.view := by
    rw [State.view_to, same]
    show (⟨_, _⟩ : Service T Op (Except E A) D) = ⟨_, _⟩
    congr 1
    exact Function.update_eq_self t _
  rw [hview]
  exact .refl

/-- The step that serves a call. -/
theorem State.Sound.serve (h : σ.Sound P) {r : Except E A} (asked : (σ.phase t).progress = .asked op)
    (legal : P.Serves op σ.committed r σ.committed) : Follows P σ none (σ.to t (.done r)) := by
  refine ⟨h.to trivial fun hheld => hheld.elim, ?_⟩
  rw [State.view_to]
  exact .one (.serve _ t op r _ asked legal)

theorem State.Sound.fail (h : σ.Sound P) {e x : E} (asked : (σ.phase t).progress = .asked op) (fault : P.fault x)
    (he : e = x ∨ e = P.driver.opening x ∨ e = P.driver.beginning x ∨
      ∃ n f a, P.job op = .probe n f a ∧ e = f x) : Follows P σ none (σ.to t (.done (.error e))) :=
  h.serve asked (.failed fault he)

/-- A call of the database fails in the transaction, which may be rolled back by that. -/
theorem State.Sound.stop (h : σ.Sound P) {x : Fault E} {tx : D} (held : (σ.phase t).Holds)
    (asked : (σ.phase t).progress = .asked op) (fault : P.fault x.error) :
    Follows P σ none (σ.to t (.raised op x.error (if x.aborts then none else some tx))) := by
  refine h.quiet ?_ (fun _ => Or.inl held) asked.symm
  cases x.aborts with
  | true => trivial
  | false => exact Or.inr fault

/-- Where a call that was let in goes is a place it may be in, and it holds no lock there. -/
theorem Program.enter_sound (P : Program Op D E A) (cached : Bool) (op : Op) (d : D) :
    (P.enter cached op).Sound P d ∧ ¬ (P.enter cached op).Holds ∧ (P.enter cached op).progress = .asked op := by
  unfold Program.enter
  cases P.job op with
  | probe => exact ⟨trivial, fun h => h, rfl⟩
  | transaction => cases cached <;> exact ⟨trivial, fun h => h, rfl⟩
  | read => cases cached <;> exact ⟨trivial, fun h => h, rfl⟩

/-- Only COMMIT, the answers and a crash are seen; every other step leaves the service where it is. -/
theorem machine_follows (h : σ.Sound P) {l : Option (Event T Op (Except E A))} {σ' : State T Op D E A}
    (hstep : machine P σ l σ') : Follows P σ l σ' := by
  cases hstep with
  | call _ t op at_ =>
    refine ⟨h.to trivial fun hheld => hheld.elim, ?_⟩
    rw [State.view_to]
    exact .one (.call _ t op (by show (σ.phase t).progress = _; rw [at_]; rfl))
  | refuse _ t op e at_ refused => exact h.serve (by rw [at_]; rfl) (.refused _ refused)
  | enter _ t op at_ admitted =>
    obtain ⟨hsound, hfree, hprogress⟩ := P.enter_sound (σ.cached t) op σ.committed
    exact h.quiet hsound (fun hheld => absurd hheld hfree) (by rw [at_]; exact hprogress)
  | opens _ t op left at_ _ => exact h.quiet trivial (fun hheld => hheld.elim) (by rw [at_]; rfl)
  | openFails _ t op left e at_ fails => exact h.fail (by rw [at_]; rfl) fails (Or.inr (Or.inl rfl))
  | opened _ t op at_ job =>
    obtain ⟨hsound, hruns⟩ := h.quiet (p := .ready op) trivial (fun hheld => hheld.elim) (by rw [at_]; rfl)
    exact ⟨⟨hsound.phases, hsound.single⟩, hruns⟩
  | openedProbe _ t op n f a at_ job => exact h.quiet ⟨n, job⟩ (fun hheld => hheld.elim) (by rw [at_]; rfl)
  | select _ t op q at_ job => exact h.serve (by rw [at_]; rfl) (.read job)
  | selectFails _ t op q e at_ job fails => exact h.fail (by rw [at_]; rfl) fails (Or.inl rfl)
  | begin _ t op s at_ job free => exact h.quiet ⟨s, job, rfl⟩ (fun _ => Or.inr free) (by rw [at_]; rfl)
  | beginFails _ t op s e at_ job fails => exact h.fail (by rw [at_]; rfl) fails (Or.inr (Or.inr (Or.inl rfl)))
  | stmt _ t op exec next tx d at_ ok =>
    have hsound := h.phases t
    rw [at_] at hsound
    obtain ⟨s, job, heval⟩ := hsound
    refine h.quiet ⟨s, job, ?_⟩ (fun _ => Or.inl (by rw [at_]; trivial)) (by rw [at_]; rfl)
    rw [heval]
    simp only [Script.eval, ok]
  | stmtRaises _ t op exec next tx e at_ raises =>
    have hsound := h.phases t
    rw [at_] at hsound
    obtain ⟨s, job, heval⟩ := hsound
    refine h.quiet (Or.inl ⟨s, job, ?_⟩) (fun _ => Or.inl (by rw [at_]; trivial)) (by rw [at_]; rfl)
    rw [heval]
    simp only [Script.eval, raises]
  | stmtFails _ t op exec next tx x at_ fails => exact h.stop (by rw [at_]; trivial) (by rw [at_]; rfl) fails
  | codeRaises _ t op e tx at_ =>
    have hsound := h.phases t
    rw [at_] at hsound
    obtain ⟨s, job, heval⟩ := hsound
    exact h.quiet (Or.inl ⟨s, job, heval⟩) (fun _ => Or.inl (by rw [at_]; trivial)) (by rw [at_]; rfl)
  | commit _ t op a tx at_ =>
    have hsound := h.phases t
    rw [at_] at hsound
    obtain ⟨s, job, heval⟩ := hsound
    refine ⟨h.publish (by rw [at_]; trivial) tx _, ?_⟩
    have hview : State.view { σ.to t (.done (.ok a)) with committed := tx } =
      σ.view.moved t (.served (.ok a)) tx :=
      congrArg (fun v : Service T Op (Except E A) D => (⟨tx, v.progress⟩ : Service T Op (Except E A) D))
        State.view_to
    rw [hview]
    exact .one (.serve _ t op _ tx (by show (σ.phase t).progress = _; rw [at_]; rfl) (.wrote job heval))
  | commitFails _ t op a tx x at_ fails => exact h.stop (by rw [at_]; trivial) (by rw [at_]; rfl) fails
  | rollback _ t op cause tx at_ =>
    have hsound := h.phases t
    rw [at_] at hsound
    rcases hsound with ⟨s, job, heval⟩ | fault
    · exact h.serve (by rw [at_]; rfl) (.raised job heval)
    · exact h.fail (by rw [at_]; rfl) fault (Or.inl rfl)
  | nothingToRollBack _ t op cause at_ => exact h.serve (by rw [at_]; rfl) .lost
  | rollbackFails _ t op cause tx e at_ fails => exact h.fail (by rw [at_]; rfl) fails (Or.inl rfl)
  | probe _ t op left f a at_ =>
    have hsound := h.phases t
    rw [at_] at hsound
    exact h.quiet hsound (fun hheld => hheld.elim) (by rw [at_]; rfl)
  | probeBegins _ t op f a at_ free =>
    have hsound := h.phases t
    rw [at_] at hsound
    exact h.quiet hsound (fun _ => Or.inr free) (by rw [at_]; rfl)
  | probeFails _ t op left f a e at_ fails =>
    have hsound := h.phases t
    rw [at_] at hsound
    obtain ⟨n, job⟩ := hsound
    exact h.fail (by rw [at_]; rfl) fails (Or.inr (Or.inr (Or.inr ⟨n, f, a, job, rfl⟩)))
  | probeEnds _ t op f a at_ =>
    have hsound := h.phases t
    rw [at_] at hsound
    obtain ⟨n, job⟩ := hsound
    exact h.serve (by rw [at_]; rfl) (.probed job)
  | probeEndFails _ t op f a e at_ fails =>
    have hsound := h.phases t
    rw [at_] at hsound
    obtain ⟨n, job⟩ := hsound
    exact h.fail (by rw [at_]; rfl) fails (Or.inr (Or.inr (Or.inr ⟨n, f, a, job, rfl⟩)))
  | ret _ t r at_ =>
    refine ⟨h.to trivial fun hheld => hheld.elim, ?_⟩
    rw [State.view_to]
    exact .one (.ret _ t r (by show (σ.phase t).progress = _; rw [at_]; rfl))
  | close _ t at_ => exact ⟨⟨h.phases, h.single⟩, .refl⟩
  | file _ present => exact ⟨⟨h.phases, h.single⟩, .refl⟩
  | crash _ _ =>
    have hstop : service P.Serves σ.view (some (.crash : Event T Op (Except E A))) ⟨σ.committed, fun _ => .idle⟩ :=
      .crash _
    have hsound : State.Sound (T := T) P { σ with cached := fun _ => false, phase := fun _ => .idle } :=
      ⟨fun _ => trivial, fun _ _ hheld => hheld.elim⟩
    exact ⟨hsound, .one hstop⟩

/-- **The machine refines the service**: what the threads see of a run, they see where every call is served at one
moment, and the same is committed in the end. -/
theorem machine_refines (P : Program Op D E A) {d : D} {shown : List (Event T Op (Except E A))}
    (h : Runs (machine P) (State.start d) shown σ) :
    Runs (service P.Serves) ⟨d, fun _ => .idle⟩ shown σ.view ∧ σ.Sound P := by
  have hsim : Simulation (machine P) (service P.Serves) fun (σ : State T Op D E A) a => σ.Sound P ∧
    a = σ.view := by
    rintro σ a l σ' ⟨hsound, rfl⟩ hstep
    obtain ⟨hsound', hruns⟩ := machine_follows hsound hstep
    exact ⟨σ'.view, hruns, hsound', rfl⟩
  obtain ⟨_, hruns, hsound, rfl⟩ := hsim.runs h ⟨State.sound_start d, rfl⟩
  exact ⟨hruns, hsound⟩

end invariant

/-! ## A session alone

What a thread does while the others do nothing is what `transaction` and `read` say. -/

section alone
variable {P : Program Op D E A} {φ : Nat → Option (Fault E)} (faults : ∀ n x, φ n = some x → P.fault x.error)
  {σ : State T Op D E A} {t : T} {op : Op}

theorem State.to_to (σ : State T Op D E A) (t : T) (p q : Phase Op D E A) : (σ.to t p).to t q = σ.to t q := by
  unfold State.to
  dsimp only
  rw [Function.update_idem]

/-- A step of `t` in a state given by where `t` is. -/
theorem Runs.moves {s₀ : State T Op D E A} {p q : Phase Op D E A} (h : Runs (machine P) s₀ [] (σ.to t p))
    (step : machine P (σ.to t p) none ((σ.to t p).to t q)) : Runs (machine P) s₀ [] (σ.to t q) := by
  rw [← State.to_to σ t p q]
  exact .silent h step

include faults in
/-- The calls that open the connection. -/
theorem opening_runs (there : σ.present = true) (t : T) (op : Op) (n left : Nat) :
    Runs (machine P) (σ.to t (.opening op left)) [] (σ.to t (match (calls φ n left).1 with
      | some e => .done (.error (P.driver.opening e))
      | none => .opening op 0)) := by
  induction left generalizing n with
  | zero => exact .refl
  | succ left ih =>
    cases hn : φ n with
    | some x =>
      simp only [calls, hn]
      exact Runs.moves .refl (.openFails _ t op left x.error State.to_phase_self (faults n x hn))
    | none =>
      simp only [calls, hn]
      exact (Runs.moves .refl (.opens _ t op left State.to_phase_self there)).trans (ih (n + 1))

include faults in
/-- The script: it comes to COMMIT, or to ROLLBACK. -/
theorem script_runs (σ : State T Op D E A) (t : T) (op : Op) (s : Script D E A) (d : D) (n : Nat) :
    (∀ e, (s.exec φ d n).result = .error e →
      Runs (machine P) (σ.to t (.running op s d)) [] (σ.to t (.raised op e (s.exec φ d n).tx))) ∧
    (∀ a, (s.exec φ d n).result = .ok a → ∃ d', (s.exec φ d n).tx = some d' ∧
      Runs (machine P) (σ.to t (.running op s d)) [] (σ.to t (.running op (.ret (.ok a)) d'))) := by
  induction s generalizing d n with
  | ret r =>
    constructor
    · rintro e h
      cases h
      exact Runs.moves .refl (.codeRaises _ t op e d State.to_phase_self)
    · rintro a h
      cases h
      exact ⟨d, rfl, .refl⟩
  | stmt exec next ih =>
    cases hn : φ n with
    | some x =>
      simp only [Script.exec, hn]
      refine ⟨fun e h => ?_, fun a h => ?_⟩
      · cases h
        exact Runs.moves .refl (.stmtFails _ t op exec next d x State.to_phase_self (faults n x hn))
      · cases h
    | none =>
      cases hd : exec d with
      | error x =>
        simp only [Script.exec, hn, hd]
        refine ⟨fun e h => ?_, fun a h => ?_⟩
        · cases h
          exact Runs.moves .refl (.stmtRaises _ t op exec next d x State.to_phase_self hd)
        · cases h
      | ok d' =>
        simp only [Script.exec, hn, hd]
        have hstep : Runs (machine P) (σ.to t (.running op (.stmt exec next) d)) []
          (σ.to t (.running op (next d') d')) :=
          Runs.moves .refl (.stmt _ t op exec next d d' State.to_phase_self hd)
        refine ⟨fun e h => hstep.trans ((ih d' d' (n + 1)).1 e h), fun a h => ?_⟩
        obtain ⟨d'', htx, hrun⟩ := (ih d' d' (n + 1)).2 a h
        exact ⟨d'', htx, hstep.trans hrun⟩

include faults in
/-- ROLLBACK, wherever it leads. -/
theorem rollback_runs (σ : State T Op D E A) (t : T) (op : Op) (S : Session D) (cause : E)
    (raised : List (Site E × E))
    (tx : Option D) (hconn : S.conn = some tx) :
    Runs (machine P) (σ.to t (.raised op cause tx)) []
      (σ.to t (.done (rollback P.driver φ S cause raised).result)) := by
  unfold rollback
  cases hn : φ S.clock with
  | some x => exact Runs.moves .refl (.rollbackFails _ t op cause tx x.error State.to_phase_self (faults _ x hn))
  | none =>
    rw [hconn]
    cases tx with
    | none => exact Runs.moves .refl (.nothingToRollBack _ t op cause State.to_phase_self)
    | some d => exact Runs.moves .refl (.rollback _ t op cause d State.to_phase_self)

/-- The state once the thread has its connection. -/
def State.connected (σ : State T Op D E A) (t : T) : State T Op D E A :=
  { σ with cached := Function.update σ.cached t true }

include faults in
theorem connect_runs (op : Op) {S : Session D} (hcached : σ.cached t = S.conn.isSome)
    (there : σ.cached t = false → σ.present = true) (job : ∀ n f a, P.job op ≠ .probe n f a) :
    (∀ e S', connect P.driver φ S = (some e, S') →
      S'.committed = S.committed ∧ S'.conn.isSome = σ.cached t ∧
        Runs (machine P) (σ.to t (P.enter (σ.cached t) op)) [] (σ.to t (.done (.error (P.driver.opening e))))) ∧
    (∀ S', connect P.driver φ S = (none, S') → S'.committed = S.committed ∧ S'.conn = some (S.conn.getD none) ∧
      Runs (machine P) (σ.to t (P.enter (σ.cached t) op)) [] ((σ.connected t).to t (.ready op))) := by
  have henter : P.enter (σ.cached t) op = if σ.cached t then .ready op else .opening op P.driver.openCalls := by
    unfold Program.enter
    cases hj : P.job op with
    | probe n f a => exact absurd hj (job n f a)
    | transaction => rfl
    | read => rfl
  rw [henter]
  unfold connect
  cases hconn : S.conn with
  | some c =>
    rw [hconn] at hcached
    refine ⟨fun e S' h => ?_, fun S' h => ?_⟩
    · cases h
    · cases h
      refine ⟨rfl, hconn, ?_⟩
      have hsame : σ.connected t = σ := by
        unfold State.connected
        rw [show true = σ.cached t from hcached.symm, Function.update_eq_self]
      rw [hsame, if_pos (show σ.cached t = true from hcached)]
      exact .refl
  | none =>
    rw [hconn] at hcached
    have hopen := opening_runs (P := P) faults (there hcached) t op S.clock P.driver.openCalls
    rw [if_neg (by rw [hcached]; exact Bool.false_ne_true)]
    dsimp only
    cases hcalls : calls φ S.clock P.driver.openCalls with
    | mk failed n =>
      rw [hcalls] at hopen
      cases failed with
      | some e =>
        refine ⟨fun e' S' h => ?_, fun S' h => ?_⟩
        · cases h
          exact ⟨rfl, hcached.symm, hopen⟩
        · cases h
      | none =>
        refine ⟨fun e' S' h => ?_, fun S' h => ?_⟩
        · cases h
        · cases h
          refine ⟨rfl, rfl, ?_⟩
          have hstep : machine P (σ.to t (.opening op 0)) none ((σ.connected t).to t (.ready op)) := by
            have h := machine.opened (P := P) (σ.to t (.opening op 0)) t op State.to_phase_self job
            rw [State.to_to] at h
            exact h
          exact .silent hopen hstep

/-- What a session leaves after a call that answered `r`, in the machine. -/
structure State.Leaves (σ : State T Op D E A) (t : T) (r : Except E A) (S : Session D)
    (σ' : State T Op D E A) : Prop where
  committed : σ'.committed = S.committed
  present : σ'.present = σ.present
  cached : σ'.cached t = S.conn.isSome
  others : ∀ u, u ≠ t → σ'.cached u = σ.cached u
  done : σ'.phase = Function.update σ.phase t (.done r)

theorem State.leaves_to {S : Session D} (hcommitted : σ.committed = S.committed)
    (hcached : σ.cached t = S.conn.isSome)
    (r : Except E A) : σ.Leaves t r S (σ.to t (.done r)) :=
  ⟨hcommitted, rfl, hcached, fun _ _ => rfl, rfl⟩

/-- The script and its end. -/
def ending (P : Program Op D E A) (φ : Nat → Option (Fault E)) (S : Session D) (r : Ran D E A) : Outcome D E A :=
  let S := { S with conn := some r.tx, clock := r.clock }
  match r.result with
  | .error e => rollback P.driver φ S e (r.raised.map (Prod.mk .statement))
  | .ok a => commit P.driver φ S a

include faults in
theorem rollback_leaves (op : Op) (S : Session D) (cause : E) (raised : List (Site E × E)) {tx : Option D}
    (hconn : S.conn = some tx) (hcommitted : σ.committed = S.committed) (hcached : σ.cached t = true) :
    ∃ σ', Runs (machine P) (σ.to t (.raised op cause tx)) [] σ' ∧
      σ.Leaves t (rollback P.driver φ S cause raised).result
        (rollback P.driver φ S cause raised : Outcome D E A).session
        σ' := by
  refine ⟨_, rollback_runs faults σ t op S cause raised tx hconn, ?_⟩
  obtain ⟨e, raised', heq, _⟩ := @rollback_spec D E A P.driver φ S cause raised
  rw [heq]
  exact State.leaves_to (by exact hcommitted) (by exact hcached) _

include faults in
theorem ending_runs (op : Op) {S : Session D} (hcommitted : σ.committed = S.committed)
    (hcached : σ.cached t = true)
    (s : Script D E A) (d : D) (n : Nat) :
    ∃ σ', Runs (machine P) (σ.to t (.running op s d)) [] σ' ∧
      σ.Leaves t (ending P φ S (s.exec φ d n)).result (ending P φ S (s.exec φ d n)).session σ' := by
  obtain ⟨hraises, hreturns⟩ := script_runs (P := P) faults σ t op s d n
  unfold ending
  cases hres : (s.exec φ d n).result with
  | error e =>
    obtain ⟨σ', hrun, hleaves⟩ := rollback_leaves (P := P) faults op
      { S with conn := some (s.exec φ d n).tx, clock := (s.exec φ d n).clock } e
      ((s.exec φ d n).raised.map (Prod.mk .statement)) rfl hcommitted hcached
    exact ⟨σ', (hraises e hres).trans hrun, hleaves⟩
  | ok a =>
    obtain ⟨d', htx, hrun⟩ := hreturns a hres
    dsimp only
    rw [htx]
    cases hn : φ (s.exec φ d n).clock with
    | none =>
      rw [commit_calm rfl (by exact hn)]
      refine ⟨_, .silent hrun (.commit _ t op a d' State.to_phase_self), rfl, rfl, hcached,
        fun _ _ => rfl, ?_⟩
      show Function.update (Function.update σ.phase t _) t _ = _
      rw [Function.update_idem]
    | some x =>
      rw [commit_not_calm (by exact hn)]
      have hstop := Runs.moves hrun (.commitFails _ t op a d' x State.to_phase_self (faults _ x hn))
      have hconn : (if x.aborts then some none else some (some d')) = some (if x.aborts then none
        else some d') := by
        cases x.aborts <;> rfl
      obtain ⟨σ', hrun', hleaves⟩ := rollback_leaves (P := P) faults op
        ⟨S.committed, if x.aborts then some none else some (some d'), (s.exec φ d n).clock + 1⟩ x.error
        [(.commit, x.error)] hconn hcommitted hcached
      exact ⟨σ', hstop.trans hrun', hleaves⟩

include faults in
/-- A session's transaction is a run of the machine in which only its thread moves. -/
theorem transaction_runs {S : Session D} (hidle : S.Idle) (hcommitted : σ.committed = S.committed)
    (hcached : σ.cached t = S.conn.isSome) (there : σ.cached t = false → σ.present = true)
    (hfree : ∀ u, u ≠ t → ¬ (σ.phase u).Holds) (hat : σ.phase t = .asked op)
    (admitted : P.refuse σ.present op = none) {s : Script D E A} (job : P.job op = .transaction s) :
    ∃ σ', Runs (machine P) σ [] σ' ∧
      σ.Leaves t (transaction P.driver φ S s).result (transaction P.driver φ S s).session σ' := by
  have henter : Runs (machine P) σ [] (σ.to t (P.enter (σ.cached t) op)) :=
    .silent .refl (.enter σ t op hat admitted)
  have hnone : ∀ n f a, P.job op ≠ .probe n f a := by
    intro n f a h
    rw [job] at h
    cases h
  obtain ⟨hfails, hopens⟩ := connect_runs faults op hcached there hnone
  unfold transaction
  cases hconnect : connect P.driver φ S with
  | mk failed S₁ =>
    cases failed with
    | some e =>
      obtain ⟨h₁, h₂, hrun⟩ := hfails e S₁ hconnect
      exact ⟨_, henter.trans hrun, State.leaves_to (hcommitted.trans h₁.symm) h₂.symm _⟩
    | none =>
      obtain ⟨h₁, h₂, hrun⟩ := hopens S₁ hconnect
      have hready := henter.trans hrun
      have hconn₁ : S₁.conn = some none := by
        cases hc : S.conn with
        | none => rw [h₂, hc]; rfl
        | some c => cases c with
          | none => rw [h₂, hc]; rfl
          | some d => exact absurd hc (hidle d)
      have hcached₁ : (σ.connected t).cached t = true := Function.update_self _ _ _
      have hfree₁ : State.Free ((σ.connected t).to t (.ready op)) := by
        intro u hu
        by_cases hut : u = t
        · subst hut
          rw [State.to_phase_self] at hu
          exact hu
        · rw [State.to_phase_ne hut] at hu
          exact hfree u hut hu
      have hsame : ∀ r, State.Leaves σ t r { S₁ with clock := S₁.clock + 1 }
        ((σ.connected t).to t (.done r)) := fun r =>
        ⟨hcommitted.trans h₁.symm, rfl, by rw [hconn₁]; exact hcached₁,
          fun u hu => Function.update_of_ne hu _ _, rfl⟩
      dsimp only
      cases hn : φ S₁.clock with
      | some x =>
        have hbegin : begin P.driver φ S₁ = (some x.error, { S₁ with clock := S₁.clock + 1 }) := begin_not_calm hn
        rw [hbegin]
        refine ⟨_, Runs.moves hready
          (.beginFails _ t op s x.error State.to_phase_self job (faults _ x hn)), hsame _⟩
      | none =>
        rw [begin_calm hconn₁ hn]
        dsimp only
        have hrunning : Runs (machine P) σ [] ((σ.connected t).to t (.running op s S.committed)) := by
          rw [← hcommitted]
          exact Runs.moves hready (.begin _ t op s State.to_phase_self job hfree₁)
        rw [h₁]
        obtain ⟨σ', hrun', hleaves⟩ := ending_runs (P := P) (σ := σ.connected t) (t := t) faults op
          (S := ⟨S.committed, some (some S.committed), S₁.clock + 1⟩) hcommitted hcached₁ s S.committed
          (S₁.clock + 1)
        exact ⟨σ', hrunning.trans hrun', hleaves.committed, hleaves.present, hleaves.cached,
          fun u hu => (hleaves.others u hu).trans (Function.update_of_ne hu _ _), hleaves.done⟩

include faults in
/-- So is its SELECT. -/
theorem read_runs {S : Session D} (hcommitted : σ.committed = S.committed) (hcached : σ.cached t = S.conn.isSome)
    (there : σ.cached t = false → σ.present = true) (hat : σ.phase t = .asked op)
    (admitted : P.refuse σ.present op = none) {q : D → Except E A}
    (job : P.job op = .read q) :
    ∃ σ', Runs (machine P) σ [] σ' ∧ σ.Leaves t (read P.driver φ S q).result (read P.driver φ S q).session σ' := by
  have henter : Runs (machine P) σ [] (σ.to t (P.enter (σ.cached t) op)) :=
    .silent .refl (.enter σ t op hat admitted)
  have hnone : ∀ n f a, P.job op ≠ .probe n f a := by
    intro n f a h
    rw [job] at h
    cases h
  obtain ⟨hfails, hopens⟩ := connect_runs faults op hcached there hnone
  unfold Txn.read
  cases hconnect : connect P.driver φ S with
  | mk failed S₁ =>
    cases failed with
    | some e =>
      obtain ⟨h₁, h₂, hrun⟩ := hfails e S₁ hconnect
      exact ⟨_, henter.trans hrun, State.leaves_to (hcommitted.trans h₁.symm) h₂.symm _⟩
    | none =>
      obtain ⟨h₁, h₂, hrun⟩ := hopens S₁ hconnect
      have hready := henter.trans hrun
      have hcached₁ : (σ.connected t).cached t = S₁.conn.isSome := by
        rw [h₂]
        exact Function.update_self _ _ _
      dsimp only
      cases hn : φ S₁.clock with
      | some x =>
        refine ⟨_, Runs.moves hready (.selectFails _ t op q x.error State.to_phase_self job (faults _ x hn)), ?_⟩
        exact ⟨hcommitted.trans h₁.symm, rfl, hcached₁, fun u hu => Function.update_of_ne hu _ _, rfl⟩
      | none =>
        have hselect := Runs.moves hready (.select _ t op q State.to_phase_self job)
        rw [show State.committed ((σ.connected t).to t (.ready op)) =
          S₁.committed from hcommitted.trans h₁.symm] at hselect
        exact ⟨_, hselect, hcommitted.trans h₁.symm, rfl, hcached₁, fun u hu => Function.update_of_ne hu _ _, rfl⟩

/-- The probe alone: its answer, or what the call that fails makes it raise. -/
def probeResult (P : Program Op D E A) (φ : Nat → Option (Fault E)) (clock selects : Nat)
    (failed : E → E) (a : A) :
    Except E A :=
  match calls φ clock P.driver.openCalls with
  | (some e, _) => .error (P.driver.opening e)
  | (none, n) => match calls φ n (selects + 2) with
    | (some e, _) => .error (failed e)
    | (none, _) => .ok a

include faults in
/-- The calls of the probe, from the `n`-th on. -/
theorem probing_runs (σ : State T Op D E A) (t : T) (op : Op) (hfree : ∀ u, u ≠ t → ¬ (σ.phase u).Holds)
    (n left : Nat) (f : E → E) (a : A) :
    Runs (machine P) (σ.to t (.probing op left f a)) [] (σ.to t (.done (match (calls φ n (left + 2)).1 with
      | some e => .error (f e)
      | none => .ok a))) := by
  induction left generalizing n with
  | zero =>
    have hfree' : State.Free (σ.to t (.probing op 0 f a)) := by
      intro u hu
      by_cases hut : u = t
      · subst hut
        rw [State.to_phase_self] at hu
        exact hu
      · rw [State.to_phase_ne hut] at hu
        exact hfree u hut hu
    cases hn : φ n with
    | some x =>
      simp only [calls, hn]
      exact Runs.moves .refl (.probeFails _ t op 0 f a x.error State.to_phase_self (faults n x hn))
    | none =>
      have hbegun : Runs (machine P) (σ.to t (.probing op 0 f a)) [] (σ.to t (.probed op f a)) :=
        Runs.moves .refl (.probeBegins _ t op f a State.to_phase_self hfree')
      cases hn' : φ (n + 1) with
      | some x =>
        simp only [calls, hn, hn']
        exact Runs.moves hbegun (.probeEndFails _ t op f a x.error State.to_phase_self (faults _ x hn'))
      | none =>
        simp only [calls, hn, hn']
        exact Runs.moves hbegun (.probeEnds _ t op f a State.to_phase_self)
  | succ left ih =>
    rw [show left + 1 + 2 = (left + 2) + 1 by omega]
    cases hn : φ n with
    | some x =>
      simp only [calls, hn]
      exact Runs.moves .refl (.probeFails _ t op (left + 1) f a x.error State.to_phase_self (faults n x hn))
    | none =>
      have hrest := ih (n + 1)
      rw [calls]
      simp only [hn]
      exact (Runs.moves .refl (.probe _ t op left f a State.to_phase_self)).trans hrest

include faults in
/-- And its probe. -/
theorem probe_runs (there : σ.present = true) (hat : σ.phase t = .asked op)
    (admitted : P.refuse σ.present op = none)
    (hfree : ∀ u, u ≠ t → ¬ (σ.phase u).Holds) {selects : Nat} {f : E → E} {a : A}
    (job : P.job op = .probe selects f a)
    (clock : Nat) :
    Runs (machine P) σ [] (σ.to t (.done (probeResult P φ clock selects f a))) := by
  have henter : Runs (machine P) σ [] (σ.to t (.opening op P.driver.openCalls)) := by
    have h : Runs (machine P) σ [] (σ.to t (P.enter (σ.cached t) op)) := .silent .refl (.enter σ t op hat admitted)
    unfold Program.enter at h
    rw [job] at h
    exact h
  have hopen := opening_runs (P := P) faults there t op clock P.driver.openCalls
  unfold probeResult
  cases hcalls : calls φ clock P.driver.openCalls with
  | mk failed n =>
    rw [hcalls] at hopen
    cases failed with
    | some e => exact henter.trans hopen
    | none =>
      have hprobing := Runs.moves (henter.trans hopen) (.openedProbe _ t op selects f a State.to_phase_self job)
      have hrest := probing_runs (P := P) faults σ t op hfree n selects f a
      dsimp only
      cases hrun : calls φ n (selects + 2) with
      | mk failed' n' =>
        rw [hrun] at hrest
        cases failed' with
        | some e => exact hprobing.trans hrest
        | none => exact hprobing.trans hrest

end alone

/-- A thread that is left alone, and none of whose SQL calls raises, is answered as its script evaluates. -/
theorem quiet_runs {P : Program Op D E A} {σ : State T Op D E A} {t : T} {op : Op} (there : σ.present = true)
    (hfree : ∀ u, u ≠ t → ¬ (σ.phase u).Holds) (hat : σ.phase t = .asked op)
    (admitted : P.refuse σ.present op = none)
    {s : Script D E A} (job : P.job op = .transaction s) :
    ∃ (r : Except E A) (σ' : State T Op D E A), Runs (machine P) σ [.ret t r] σ' ∧ σ'.present = σ.present ∧
      σ'.phase = Function.update σ.phase t .idle ∧
      ((∃ a, r = .ok a ∧ s.eval σ.committed = .ok (a, σ'.committed)) ∨
        ∃ e, r = .error e ∧ s.eval σ.committed = .error e ∧ σ'.committed = σ.committed) := by
  have hfaults : ∀ n x, (fun _ => none : Nat → Option (Fault E)) n = some x → P.fault x.error :=
    fun n x h => by cases h
  have hidle : (⟨σ.committed, if σ.cached t then some none else none, 0⟩ : Session D).Idle := by
    intro d h
    cases hc : σ.cached t <;> rw [hc] at h <;> cases h
  have hcached : σ.cached t = (if σ.cached t then some (none : Option D) else none).isSome := by
    cases σ.cached t <;> rfl
  obtain ⟨σ', hrun, hleaves⟩ := transaction_runs hfaults hidle rfl hcached (fun _ => there) hfree hat admitted job
  have hended := transaction_ended (δ := P.driver) (φ := fun _ => none) hidle s
  generalize transaction P.driver (fun _ => none) _ s = o at hended hleaves
  have hdone : σ'.phase t = .done o.result := by
    rw [hleaves.done, Function.update_self]
  refine ⟨o.result, σ'.to t .idle, .shows hrun (.ret σ' t _ hdone), hleaves.present, ?_, ?_⟩
  · show Function.update σ'.phase t _ = _
    rw [hleaves.done, Function.update_idem]
  · have hcommitted : (σ'.to t .idle).committed = o.session.committed := hleaves.committed
    rw [hcommitted]
    cases hended with
    | unopened _ _ _ raises => cases raises
    | unbegun _ _ _ raises => cases raises
    | stopped _ _ _ _ _ _ raises => cases raises
    | stuck _ _ _ _ _ raises => cases raises
    | undone _ cause _ _ raise _ => exact Or.inr ⟨cause, rfl, raise, rfl⟩
    | committed _ a d _ returns => exact Or.inl ⟨a, rfl, returns⟩

/-- What its script returns. -/
theorem commits_runs {P : Program Op D E A} {σ : State T Op D E A} {t : T} {op : Op} (there : σ.present = true)
    (hfree : ∀ u, u ≠ t → ¬ (σ.phase u).Holds) (hat : σ.phase t = .asked op)
    (admitted : P.refuse σ.present op = none)
    {s : Script D E A} (job : P.job op = .transaction s) {a : A} {d : D}
    (heval : s.eval σ.committed = .ok (a, d)) :
    ∃ σ', Runs (machine P) σ [.ret t (.ok a)] σ' ∧ σ'.committed = d ∧ σ'.present = σ.present ∧
      σ'.phase = Function.update σ.phase t .idle := by
  obtain ⟨r, σ', hrun, hpresent, hphase, ⟨b, rfl, hok⟩ | ⟨e, _, herror, _⟩⟩ :=
    quiet_runs there hfree hat admitted job
  · obtain ⟨rfl, rfl⟩ := Prod.mk.inj (Except.ok.inj (heval.symm.trans hok))
    exact ⟨σ', hrun, rfl, hpresent, hphase⟩
  · cases heval.symm.trans herror

/-- What its script raises. -/
theorem refuses_runs {P : Program Op D E A} {σ : State T Op D E A} {t : T} {op : Op} (there : σ.present = true)
    (hfree : ∀ u, u ≠ t → ¬ (σ.phase u).Holds) (hat : σ.phase t = .asked op)
    (admitted : P.refuse σ.present op = none)
    {s : Script D E A} (job : P.job op = .transaction s) {e : E} (heval : s.eval σ.committed = .error e) :
    ∃ σ', Runs (machine P) σ [.ret t (.error e)] σ' ∧ σ'.committed = σ.committed ∧ σ'.present = σ.present ∧
      σ'.phase = Function.update σ.phase t .idle := by
  obtain ⟨r, σ', hrun, hpresent, hphase, ⟨b, _, hok⟩ | ⟨e', rfl, herror, hsame⟩⟩ :=
    quiet_runs there hfree hat admitted job
  · cases heval.symm.trans hok
  · obtain rfl := Except.error.inj (heval.symm.trans herror)
    exact ⟨σ', hrun, hsame, hpresent, hphase⟩

end Connections
