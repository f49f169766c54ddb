import Mathlib.Data.List.Basic

/-!
# Transactions over a connection whose calls may fail

A `Script` is what a transaction does between its BEGIN and its COMMIT: statements, and
between them code that looks at their rows, returns or raises.  `eval` is the script
where no call fails.  `exec` runs it under `φ`, which says of the n-th call whether it
raises, and `transaction` puts it between opening the connection, BEGIN, and COMMIT or
ROLLBACK.

Two rules cover every script: `transaction_ended`, the ways in which it ends and which error
leaves it when a call raised, and `transaction_atomic`, what is committed and that the
connection is left idle.
-/

namespace Txn

variable {D E A B : Type}

/-! ## Scripts -/

inductive Script (D E A : Type)
  | ret (result : Except E A)
  /-- A statement, and what follows on the database it leaves. -/
  | stmt (exec : D → Except E D) (next : D → Script D E A)

def Script.bind : Script D E A → (A → Script D E B) → Script D E B
  | .ret (.ok a), k => k a
  | .ret (.error e), _ => .ret (.error e)
  | .stmt exec next, k => .stmt exec fun d => (next d).bind k

instance : Monad (Script D E) where
  pure a := .ret (.ok a)
  bind := Script.bind

def ofExcept (r : Except E A) : Script D E A := .ret r

/-- A statement that only reads. -/
def select (query : D → A) : Script D E A := .stmt .ok fun d => .ret (.ok (query d))

/-- A statement that writes. -/
def execute (exec : D → Except E D) : Script D E Unit := .stmt exec fun _ => .ret (.ok ())

def Script.eval : Script D E A → D → Except E (A × D)
  | .ret r, d => r.map fun a => (a, d)
  | .stmt exec next, d => match exec d with
    | .error e => .error e
    | .ok d' => (next d').eval d'

/-- How many statements the script makes where none of them fails to be made. -/
def Script.calls : Script D E A → D → Nat
  | .ret _, _ => 0
  | .stmt exec next, d => match exec d with
    | .error _ => 1
    | .ok d' => (next d').calls d' + 1

@[simp] theorem eval_pure (a : A) (d : D) : (pure a : Script D E A).eval d = .ok (a, d) := rfl

@[simp] theorem eval_ofExcept (r : Except E A) (d : D) : (ofExcept r).eval d = r.map fun a => (a, d) := rfl

@[simp] theorem eval_select (query : D → A) (d : D) : (select query : Script D E A).eval d =
    .ok (query d, d) := rfl

@[simp] theorem eval_execute (exec : D → Except E D) (d : D) :
    (execute exec).eval d = (exec d).map fun d' => ((), d') := by
  unfold execute
  simp only [Script.eval]
  cases exec d <;> rfl

@[simp] theorem eval_bind (s : Script D E A) (k : A → Script D E B) (d : D) :
    (s >>= k).eval d = s.eval d >>= fun x => (k x.1).eval x.2 := by
  show (s.bind k).eval d = _
  induction s generalizing d with
  | ret r =>
    cases r with
    | error e => rfl
    | ok a => rfl
  | stmt exec next ih =>
    simp only [Script.bind, Script.eval]
    cases exec d with
    | error e => rfl
    | ok d' => exact ih d' d'

/-! ## Calls that fail -/

structure Fault (E : Type) where
  error : E
  /-- The transaction is rolled back along with the failure. -/
  aborts : Bool

/-- A script that has run, or has been stopped by a call that raised. -/
structure Ran (D E A : Type) where
  result : Except E A
  raised : List E
  /-- The database the transaction sees, if it is still open. -/
  tx : Option D
  clock : Nat

section faults
variable (φ : Nat → Option (Fault E))

def Script.exec : Script D E A → D → Nat → Ran D E A
  | .ret r, d, n => ⟨r, [], some d, n⟩
  | .stmt exec next, d, n => match φ n with
    | some x => ⟨.error x.error, [x.error], if x.aborts then none else some d, n + 1⟩
    | none => match exec d with
      | .error e => ⟨.error e, [e], some d, n + 1⟩
      | .ok d' => (next d').exec d' (n + 1)

/-- `count` calls from the `n`-th on: what the first that raises raises, and the calls made. -/
def calls (n : Nat) : Nat → Option E × Nat
  | 0 => (none, n)
  | count + 1 => match φ n with
    | some x => (some x.error, n + 1)
    | none => calls (n + 1) count

/-- None of `count` calls from the `n`-th on raises. -/
def Calm (n count : Nat) : Prop := ∀ i < count, φ (n + i) = none

end faults

section calm
variable {φ : Nat → Option (Fault E)}

theorem Calm.head {n count : Nat} (h : Calm φ n (count + 1)) : φ n = none := h 0 (Nat.succ_pos count)

theorem Calm.tail {n count : Nat} (h : Calm φ n (count + 1)) : Calm φ (n + 1) count := by
  intro i hi
  have := h (i + 1) (by omega)
  rwa [show n + (i + 1) = n + 1 + i by omega] at this

theorem calm_succ {n count : Nat} : Calm φ n (count + 1) ↔ φ n = none ∧ Calm φ (n + 1) count := by
  refine ⟨fun h => ⟨h.head, h.tail⟩, fun ⟨hn, h⟩ i hi => ?_⟩
  cases i with
  | zero => exact hn
  | succ i =>
    have := h i (by omega)
    rwa [show n + 1 + i = n + (i + 1) by omega] at this

theorem calm_zero (n : Nat) : Calm φ n 0 := fun _ h => absurd h (Nat.not_lt_zero _)

theorem calm_add {n a b : Nat} : Calm φ n (a + b) ↔ Calm φ n a ∧ Calm φ (n + a) b := by
  constructor
  · intro h
    refine ⟨fun i hi => h i (by omega), fun i hi => ?_⟩
    have := h (a + i) (by omega)
    rwa [← Nat.add_assoc] at this
  · rintro ⟨ha, hb⟩ i hi
    by_cases hia : i < a
    · exact ha i hia
    · have := hb (i - a) (by omega)
      rwa [show n + a + (i - a) = n + i by omega] at this

theorem calls_calm {n count : Nat} (h : Calm φ n count) : calls φ n count = (none, n + count) := by
  induction count generalizing n with
  | zero => rfl
  | succ count ih =>
    simp only [calls, h.head]
    rw [ih h.tail, Nat.add_right_comm, Nat.add_assoc]

theorem calls_not_calm {n count : Nat} (h : ¬ Calm φ n count) :
    ∃ m x, φ m = some x ∧ calls φ n count = (some x.error, m + 1) := by
  induction count generalizing n with
  | zero => exact absurd (calm_zero n) h
  | succ count ih =>
    cases hn : φ n with
    | some x => exact ⟨n, x, hn, by simp only [calls, hn]⟩
    | none =>
      obtain ⟨m, x, hm, hc⟩ := ih fun ht => h (calm_succ.2 ⟨hn, ht⟩)
      exact ⟨m, x, hm, by simp only [calls, hn]; exact hc⟩

/-- Where none of its statements fails, a script does what `eval` says. -/
structure Ran.Completes (r : Ran D E A) (s : Script D E A) (d : D) (n : Nat) : Prop where
  clock : r.clock = n + s.calls d
  result : r.result = (s.eval d).map Prod.fst
  raised : ∀ e ∈ r.raised, s.eval d = .error e
  returned : ∀ a d', s.eval d = .ok (a, d') → r.tx = some d'
  open_ : ∃ d', r.tx = some d'

theorem exec_calm (s : Script D E A) {d : D} {n : Nat} (h : Calm φ n (s.calls d)) :
    (s.exec φ d n).Completes s d n := by
  induction s generalizing d n with
  | ret r =>
    refine ⟨rfl, ?_, fun e he => ?_, fun a d' ha => ?_, d, rfl⟩
    · cases r <;> rfl
    · cases he
    · cases r with
      | error e => cases ha
      | ok b =>
        cases ha
        rfl
  | stmt exec next ih =>
    cases hd : exec d with
    | error e =>
      have hc : (Script.stmt exec next).calls d = 1 := by simp only [Script.calls, hd]
      have he : (Script.stmt exec next).eval d = .error e := by simp only [Script.eval, hd]
      rw [hc] at h
      have hx : (Script.stmt exec next).exec φ d n = ⟨.error e, [e], some d, n + 1⟩ := by
        simp only [Script.exec, h.head, hd]
      rw [hx]
      refine ⟨by rw [hc], by rw [he]; rfl, fun x hmem => ?_, fun a d' ha => ?_, d, rfl⟩
      · rw [List.mem_singleton.1 hmem]
        exact he
      · rw [he] at ha
        cases ha
    | ok d' =>
      have hc : (Script.stmt exec next).calls d = (next d').calls d' + 1 := by simp only [Script.calls, hd]
      have he : (Script.stmt exec next).eval d = (next d').eval d' := by simp only [Script.eval, hd]
      rw [hc] at h
      have hx : (Script.stmt exec next).exec φ d n = (next d').exec φ d' (n + 1) := by
        simp only [Script.exec, h.head, hd]
      have hn := ih d' h.tail
      rw [hx]
      refine ⟨?_, by rw [he]; exact hn.result, fun x hmem => ?_, fun a d'' ha => ?_, hn.open_⟩
      · rw [hn.clock, hc]
        omega
      · rw [he]
        exact hn.raised x hmem
      · rw [he] at ha
        exact hn.returned a d'' ha

/-- The first statement that fails ends the script with its error. -/
theorem exec_not_calm (s : Script D E A) {d : D} {n : Nat} (h : ¬ Calm φ n (s.calls d)) :
    ∃ m x, φ m = some x ∧ (s.exec φ d n).result = .error x.error ∧ (s.exec φ d n).raised = [x.error] := by
  induction s generalizing d n with
  | ret r => exact absurd (calm_zero n) h
  | stmt exec next ih =>
    cases hn : φ n with
    | some x => exact ⟨n, x, hn, by simp only [Script.exec, hn], by simp only [Script.exec, hn]⟩
    | none =>
      cases hd : exec d with
      | error e =>
        have hc : (Script.stmt exec next).calls d = 1 := by simp only [Script.calls, hd]
        rw [hc] at h
        exact absurd (calm_succ.2 ⟨hn, calm_zero _⟩) h
      | ok d' =>
        have hc : (Script.stmt exec next).calls d = (next d').calls d' + 1 := by simp only [Script.calls, hd]
        rw [hc] at h
        have hx : (Script.stmt exec next).exec φ d n = (next d').exec φ d' (n + 1) := by
          simp only [Script.exec, hn, hd]
        rw [hx]
        exact ih d' fun ht => h (calm_succ.2 ⟨hn, ht⟩)

end calm

/-! ## Sessions -/

/-- A thread's connection to a database, and the number of calls made on it. -/
structure Session (D : Type) where
  committed : D
  /-- The cached connection, if there is one, and what its transaction sees, if one is open. -/
  conn : Option (Option D)
  clock : Nat

/-- No transaction is open on the cached connection. -/
def Session.Idle (σ : Session D) : Prop := ∀ d, σ.conn ≠ some (some d)

/-- What the code around the connection makes of its errors. -/
structure Driver (E : Type) where
  /-- The calls that open a connection. -/
  openCalls : Nat
  /-- What leaves where one of them raises. -/
  opening : E → E
  /-- What leaves where BEGIN raises. -/
  beginning : E → E
  /-- BEGIN within a transaction. -/
  nested : E
  /-- COMMIT or ROLLBACK outside of one. -/
  noTransaction : E

inductive Site (E : Type)
  | opening
  | begin
  | statement
  | commit
  /-- The ROLLBACK that an error has caused. -/
  | rollback (cause : E)
  | probe

structure Outcome (D E A : Type) where
  result : Except E A
  /-- The calls that raised, with what each raised. -/
  raised : List (Site E × E)
  session : Session D

section session
variable (δ : Driver E) (φ : Nat → Option (Fault E))

/-- The cached connection, or a new one, which is then cached. -/
def connect (σ : Session D) : Option E × Session D :=
  match σ.conn with
  | some _ => (none, σ)
  | none => match calls φ σ.clock δ.openCalls with
    | (some e, n) => (some e, { σ with clock := n })
    | (none, n) => (none, { σ with conn := some none, clock := n })

def begin (σ : Session D) : Option E × Session D :=
  let σ' := { σ with clock := σ.clock + 1 }
  match φ σ.clock with
  | some x => (some x.error, σ')
  | none => match σ.conn with
    | some (some _) => (some δ.nested, σ')
    | _ => (none, { σ' with conn := some (some σ.committed) })

/-- `except: ROLLBACK; raise`. -/
def rollback (σ : Session D) (cause : E) (raised : List (Site E × E)) : Outcome D E A :=
  -- whether it raises or not, no transaction is open afterwards
  let σ' := { σ with conn := some none, clock := σ.clock + 1 }
  match φ σ.clock with
  | some x => ⟨.error x.error, raised ++ [(.rollback cause, x.error)], σ'⟩
  | none => match σ.conn with
    | some (some _) => ⟨.error cause, raised, σ'⟩
    | _ => ⟨.error δ.noTransaction, raised ++ [(.rollback cause, δ.noTransaction)], σ'⟩

def commit (σ : Session D) (a : A) : Outcome D E A :=
  let σ' := { σ with clock := σ.clock + 1 }
  match φ σ.clock with
  | some x => rollback δ φ { σ' with conn := if x.aborts then some none else σ.conn } x.error [(.commit, x.error)]
  | none => match σ.conn with
    | some (some d) => ⟨.ok a, [], { σ' with committed := d, conn := some none }⟩
    | _ => rollback δ φ σ' δ.noTransaction [(.commit, δ.noTransaction)]

/-- BEGIN, the script, COMMIT; a script or a COMMIT that raises is rolled back and raises further. -/
def transaction (σ : Session D) (s : Script D E A) : Outcome D E A :=
  match connect δ φ σ with
  | (some e, σ) => ⟨.error (δ.opening e), [(.opening, e)], σ⟩
  | (none, σ) => match begin δ φ σ with
    | (some e, σ) => ⟨.error (δ.beginning e), [(.begin, e)], σ⟩
    | (none, σ) =>
      let r := s.exec φ σ.committed σ.clock
      let σ := { σ with conn := some r.tx, clock := r.clock }
      match r.result with
      | .error e => rollback δ φ σ e (r.raised.map (Prod.mk .statement))
      | .ok a => commit δ φ σ a

/-- One SELECT outside of a transaction. -/
def read (σ : Session D) (query : D → Except E A) : Outcome D E A :=
  match connect δ φ σ with
  | (some e, σ) => ⟨.error (δ.opening e), [(.opening, e)], σ⟩
  | (none, σ) =>
    let σ' := { σ with clock := σ.clock + 1 }
    match φ σ.clock with
    | some x => ⟨.error x.error, [(.statement, x.error)], σ'⟩
    | none => ⟨query σ.committed, [], σ'⟩

/-- The calls that open a connection where none is cached. -/
def opens (σ : Session D) : Nat := if σ.conn.isSome then 0 else δ.openCalls

/-- The calls a transaction makes where none raises: BEGIN, the statements, COMMIT or ROLLBACK. -/
def transactionCalls (σ : Session D) (s : Script D E A) : Nat := opens δ σ + 1 + (s.calls σ.committed + 1)

end session

section rules
variable {δ : Driver E} {φ : Nat → Option (Fault E)} {σ : Session D}

/-- What a call raised, and nobody has wrapped. -/
def Raw (δ : Driver E) (φ : Nat → Option (Fault E)) (e : E) : Prop :=
  (∃ n x, φ n = some x ∧ x.error = e) ∨ e = δ.noTransaction

theorem connect_calm (h : Calm φ σ.clock (opens δ σ)) :
    ∃ c, connect δ φ σ = (none, { σ with conn := some c, clock := σ.clock + opens δ σ }) ∧
    (σ.Idle → c = none) := by
  unfold opens at h ⊢
  cases hc : σ.conn with
  | some c =>
    refine ⟨c, ?_, fun hidle => ?_⟩
    · simp only [connect, hc, Option.isSome_some, if_true, Nat.add_zero]
      rw [← hc]
    · cases c with
      | none => rfl
      | some d => exact absurd hc (hidle d)
  | none =>
    rw [hc] at h
    have h : Calm φ σ.clock δ.openCalls := h
    refine ⟨none, ?_, fun _ => rfl⟩
    simp only [connect, hc, calls_calm h, Option.isSome_none, Bool.false_eq_true, if_false]

theorem connect_not_calm (h : ¬ Calm φ σ.clock (opens δ σ)) :
    ∃ m x, φ m = some x ∧ connect δ φ σ = (some x.error, { σ with clock := m + 1 }) := by
  unfold opens at h
  cases hc : σ.conn with
  | some c =>
    rw [hc] at h
    exact absurd (calm_zero _) h
  | none =>
    rw [hc] at h
    have h : ¬ Calm φ σ.clock δ.openCalls := h
    obtain ⟨m, x, hm, hcalls⟩ := calls_not_calm h
    exact ⟨m, x, hm, by simp only [connect, hc, hcalls]⟩

theorem begin_calm (hidle : σ.conn = some none) (h : φ σ.clock = none) :
    begin δ φ σ = (none, { σ with conn := some (some σ.committed), clock := σ.clock + 1 }) := by
  simp only [begin, h, hidle]

theorem begin_not_calm {x : Fault E} (h : φ σ.clock = some x) :
    begin δ φ σ = (some x.error, { σ with clock := σ.clock + 1 }) := by
  simp only [begin, h]

/-- A ROLLBACK leaves no transaction open, and raises the cause or an error of its own. -/
theorem rollback_spec (cause : E) (raised : List (Site E × E)) :
    ∃ e raised', (rollback δ φ σ cause raised : Outcome D E A) =
        ⟨.error e, raised', { σ with conn := some none, clock := σ.clock + 1 }⟩ ∧
      (∀ y ∈ raised, y ∈ raised') ∧ (e = cause ∨ Raw δ φ e) := by
  unfold rollback
  cases hx : φ σ.clock with
  | some x => exact ⟨_, _, rfl, fun y hy => List.mem_append_left _ hy, Or.inr (Or.inl ⟨_, x, hx, rfl⟩)⟩
  | none =>
    cases hc : σ.conn with
    | none => exact ⟨_, _, rfl, fun y hy => List.mem_append_left _ hy, Or.inr (Or.inr rfl)⟩
    | some c =>
      cases c with
      | none => exact ⟨_, _, rfl, fun y hy => List.mem_append_left _ hy, Or.inr (Or.inr rfl)⟩
      | some d => exact ⟨_, _, rfl, fun y hy => hy, Or.inl rfl⟩

/-- The ROLLBACK of an open transaction raises the cause where the call does not raise. -/
theorem rollback_calm {d : D} (hc : σ.conn = some (some d)) (h : φ σ.clock = none) (cause : E)
    (raised : List (Site E × E)) : (rollback δ φ σ cause raised : Outcome D E A) =
      ⟨.error cause, raised, { σ with conn := some none, clock := σ.clock + 1 }⟩ := by
  simp only [rollback, h, hc]

theorem rollback_not_calm {x : Fault E} (h : φ σ.clock = some x) (cause : E) (raised : List (Site E × E)) :
    (rollback δ φ σ cause raised : Outcome D E A) = ⟨.error x.error, raised ++ [(.rollback cause, x.error)],
      { σ with conn := some none, clock := σ.clock + 1 }⟩ := by
  simp only [rollback, h]

theorem commit_calm {d : D} (hc : σ.conn = some (some d)) (h : φ σ.clock = none) (a : A) :
    commit δ φ σ a = ⟨.ok a, [], { committed := d, conn := some none, clock := σ.clock + 1 }⟩ := by
  simp only [commit, h, hc]

theorem commit_not_calm {x : Fault E} (h : φ σ.clock = some x) (a : A) :
    commit δ φ σ a = rollback δ φ { σ with conn := if x.aborts then some none else σ.conn, clock := σ.clock + 1 }
      x.error [(.commit, x.error)] := by
  simp only [commit, h]

end rules

/-! ## The rules of a transaction -/

/-- The ways a transaction on an idle connection ends. -/
inductive Ended (δ : Driver E) (φ : Nat → Option (Fault E)) (σ : Session D) (s : Script D E A) :
    Outcome D E A → Prop
  /-- Opening the connection raised. -/
  | unopened (x : Fault E) (n clock : Nat) (raises : φ n = some x) (early : ¬ Calm φ σ.clock (opens δ σ + 1)) :
    Ended δ φ σ s ⟨.error (δ.opening x.error), [(.opening, x.error)], { σ with clock := clock }⟩
  /-- BEGIN raised. -/
  | unbegun (x : Fault E) (n clock : Nat) (raises : φ n = some x) (early : ¬ Calm φ σ.clock (opens δ σ + 1)) :
    Ended δ φ σ s ⟨.error (δ.beginning x.error), [(.begin, x.error)], { σ with conn := some none, clock := clock }⟩
  /-- A statement or COMMIT raised. -/
  | stopped (x : Fault E) (n clock : Nat) (site : Site E) (e : E) (raised : List (Site E × E))
    (raises : φ n = some x)
    (begun : Calm φ σ.clock (opens δ σ + 1))
    (late : ¬ Calm φ (σ.clock + (opens δ σ + 1)) (s.calls σ.committed + 1))
    (at_ : site = .statement ∨ site = .commit) (mem : (site, x.error) ∈ raised) (raw : Raw δ φ e) :
    Ended δ φ σ s ⟨.error e, raised, { σ with conn := some none, clock := clock }⟩
  /-- The script raised, and so did ROLLBACK. -/
  | stuck (x : Fault E) (n clock : Nat) (cause : E) (raised : List (Site E × E)) (raises : φ n = some x)
    (begun : Calm φ σ.clock (opens δ σ + 1))
    (late : ¬ Calm φ (σ.clock + (opens δ σ + 1)) (s.calls σ.committed + 1))
    (raise : s.eval σ.committed = .error cause) (mem : (.rollback cause, x.error) ∈ raised) :
    Ended δ φ σ s ⟨.error x.error, raised, { σ with conn := some none, clock := clock }⟩
  /-- The script raised, and was rolled back. -/
  | undone (clock : Nat) (cause : E) (raised : List E) (calm : Calm φ σ.clock (transactionCalls δ σ s))
    (raise : s.eval σ.committed = .error cause)
    (own : ∀ e ∈ raised, s.eval σ.committed = .error e) :
    Ended δ φ σ s ⟨.error cause, raised.map (Prod.mk .statement), { σ with conn := some none, clock := clock }⟩
  | committed (clock : Nat) (a : A) (d : D) (calm : Calm φ σ.clock (transactionCalls δ σ s))
    (returns : s.eval σ.committed = .ok (a, d)) :
    Ended δ φ σ s ⟨.ok a, [], { committed := d, conn := some none, clock := clock }⟩

section rules
variable {δ : Driver E} {φ : Nat → Option (Fault E)} {σ : Session D}

/-- A statement or a COMMIT that raised is rolled back. -/
theorem ended_of_rollback {s : Script D E A} {σ' : Session D} (hcommitted : σ'.committed = σ.committed)
    {x : Fault E}
    {n : Nat} (raises : φ n = some x) (begun : Calm φ σ.clock (opens δ σ + 1))
    (late : ¬ Calm φ (σ.clock + (opens δ σ + 1)) (s.calls σ.committed + 1)) {site : Site E}
    (at_ : site = .statement ∨ site = .commit) {raised : List (Site E × E)} (mem : (site, x.error) ∈ raised) :
    Ended δ φ σ s (rollback δ φ σ' x.error raised) := by
  obtain ⟨e, raised', hroll, hkept, hraw⟩ := rollback_spec (A := A) (δ := δ) (φ := φ) (σ := σ') x.error raised
  rw [hroll, hcommitted]
  refine .stopped x n _ site e raised' raises begun late at_ (hkept _ mem) ?_
  rcases hraw with rfl | hraw
  · exact Or.inl ⟨n, x, raises, rfl⟩
  · exact hraw

/-- **Every transaction on an idle connection ends in one of these ways.** -/
theorem transaction_ended (hidle : σ.Idle) (s : Script D E A) : Ended δ φ σ s (transaction δ φ σ s) := by
  by_cases hopen : Calm φ σ.clock (opens δ σ)
  swap
  · obtain ⟨m, x, hm, hconnect⟩ := connect_not_calm hopen
    unfold transaction
    rw [hconnect]
    exact .unopened x m (m + 1) hm fun h => hopen (calm_add.1 h).1
  obtain ⟨c, hconnect, hc⟩ := connect_calm hopen
  obtain rfl := hc hidle
  unfold transaction
  rw [hconnect]
  dsimp only
  cases hbegin : φ (σ.clock + opens δ σ) with
  | some x =>
    rw [begin_not_calm hbegin]
    exact .unbegun x _ _ hbegin fun h => by
      have := (calm_add.1 h).2.head
      rw [hbegin] at this
      cases this
  | none =>
    have hbegun : Calm φ σ.clock (opens δ σ + 1) := calm_add.2 ⟨hopen, calm_succ.2 ⟨hbegin, calm_zero _⟩⟩
    rw [begin_calm rfl hbegin]
    dsimp only
    by_cases hstmts : Calm φ (σ.clock + opens δ σ + 1) (s.calls σ.committed)
    swap
    · obtain ⟨m, x, hm, hres, hraised⟩ := exec_not_calm s hstmts
      have hlate : ¬ Calm φ (σ.clock + (opens δ σ + 1)) (s.calls σ.committed + 1) := fun h =>
        hstmts (by rw [Nat.add_assoc]; exact (calm_add.1 h).1)
      rw [hres, hraised]
      dsimp only
      refine ended_of_rollback ?_ hm hbegun hlate (Or.inl rfl) List.mem_cons_self
      rfl
    · have hran := exec_calm s hstmts
      obtain ⟨d, hd⟩ := hran.open_
      obtain ⟨e0, he0⟩ : ∃ r, s.exec φ σ.committed (σ.clock + opens δ σ + 1) = r := ⟨_, rfl⟩
      rw [he0] at hran hd ⊢
      have hlast : φ e0.clock ≠ none → ¬ Calm φ (σ.clock + (opens δ σ + 1)) (s.calls σ.committed + 1) := by
        intro hx h
        refine hx ?_
        have := (calm_add.1 h).2.head
        rwa [hran.clock, Nat.add_assoc σ.clock]
      have hall : φ e0.clock = none → Calm φ σ.clock (transactionCalls δ σ s) := by
        intro hx
        refine calm_add.2 ⟨hbegun, calm_add.2 ⟨?_, calm_succ.2 ⟨?_, calm_zero _⟩⟩⟩
        · rwa [← Nat.add_assoc]
        · rwa [← Nat.add_assoc σ.clock, ← hran.clock]
      cases heval : s.eval σ.committed with
      | error cause =>
        have hres : e0.result = .error cause := by
          rw [hran.result, heval]
          rfl
        rw [hres]
        dsimp only
        cases hx : φ e0.clock with
        | some x =>
          rw [rollback_not_calm hx]
          exact .stuck x _ _ cause _ hx hbegun (hlast (by simp [hx])) heval
            (List.mem_append_right _ (List.mem_singleton_self _))
        | none =>
          rw [rollback_calm (d := d) (by rw [hd]) hx]
          exact .undone _ cause _ (hall hx) heval hran.raised
      | ok y =>
        obtain ⟨a, d'⟩ := y
        have hres : e0.result = .ok a := by
          rw [hran.result, heval]
          rfl
        rw [hres]
        dsimp only
        cases hx : φ e0.clock with
        | some x =>
          rw [commit_not_calm hx]
          refine ended_of_rollback ?_ hx hbegun (hlast (by simp [hx])) (Or.inr rfl) List.mem_cons_self
          rfl
        | none =>
          rw [commit_calm (d := d') (by rw [hran.returned a d' heval]) hx]
          exact .committed _ a d' (hall hx) heval

/-- A transaction took effect as a whole or not at all, and left its connection idle. -/
structure Atomic (δ : Driver E) (φ : Nat → Option (Fault E)) (σ : Session D) (s : Script D E A)
    (o : Outcome D E A) :
    Prop where
  idle : o.session.Idle
  error : ∀ e, o.result = .error e → o.session.committed = σ.committed
  ok : ∀ a, o.result = .ok a → s.eval σ.committed = .ok (a, o.session.committed)
  /-- It returns just where no call raises and the script does not. -/
  returns_iff : (∃ a, o.result = .ok a) ↔ Calm φ σ.clock (transactionCalls δ σ s) ∧ ∃ x, s.eval σ.committed = .ok x

theorem Atomic.of_error {s : Script D E A} {e : E} {raised : List (Site E × E)} {σ' : Session D} (hidle : σ'.Idle)
    (hcommitted : σ'.committed = σ.committed)
    (hnot : ¬ (Calm φ σ.clock (transactionCalls δ σ s) ∧ ∃ x, s.eval σ.committed = .ok x)) :
    Atomic δ φ σ s ⟨.error e, raised, σ'⟩ := by
  refine ⟨hidle, fun _ _ => hcommitted, fun a h => ?_, ⟨fun ⟨a, h⟩ => ?_, fun h => absurd h hnot⟩⟩
  · cases h
  · cases h

theorem idle_of_none (c : D) (n : Nat) : (⟨c, some none, n⟩ : Session D).Idle := by
  intro d h
  cases h

/-- **A transaction is atomic** on every idle connection, whichever calls raise. -/
theorem transaction_atomic (hidle : σ.Idle) (s : Script D E A) : Atomic δ φ σ s (transaction δ φ σ s) := by
  have hcalm : Calm φ σ.clock (transactionCalls δ σ s) ↔
      Calm φ σ.clock (opens δ σ + 1) ∧ Calm φ (σ.clock + (opens δ σ + 1)) (s.calls σ.committed + 1) := calm_add
  have hended : Ended δ φ σ s (transaction δ φ σ s) := transaction_ended hidle s
  generalize transaction δ φ σ s = o at hended ⊢
  cases hended with
  | unopened x n clock raises early => exact .of_error hidle rfl fun h => early (hcalm.1 h.1).1
  | unbegun x n clock raises early => exact .of_error (idle_of_none _ _) rfl fun h => early (hcalm.1 h.1).1
  | stopped x n clock site e raised raises begun late at_ mem raw =>
    exact .of_error (idle_of_none _ _) rfl fun h => late (hcalm.1 h.1).2
  | stuck x n clock cause raised raises begun late raise mem =>
    exact .of_error (idle_of_none _ _) rfl fun h => late (hcalm.1 h.1).2
  | undone clock cause raised calm raise own =>
    refine .of_error (idle_of_none _ _) rfl fun ⟨_, x, hx⟩ => ?_
    cases raise.symm.trans hx
  | committed clock a d calm returns =>
    refine ⟨idle_of_none _ _, fun e h => ?_, fun b h => ?_, ⟨fun _ => ⟨calm, _, returns⟩, fun _ => ⟨a, rfl⟩⟩⟩
    · cases h
    · cases h
      exact returns

end rules

/-! ## A function of what a script returns -/

/-- What a caller makes of an outcome's result. -/
def Outcome.map (f : A → B) (o : Outcome D E A) : Outcome D E B := ⟨o.result.map f, o.raised, o.session⟩

section map
variable {δ : Driver E} {φ : Nat → Option (Fault E)} {σ : Session D} (f : A → B)

theorem eval_map (s : Script D E A) (d : D) : (f <$> s).eval d = (s.eval d).map fun x => (f x.1, x.2) := by
  show (s >>= fun a => pure (f a)).eval d = _
  rw [eval_bind]
  cases s.eval d <;> rfl

theorem exec_map (s : Script D E A) (d : D) (n : Nat) : (f <$> s).exec φ d n =
    ⟨(s.exec φ d n).result.map f, (s.exec φ d n).raised, (s.exec φ d n).tx, (s.exec φ d n).clock⟩ := by
  show (s.bind fun a => pure (f a)).exec φ d n = _
  induction s generalizing d n with
  | ret r => cases r <;> rfl
  | stmt exec next ih =>
    simp only [Script.bind, Script.exec]
    cases φ n with
    | some x => rfl
    | none => cases exec d with
      | error e => rfl
      | ok d' => exact ih d' d' (n + 1)

theorem rollback_map (cause : E) (raised : List (Site E × E)) :
    (rollback δ φ σ cause raised : Outcome D E B) = (rollback δ φ σ cause raised : Outcome D E A).map f := by
  unfold rollback
  cases φ σ.clock with
  | some x => rfl
  | none => cases σ.conn with
    | none => rfl
    | some c => cases c <;> rfl

theorem commit_map (a : A) : commit δ φ σ (f a) = (commit δ φ σ a).map f := by
  unfold commit
  cases φ σ.clock with
  | some x => exact rollback_map f _ _
  | none => cases σ.conn with
    | none => exact rollback_map f _ _
    | some c => cases c with
      | none => exact rollback_map f _ _
      | some d => rfl

theorem transaction_map (s : Script D E A) : transaction δ φ σ (f <$> s) = (transaction δ φ σ s).map f := by
  unfold transaction
  cases connect δ φ σ with
  | mk failed S => cases failed with
    | some e => rfl
    | none =>
      dsimp only
      cases begin δ φ S with
      | mk failed' S' => cases failed' with
        | some e => rfl
        | none =>
          dsimp only
          rw [exec_map]
          cases hres : (s.exec φ S'.committed S'.clock).result with
          | error e => exact rollback_map f _ _
          | ok a => exact commit_map f a

end map

end Txn
