import Cer.Metadata.Session

/-!
# Failures of the backend

The handler of a `CERError` answers with `status_for`; everything else is a 500.  So a
failing SQL call is reported as the store being unavailable just where the exception that
leaves the method is a `MetadataStoreError`.

The calls that open a connection and BEGIN are wrapped, and all calls of `health`; the
statements, COMMIT and ROLLBACK are not.  `backend_failures_are_reported_iff`: a call of a
method reports its failures exactly when a wrapped call raises, which comes before all the
others, or none raises.
-/

namespace Cer.Api

open Txn

/-! ## Statuses -/

/-- `_ERROR_STATUS_ORDER`. -/
def errorStatusOrder : List (ErrorClass × Nat) :=
  [(.checksumMismatch, 422), (.notFound, 404), (.idempotencyConflict, 409), (.immutabilityError, 409),
   (.contractViolation, 400), (.metadataStoreError, 503), (.artifactStoreError, 503), (.cerError, 400)]

/-- `status_for`; what is no `CERError` falls to the handler of `Exception`. -/
def statusFor (e : Exc) : Nat :=
  match errorStatusOrder.find? fun entry => e.isA entry.1 with
  | some entry => entry.2
  | none => 500

/-- A `MetadataStoreError` is answered with 503. -/
theorem statusFor_metadataStoreError {e : Exc} (h : e.isA .metadataStoreError = true) : statusFor e = 503 := by
  cases e with
  | cer cls message code => cases cls <;> first | rfl | cases h
  | _ => cases h

theorem not_metadataStoreError_of_sqlite {e : Exc} (h : e.isSqlite = true) :
    e.isA .metadataStoreError = false := by
  cases e <;> first | rfl | cases h

/-! ## Reported failures -/

/-- A call of a method that made SQL calls raise said so. -/
structure Reported {A : Type} (o : Outcome Database Exc A) : Prop where
  /-- A `sqlite3.Error` leaves as a `MetadataStoreError`. -/
  unavailable : ∀ site e, (site, e) ∈ o.raised → e.isSqlite = true → (∀ cause, site ≠ .rollback cause) →
    ∃ e', o.result = .error e' ∧ e'.isA .metadataStoreError = true ∧ statusFor e' = 503
  /-- A ROLLBACK that raises does not replace what caused it. -/
  kept : ∀ cause e, (.rollback cause, e) ∈ o.raised → cause.isSqlite = false → o.result = .error cause

/-- The calls of a method whose errors are wrapped; they come first. -/
def wrappedCalls (σ : Store) : Method → Nat
  | .write w => if w.refusal = none ∧ σ.present = true then opens σ.driver σ.session + 1 else 0
  | .read q => if q.refusal = none then opens σ.driver σ.session else 0
  | .health => if σ.present = true then σ.driver.openCalls + 4 else 0

/-- The SQL calls a method makes where none of them raises. -/
def sqlCalls (env : Env) (σ : Store) : Method → Nat
  | .write w =>
    if w.refusal = none ∧ σ.present = true then transactionCalls σ.driver σ.session (w.script env) else 0
  | .read q => if q.refusal = none then opens σ.driver σ.session + 1 else 0
  | .health => if σ.present = true then σ.driver.openCalls + 4 else 0

section reported
variable {env : Env} {φ : Nat → Option (Fault Exc)} {σ : Store}

theorem reported_of_none {A : Type} {r : Except Exc A} {s : Session Database} : Reported ⟨r, [], s⟩ := by
  refine ⟨fun site e h => ?_, fun cause e h => ?_⟩
  · cases h
  · cases h

/-- A wrapped call that raised. -/
theorem reported_of_wrapped {A : Type} {e e' : Exc} {site : Site Exc} {s : Session Database}
    (he : e'.isA .metadataStoreError = true) (hsite : ∀ cause, site ≠ .rollback cause) :
    Reported (⟨.error e', [(site, e)], s⟩ : Outcome Database Exc A) := by
  refine ⟨fun _ _ _ _ _ => ⟨e', rfl, he, statusFor_metadataStoreError he⟩, fun cause x h => ?_⟩
  cases List.mem_singleton.1 h
  exact absurd rfl (hsite cause)

/-- A raw error leaves. -/
theorem not_reported_of_raw {A : Type} {e x : Exc} {site : Site Exc} {raised : List (Site Exc × Exc)}
    {s : Session Database} (he : e.isSqlite = true) (hx : x.isSqlite = true) (hmem : (site, x) ∈ raised)
    (hsite : ∀ cause, site ≠ .rollback cause) :
    ¬ Reported (⟨.error e, raised, s⟩ : Outcome Database Exc A) := by
  intro h
  obtain ⟨e', he', hstore, _⟩ := h.unavailable site x hmem hx hsite
  cases he'
  rw [not_metadataStoreError_of_sqlite he] at hstore
  cases hstore

/-- Handing an answer back changes nothing of this. -/
theorem reported_map {A B : Type} {f : A → B} {o : Outcome Database Exc A} :
    Reported (⟨o.result.map f, o.raised, o.session⟩ : Outcome Database Exc B) ↔ Reported o := by
  have herr : ∀ e, o.result.map f = .error e ↔ o.result = .error e := by
    intro e
    cases o.result with
    | error e' => exact ⟨fun h => congrArg Except.error (Except.error.inj h),
        fun h => congrArg Except.error (Except.error.inj h)⟩
    | ok a =>
      constructor
      · intro h
        cases h
      · intro h
        cases h
  constructor
  · intro h
    refine ⟨fun site e hm he hs => ?_, fun cause e hm hc => (herr cause).1 (h.kept cause e hm hc)⟩
    obtain ⟨e', he', hstore⟩ := h.unavailable site e hm he hs
    exact ⟨e', (herr e').1 he', hstore⟩
  · intro h
    refine ⟨fun site e hm he hs => ?_, fun cause e hm hc => (herr cause).2 (h.kept cause e hm hc)⟩
    obtain ⟨e', he', hstore⟩ := h.unavailable site e hm he hs
    exact ⟨e', (herr e').2 he', hstore⟩

variable (sqlite : ∀ n x, φ n = some x → x.error.isSqlite = true)

include sqlite in
theorem raw_isSqlite {e : Exc} (h : Raw σ.driver φ e) : e.isSqlite = true := by
  rcases h with ⟨n, x, hx, rfl⟩ | rfl
  · exact sqlite n x hx
  · rfl

include sqlite in
/-- A transaction reports its failures just when opening the connection or BEGIN raises, or nothing does. -/
theorem transaction_reported_iff (hidle : σ.session.Idle) {w : Write}
    (hrun : ∀ e, w.run env σ.session.committed = .error e → e.isSqlite = false) :
    Reported (transaction σ.driver φ σ.session (w.script env)) ↔
      ¬ Calm φ σ.session.clock (opens σ.driver σ.session + 1) ∨
        Calm φ σ.session.clock (transactionCalls σ.driver σ.session (w.script env)) := by
  have hcalm : Calm φ σ.session.clock (transactionCalls σ.driver σ.session (w.script env)) ↔
      Calm φ σ.session.clock (opens σ.driver σ.session + 1) ∧
        Calm φ (σ.session.clock + (opens σ.driver σ.session + 1))
          ((w.script env).calls σ.session.committed + 1) := calm_add
  have hended : Ended σ.driver φ σ.session (w.script env) (transaction σ.driver φ σ.session (w.script env)) :=
    transaction_ended hidle _
  generalize transaction σ.driver φ σ.session (w.script env) = o at hended ⊢
  cases hended with
  | unopened x n clock raises early =>
    refine ⟨fun _ => Or.inl early, fun _ => reported_of_wrapped rfl fun cause h => ?_⟩
    cases h
  | unbegun x n clock raises early =>
    refine ⟨fun _ => Or.inl early, fun _ => reported_of_wrapped rfl fun cause h => ?_⟩
    cases h
  | stopped x n clock site e raised raises begun late at_ mem raw =>
    refine ⟨fun h => absurd h ?_, fun h => ?_⟩
    · refine not_reported_of_raw (raw_isSqlite sqlite raw) (sqlite n x raises) mem fun cause hc => ?_
      rcases at_ with rfl | rfl <;> cases hc
    · rcases h with h | h
      · exact absurd begun h
      · exact absurd (hcalm.1 h).2 late
  | stuck x n clock cause raised raises begun late raise mem =>
    rw [w.script_eval] at raise
    refine ⟨fun h => ?_, fun h => ?_⟩
    · have hkept := h.kept cause x.error mem (hrun cause raise)
      injection hkept with hkept
      have hx := sqlite n x raises
      rw [hkept, hrun cause raise] at hx
      cases hx
    · rcases h with h | h
      · exact absurd begun h
      · exact absurd (hcalm.1 h).2 late
  | undone clock cause raised calm raise own =>
    refine ⟨fun _ => Or.inr calm, fun _ => ⟨fun site e hm he => ?_, fun cause e hm => ?_⟩⟩
    · obtain ⟨x, hx, heq⟩ := List.mem_map.1 hm
      cases heq
      have hnot := hrun e (w.script_eval env _ ▸ own e hx)
      rw [hnot] at he
      cases he
    · obtain ⟨x, hx, heq⟩ := List.mem_map.1 hm
      cases heq
  | committed clock a d calm returns => exact ⟨fun _ => Or.inr calm, fun _ => reported_of_none⟩

include sqlite in
/-- A read reports its failures just when opening the connection raises, or nothing does. -/
theorem read_reported_iff {A : Type} (query : Database → Except Exc A) :
    Reported (Txn.read σ.driver φ σ.session query) ↔ ¬ Calm φ σ.session.clock (opens σ.driver σ.session) ∨
      Calm φ σ.session.clock (opens σ.driver σ.session + 1) := by
  by_cases hc : Calm φ σ.session.clock (opens σ.driver σ.session)
  · obtain ⟨c, hconnect, _⟩ := connect_calm (δ := σ.driver) hc
    unfold Txn.read
    rw [hconnect]
    dsimp only
    cases hx : φ (σ.session.clock + opens σ.driver σ.session) with
    | some x =>
      have hs := sqlite _ x hx
      refine ⟨fun h => absurd h ?_, fun h => ?_⟩
      · refine not_reported_of_raw hs hs (List.mem_singleton_self _) fun cause hcause => ?_
        cases hcause
      · rcases h with h | h
        · exact absurd hc h
        · rw [(calm_add.1 h).2.head] at hx
          cases hx
    | none => exact ⟨fun _ => Or.inr (calm_add.2 ⟨hc, calm_succ.2 ⟨hx, calm_zero _⟩⟩), fun _ => reported_of_none⟩
  · obtain ⟨m, x, _, hconnect⟩ := connect_not_calm (δ := σ.driver) hc
    unfold Txn.read
    rw [hconnect]
    refine ⟨fun _ => Or.inl hc, fun _ => reported_of_wrapped rfl fun cause h => ?_⟩
    cases h

/-- `health` reports whatever raises in it. -/
theorem health_reported : Reported (σ.health φ) := by
  unfold Store.health
  split
  · exact reported_of_none
  · split
    · refine reported_of_wrapped rfl fun cause h => ?_
      cases h
    · split
      · refine reported_of_wrapped rfl fun cause h => ?_
        cases h
      · exact reported_of_none

end reported

/-- **Backend failures are reported as the store being unavailable** in every reached state and by
every method, exactly when a wrapped call of it raises (opening the connection, BEGIN, any call of
`health`), or none of its calls does. -/
theorem backend_failures_are_reported_iff (env : Env) (φ : Nat → Option (Fault Exc))
    (sqlite : ∀ n x, φ n = some x → x.error.isSqlite = true) {σ : Store}
    (reached : Store.Reached env φ σ) (m : Method) :
    Reported (σ.call env φ m) ↔
      ¬ Calm φ σ.session.clock (wrappedCalls σ m) ∨ Calm φ σ.session.clock (sqlCalls env σ m) := by
  obtain ⟨hidle, hreachable⟩ := reached.invariant
  cases m with
  | write w =>
    refine reported_map.trans ?_
    unfold wrappedCalls sqlCalls
    by_cases hbegins : w.refusal = none ∧ σ.present = true
    · dsimp only
      rw [if_pos hbegins, if_pos hbegins, Store.write_backed hbegins.1 hbegins.2]
      exact transaction_reported_iff sqlite hidle fun e he => hreachable.wellFormed.noSqlError w e he
    · dsimp only
      rw [if_neg hbegins, if_neg hbegins]
      refine ⟨fun _ => Or.inr (calm_zero _), fun _ => ?_⟩
      cases href : w.refusal with
      | some e =>
        rw [Store.write_refused href]
        exact reported_of_none
      | none =>
        have hp : σ.present = false := by
          cases hp : σ.present with
          | false => rfl
          | true => exact absurd ⟨href, hp⟩ hbegins
        obtain ⟨e, he, _⟩ := @Store.write_unbacked env φ _ _ href hp
        rw [he]
        exact reported_of_none
  | read q =>
    show Reported (σ.query env φ q) ↔ _
    unfold wrappedCalls sqlCalls Store.query
    dsimp only
    cases href : q.refusal with
    | some e =>
      rw [if_neg (by simp), if_neg (by simp)]
      exact ⟨fun _ => Or.inr (calm_zero _), fun _ => reported_of_none⟩
    | none =>
      rw [if_pos rfl, if_pos rfl]
      exact read_reported_iff sqlite _
  | health =>
    refine reported_map.trans ⟨fun _ => ?_, fun _ => health_reported⟩
    exact (Classical.em _).symm

/-- A disk that fails the first SELECT of a thread whose connection is being opened. -/
def failsAt (n : Nat) (i : Nat) : Option (Fault Exc) :=
  if i = n then some ⟨.operationalError "disk I/O error", true⟩ else none

theorem failsAt_sqlite (n : Nat) : ∀ i x, failsAt n i = some x → x.error.isSqlite = true := by
  intro i x h
  unfold failsAt at h
  split at h
  · cases h
    rfl
  · cases h

/-- BEGIN fails: the write reports it. -/
theorem failed_begin_is_reported :
    Reported (newStore.call .reference (failsAt 4) (.write (.registerStrategy sampleStrategy))) := by
  refine (backend_failures_are_reported_iff .reference (failsAt 4) (failsAt_sqlite 4) (.start "cer.db") _).2 ?_
  refine Or.inl fun h => ?_
  cases h 4 (by decide)

/-- The SELECT of a read fails, and so does the first statement of a write, whose transaction SQLite
rolls back: a raw error leaves, which is answered with 500; of the write it is the error of
ROLLBACK. -/
theorem raw_errors_leave :
    (newStore.call .reference (failsAt 4) (.read (.getEvidence "ev_01"))).result =
        .error (.operationalError "disk I/O error") ∧
      statusFor (.operationalError "disk I/O error") = 500 ∧
      ¬ Reported (newStore.call .reference (failsAt 4) (.read (.getEvidence "ev_01"))) ∧
      (newStore.call .reference (failsAt 5) (.write (.registerStrategy sampleStrategy))).result =
        .error (.operationalError "cannot rollback - no transaction is active") := by
  refine ⟨rfl, rfl, fun h => ?_, rfl⟩
  obtain ⟨e, he, hstore, _⟩ :=
    h.unavailable .statement (.operationalError "disk I/O error") (List.mem_singleton_self _) rfl
    fun _ hs => by cases hs
  cases he
  cases hstore

end Cer.Api
