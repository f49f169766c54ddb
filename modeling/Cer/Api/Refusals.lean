import Cer.Api.Routes

/-!
# What a handler refuses by itself

Before a handler calls the store it refuses a request with a pydantic error or an error of
the contract; the one thing else that leaves it is the `OverflowError` of a timestamp out of
range (`toWrite_error`).
-/

namespace Cer.Api

open Py

/-! ## The timestamps of a request -/

inductive TimeField
  | strategyCreatedAt
  | strategyVersionCreatedAt
  | experimentCreatedAt
  | runStartedAt
  | runEndedAt
  | evidenceCreatedAtUtc
  | evidenceObservedAtUtc
  | promotionAtUtc
  | healthObservedAtUtc
  | since
  | «until»
deriving DecidableEq

/-- The timestamp is a `UTCDateTime` of a contract model. -/
def TimeField.isModel : TimeField → Bool
  | .runEndedAt | .since | .until => false
  | _ => true

/-- A timestamp that is sent, under its field. -/
def stamped (f : TimeField) (t : Option AwareTime) : List (TimeField × AwareTime) := t.toList.map fun t => (f, t)

def Request.times : Request → List (TimeField × AwareTime)
  | .createStrategy body => stamped .strategyCreatedAt body.createdAt
  | .createStrategyVersion _ body => stamped .strategyVersionCreatedAt body.createdAt
  | .createExperiment body _ => stamped .experimentCreatedAt body.createdAt
  | .createRun _ body _ => stamped .runStartedAt body.startedAt
  | .closeRun _ body => stamped .runEndedAt body.endedAt
  | .appendEvidence body _ =>
    stamped .evidenceCreatedAtUtc body.createdAtUtc ++ stamped .evidenceObservedAtUtc body.observedAtUtc
  | .attachArtifact _ _ => []
  | .createPromotion body _ => stamped .promotionAtUtc body.atUtc
  | .createHealthRecord body _ => stamped .healthObservedAtUtc body.observedAtUtc

theorem mem_stamped {f : TimeField} {t : Option AwareTime} {p : TimeField × AwareTime} :
    p ∈ stamped f t ↔ t = some p.2 ∧ p.1 = f := by
  obtain ⟨g, u⟩ := p
  cases t with
  | none => simp [stamped]
  | some t =>
    simp only [stamped, Option.toList_some, List.map_cons, List.map_nil, List.mem_singleton, Prod.mk.injEq,
      Option.some.injEq]
    rw [and_comm, eq_comm (a := u)]

/-! ## Refusals -/

/-- A `ValidationError` of pydantic or a `ContractViolationError`. -/
inductive Refusal : Exc → Prop
  | model (errors : List (String × String)) : Refusal (.pydantic errors)
  | contract {c : ErrorClass} (h : c.isSubclass .contractViolation = true) (message : String) :
      Refusal (c.exc message)

/-- What the validators of these timestamps raise. -/
def OutOfRange (times : List (TimeField × AwareTime)) (e : Exc) : Prop :=
  ∃ p ∈ times, p.1.isModel = true ∧ toUtc p.2 = .error e ∧ e = .overflowError "date value out of range"

theorem Refusal.of_identity {e : Exc} (h : e.IsIdentity) : Refusal e := by
  obtain ⟨m, rfl⟩ := h
  exact .contract rfl m

theorem resolve_error {header bodyKey : Option String} {e : Exc}
    (h : resolveIdempotencyKey header bodyKey = .error e) :
    Refusal e := by
  unfold resolveIdempotencyKey at h
  split at h
  · split at h
    · cases h
      exact .contract rfl _
    · cases h
  · cases h
  · cases h

theorem requireProducerForKey_error {producer : Option String} {e : Exc}
    (h : requireProducerForKey producer = .error e) : Refusal e := by
  unfold requireProducerForKey at h
  dsimp only at h
  split at h
  · cases h
    exact .contract rfl _
  · split at h
    · cases h
      exact .contract rfl _
    · cases h

theorem generateId_error {uuid5 : Uuid5} {draw : Draw} {idPrefix kind : String}
    {key producer : Option String} {e : Exc}
    (h : generateId uuid5 draw idPrefix kind key producer = .error e) : Refusal e := by
  unfold generateId at h
  split at h
  · rcases bind_error h with h | ⟨_, _, h⟩
    · exact requireProducerForKey_error h
    · cases h
  · cases h

theorem validateSchemaVersion_error {v : Int} {e : Exc} (h : validateSchemaVersion v = .error e) : Refusal e := by
  unfold validateSchemaVersion at h
  split at h
  · cases h
  · cases h
    exact .contract rfl _

theorem parseEvidenceType_error {v : String} {e : Exc} (h : parseEvidenceType v = .error e) : Refusal e := by
  unfold parseEvidenceType at h
  split at h
  · cases h
  · cases h
    exact .contract rfl _

/-- The time drawn for a timestamp that was not sent is in range. -/
theorem orNow_raises {draw : Draw} {field : String} {f : TimeField} {t : Option AwareTime} {x : Exc}
    (hf : f.isModel = true) (h : utcDateTime field (orNow draw t) = .raises x) : OutOfRange (stamped f t) x := by
  cases t with
  | none => cases h
  | some t =>
    obtain ⟨hx, rfl⟩ := utcDateTime_raises h
    exact ⟨(f, t), mem_stamped.2 ⟨rfl, rfl⟩, hf, hx, rfl⟩

/-- A constructor whose model raises nothing but `IdentityError`. -/
theorem constructAt_refusal {Rec : Type} {checks : Rec → List Check} {compute : Rec → Rec} {n : Nat}
    {draw : Draw} {field : String} {f : TimeField} {t : Option AwareTime} {r : Rec} {e : Exc}
    (hc : ∀ c ∈ checks r, c.RaisesIdentity) (hf : f.isModel = true)
    (h : constructAt checks compute n [utcDateTime field (orNow draw t)] r = .error e) :
    Refusal e ∨ OutOfRange (stamped f t) e := by
  refine constructAt_error (P := fun e => Refusal e ∨ OutOfRange (stamped f t) e)
    (fun errors => Or.inl (.model errors)) (fun c hmem x hx => ?_) (fun c hmem x hx => ?_) h
  · have hi := hc c hmem
    rw [hx] at hi
    exact Or.inl (.of_identity hi)
  · obtain rfl := List.mem_singleton.1 hmem
    exact Or.inr (orNow_raises hf hx)

theorem appendEvidence_error {uuid5 : Uuid5} {draw : Draw} {body : EvidenceCreateRequest} {header : Option String}
    {e : Exc} (h : appendEvidence uuid5 draw body header = .error e) :
    Refusal e ∨ OutOfRange (Request.appendEvidence body header).times e := by
  rcases bind_error h with h | ⟨key, _, h⟩
  · exact Or.inl (resolve_error h)
  split at h
  · cases h
    exact Or.inl (.contract rfl _)
  rcases bind_error h with h | ⟨_, _, h⟩
  · exact Or.inl (validateSchemaVersion_error h)
  rcases bind_error h with h | ⟨_, _, h⟩
  · exact Or.inl (generateId_error h)
  rcases bind_error h with h | ⟨_, _, h⟩
  · refine constructAt_error (P := fun e => Refusal e ∨ OutOfRange (Request.appendEvidence body header).times e)
      (fun errors => Or.inl (.model errors)) (fun c hmem x hx => ?_) (fun c hmem x hx => ?_) h
    · rcases EvidenceRecord.checks_raise _ _ c hmem with hi | ⟨y, hy, rfl⟩
      · rw [hx] at hi
        exact Or.inl (.of_identity hi)
      · cases hx
        exact Or.inl (parseEvidenceType_error hy)
    · right
      rcases List.mem_cons.1 hmem with rfl | hmem
      · obtain ⟨p, hp, hrest⟩ := orNow_raises (f := .evidenceCreatedAtUtc) rfl hx
        exact ⟨p, List.mem_append_left _ hp, hrest⟩
      · obtain rfl := List.mem_singleton.1 hmem
        cases ho : body.observedAtUtc with
        | none =>
          rw [ho] at hx
          cases hx
        | some t =>
          rw [ho] at hx
          obtain ⟨ht, hx⟩ := utcDateTime_raises hx
          exact ⟨(.evidenceObservedAtUtc, t), List.mem_append_right _ (mem_stamped.2 ⟨ho, rfl⟩), rfl, ht, hx⟩
  · cases h

/-- **A handler refuses, or a timestamp is out of range.** -/
theorem toWrite_error {uuid5 : Uuid5} {draw : Draw} {req : Request} {e : Exc}
    (h : req.toWrite uuid5 draw = .error e) :
    Refusal e ∨ OutOfRange req.times e := by
  cases req with
  | createStrategy body =>
    rcases bind_error h with h | ⟨_, _, h⟩
    · exact constructAt_refusal (Strategy.checks_raise _) rfl h
    · cases h
  | createStrategyVersion i body =>
    rcases bind_error h with h | ⟨_, _, h⟩
    · exact constructAt_refusal (StrategyVersion.checks_raise _) rfl h
    · cases h
  | createExperiment body header =>
    rcases bind_error h with h | ⟨_, _, h⟩
    · exact Or.inl (resolve_error h)
    rcases bind_error h with h | ⟨_, _, h⟩
    · exact Or.inl (generateId_error h)
    rcases bind_error h with h | ⟨_, _, h⟩
    · exact constructAt_refusal (Experiment.checks_raise _) rfl h
    · cases h
  | createRun i body header =>
    rcases bind_error h with h | ⟨_, _, h⟩
    · exact Or.inl (resolve_error h)
    rcases bind_error h with h | ⟨_, _, h⟩
    · exact Or.inl (generateId_error h)
    rcases bind_error h with h | ⟨_, _, h⟩
    · exact constructAt_refusal (Run.checks_raise _) rfl h
    · cases h
  | closeRun i body => cases h
  | appendEvidence body header => exact appendEvidence_error h
  | attachArtifact i body => cases h
  | createPromotion body header =>
    rcases bind_error h with h | ⟨_, _, h⟩
    · exact Or.inl (resolve_error h)
    rcases bind_error h with h | ⟨_, _, h⟩
    · exact Or.inl (generateId_error h)
    rcases bind_error h with h | ⟨_, _, h⟩
    · exact constructAt_refusal (PromotionTransition.checks_raise _) rfl h
    · cases h
  | createHealthRecord body header =>
    rcases bind_error h with h | ⟨_, _, h⟩
    · exact Or.inl (resolve_error h)
    rcases bind_error h with h | ⟨_, _, h⟩
    · exact Or.inl (generateId_error h)
    rcases bind_error h with h | ⟨_, _, h⟩
    · exact constructAt_refusal (StrategyHealthRecord.checks_raise _) rfl h
    · cases h

end Cer.Api
