import Cer.Contract.Models
import Cer.Runtime.Env

/-!
# Request bodies

The bodies of the write endpoints, and `constructAt`, what a contract model makes of a
timestamp that nobody has validated yet: its validator stands among the model's others,
in the order of the fields.
-/

namespace Cer.Api

open Py

/-! ## Bodies -/

structure StrategyCreateRequest where
  strategyId : String
  name : String
  thesis : String
  createdAt : Option AwareTime

structure StrategyVersionCreateRequest where
  strategyVersion : String
  gitRepo : String
  gitCommit : String
  createdAt : Option AwareTime
  notes : Option String

structure ExperimentCreateRequest where
  objective : String
  producer : String
  strategyId : Option String
  strategyVersion : Option String
  createdAt : Option AwareTime
  idempotencyKey : Option String

structure RunCreateRequest where
  producer : String
  status : RunStatus := .open_
  startedAt : Option AwareTime
  producerVersion : Option String
  gitRepo : Option String
  gitCommit : Option String
  datasetId : Option String
  datasetVersion : Option String
  datasetRef : Option String
  configHash : Option String
  configRef : Option String
  environment : Option String
  idempotencyKey : Option String

structure RunCloseRequest where
  status : RunStatus := .closed
  endedAt : Option AwareTime

structure EvidenceCreateRequest where
  evidenceType : String
  schemaVersion : Int
  producer : String
  idempotencyKey : Option String
  strategyId : Option String
  strategyVersion : Option String
  experimentId : Option String
  runId : Option String
  producerVersion : Option String
  createdAtUtc : Option AwareTime
  observedAtUtc : Option AwareTime
  gitRepo : Option String
  gitCommit : Option String
  datasetId : Option String
  datasetVersion : Option String
  datasetRef : Option String
  configHash : Option String
  configRef : Option String
  environment : Option String
  instruments : List String
  timeframes : List String
  metrics : List (String × MetricValue)
  verdict : Option String
  status : Option String
  regimeTags : List String
  parentEvidenceIds : List String
  parentRunIds : List String
  artifactIds : List String
  notes : Json

structure ArtifactAttachRequest where
  evidenceId : Option String
  runId : Option String

structure PromotionCreateRequest where
  strategyId : String
  strategyVersion : String
  fromState : PromotionState
  toState : PromotionState
  atUtc : Option AwareTime
  authority : String
  producer : String
  evidenceIds : List String
  reason : String
  idempotencyKey : Option String

structure HealthRecordCreateRequest where
  strategyId : String
  strategyVersion : String
  healthState : HealthState
  observedAtUtc : Option AwareTime
  producer : String
  observedTriggerRate : Option PyFloat
  regimeConditionedExpectedTriggerRate : Option PyFloat
  expectancyR : Option PyFloat
  winRate : Option PyFloat
  drawdown : Option PyFloat
  mae : Option PyFloat
  mfe : Option PyFloat
  holdingTime : Option PyFloat
  executionSlippageQuality : Option PyFloat
  regimeDistribution : Option (List (String × PyFloat))
  strategyChainStrengthDistribution : Option (List (String × PyFloat))
  baselineComparison : Option (List (String × Json))
  confidence : Option PyFloat
  reason : String
  evidenceIds : List String
  idempotencyKey : Option String

/-! ## Timestamps -/

/-- `repr` of a naive `datetime`: trailing zero seconds and microseconds are left out. -/
def reprNaive (t : DateTime) : String :=
  let fields := [t.year, t.month, t.day, t.hour, t.minute] ++
    (if t.microsecond ≠ 0 then [t.second, t.microsecond] else if t.second ≠ 0 then [t.second] else [])
  "datetime.datetime(" ++ ", ".intercalate (fields.map toString) ++ ")"

/-- The validator of a `UTCDateTime` field: a value out of range is no `ValueError`. -/
def utcDateTime (field : String) (t : AwareTime) : Check :=
  match t.offset with
  | none => .value field
      ("datetime must be timezone-aware (naive datetimes are rejected); got " ++ reprNaive t.wall)
  | some off => match astimezone t.wall off with
    | some _ => .pass
    | none => .raises (.overflowError "date value out of range")

def optUtcDateTime (field : String) : Option AwareTime → Check
  | none => .pass
  | some t => utcDateTime field t

/-- The first instant of the calendar. -/
def minTime : DateTime := ⟨1, 1, 1, 0, 0, 0, 0, by decide⟩

/-- The instant of a timestamp that passes its validator. -/
def instant (t : AwareTime) : DateTime := (toUtc t).toOption.getD minTime

theorem utcDateTime_utc (field : String) (t : DateTime) : utcDateTime field ⟨t, some 0⟩ = .pass := rfl

theorem instant_utc (t : DateTime) : instant ⟨t, some 0⟩ = t := rfl

/-- A model's constructor on timestamps not yet validated: the validators of the timestamps stand after the
model's first `n`, and `compute` fills in what the model computes itself. -/
def constructAt {Rec : Type} (checks : Rec → List Check) (compute : Rec → Rec) (n : Nat) (times : List Check)
    (r : Rec) : Except Exc Rec := do
  runChecks ((checks r).take n ++ times ++ (checks r).drop n)
  return compute r

theorem constructAt_eq_ok_iff {Rec : Type} {checks : Rec → List Check} {compute : Rec → Rec} {n : Nat}
    {times : List Check} {r y : Rec} : constructAt checks compute n times r = .ok y ↔
      (∀ c ∈ checks r, c = .pass) ∧ (∀ c ∈ times, c = .pass) ∧ compute r = y := by
  have hmem : ∀ c, c ∈ (checks r).take n ++ times ++ (checks r).drop n ↔ c ∈ checks r ∨ c ∈ times := by
    intro c
    rw [List.mem_append, List.mem_append, or_right_comm, ← List.mem_append, List.take_append_drop]
  unfold constructAt
  rw [runChecks_then_eq_ok]
  simp only [hmem, or_imp, forall_and, and_assoc]

/-- A validator of timestamps raises for a value out of range, and nothing else. -/
theorem utcDateTime_raises {field : String} {t : AwareTime} {x : Exc} (h : utcDateTime field t = .raises x) :
    toUtc t = .error x ∧ x = .overflowError "date value out of range" := by
  unfold utcDateTime at h
  unfold toUtc
  cases ho : t.offset with
  | none =>
    rw [ho] at h
    cases h
  | some off =>
    rw [ho] at h
    dsimp only at h ⊢
    cases ha : astimezone t.wall off with
    | none =>
      rw [ha] at h
      cases h
      exact ⟨rfl, rfl⟩
    | some u =>
      rw [ha] at h
      cases h

/-- A constructor refuses with a pydantic error, or with what a validator raises. -/
theorem constructAt_error {Rec : Type} {checks : Rec → List Check} {compute : Rec → Rec} {n : Nat}
    {times : List Check} {r : Rec} {P : Exc → Prop} {e : Exc} (hv : ∀ errors, P (.pydantic errors))
    (hc : ∀ c ∈ checks r, ∀ x, c = .raises x → P x) (ht : ∀ c ∈ times, ∀ x, c = .raises x → P x)
    (h : constructAt checks compute n times r = .error e) : P e := by
  unfold constructAt at h
  rcases bind_error h with h | ⟨_, _, h⟩
  · refine runChecks_error hv (fun c hmem => ?_) h
    rw [List.mem_append, List.mem_append, or_right_comm] at hmem
    rcases hmem with hmem | hmem
    · exact hc c (hmem.elim List.mem_of_mem_take List.mem_of_mem_drop)
    · exact ht c hmem
  · cases h

end Cer.Api
