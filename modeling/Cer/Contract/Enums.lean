import Cer.Contract.Errors
import Cer.Lib.PyText
import Mathlib.Data.List.Sort

/-!
# Controlled vocabularies

Every enumeration is a text on the wire and in the database (`value`); a text that
names no member is refused.
-/

namespace Cer

inductive EvidenceType
  | sourceAnalysis | strategyHypothesis
  | backtest | outOfSample | walkForward | monteCarlo | parameterSweep | ablation
  | shadow | paper | mt5Demo | plutus
  | tinyLive | personalLive | fundedLive
  | neoObservation | neoHypothesis | regimeAnalysis | driftAlert | strategyHealth
deriving DecidableEq, Repr, Inhabited

def EvidenceType.all : List EvidenceType :=
  [.sourceAnalysis, .strategyHypothesis, .backtest, .outOfSample, .walkForward, .monteCarlo, .parameterSweep,
   .ablation, .shadow, .paper, .mt5Demo, .plutus, .tinyLive, .personalLive, .fundedLive, .neoObservation,
   .neoHypothesis, .regimeAnalysis, .driftAlert, .strategyHealth]

def EvidenceType.value : EvidenceType → String
  | .sourceAnalysis => "SOURCE_ANALYSIS"
  | .strategyHypothesis => "STRATEGY_HYPOTHESIS"
  | .backtest => "BACKTEST"
  | .outOfSample => "OUT_OF_SAMPLE"
  | .walkForward => "WALK_FORWARD"
  | .monteCarlo => "MONTE_CARLO"
  | .parameterSweep => "PARAMETER_SWEEP"
  | .ablation => "ABLATION"
  | .shadow => "SHADOW"
  | .paper => "PAPER"
  | .mt5Demo => "MT5_DEMO"
  | .plutus => "PLUTUS"
  | .tinyLive => "TINY_LIVE"
  | .personalLive => "PERSONAL_LIVE"
  | .fundedLive => "FUNDED_LIVE"
  | .neoObservation => "NEO_OBSERVATION"
  | .neoHypothesis => "NEO_HYPOTHESIS"
  | .regimeAnalysis => "REGIME_ANALYSIS"
  | .driftAlert => "DRIFT_ALERT"
  | .strategyHealth => "STRATEGY_HEALTH"

inductive PromotionState
  | draft | implemented | backtested | validated | forwardTest | liveCandidate | tinyLive | approved | suspended
  | retired
deriving DecidableEq, Repr

def PromotionState.all : List PromotionState :=
  [.draft, .implemented, .backtested, .validated, .forwardTest, .liveCandidate, .tinyLive, .approved, .suspended,
   .retired]

def PromotionState.value : PromotionState → String
  | .draft => "DRAFT"
  | .implemented => "IMPLEMENTED"
  | .backtested => "BACKTESTED"
  | .validated => "VALIDATED"
  | .forwardTest => "FORWARD_TEST"
  | .liveCandidate => "LIVE_CANDIDATE"
  | .tinyLive => "TINY_LIVE"
  | .approved => "APPROVED"
  | .suspended => "SUSPENDED"
  | .retired => "RETIRED"

inductive HealthState
  | healthy | dormant | watch | degraded | suspended
deriving DecidableEq, Repr

def HealthState.all : List HealthState := [.healthy, .dormant, .watch, .degraded, .suspended]

def HealthState.value : HealthState → String
  | .healthy => "HEALTHY"
  | .dormant => "DORMANT"
  | .watch => "WATCH"
  | .degraded => "DEGRADED"
  | .suspended => "SUSPENDED"

inductive RunStatus
  | open_ | closed | failed
deriving DecidableEq, Repr

def RunStatus.all : List RunStatus := [.open_, .closed, .failed]

def RunStatus.value : RunStatus → String
  | .open_ => "OPEN"
  | .closed => "CLOSED"
  | .failed => "FAILED"

inductive ProvenanceCompleteness
  | complete | incomplete
deriving DecidableEq, Repr

def ProvenanceCompleteness.value : ProvenanceCompleteness → String
  | .complete => "COMPLETE"
  | .incomplete => "INCOMPLETE"

/-! ## Reading a member -/

/-- `E(v)` for an enumeration `E` of texts: its member of that value, or `ValueError`. -/
def parseEnum {E : Type} (name : String) (all : List E) (value : E → String) (v : String) : Except Exc E :=
  match all.find? (value · == v) with
  | some e => .ok e
  | none => .error (.valueError s!"{Py.repr v} is not a valid {name}")

def parsePromotionState : String → Except Exc PromotionState :=
  parseEnum "PromotionState" PromotionState.all PromotionState.value

def parseHealthState : String → Except Exc HealthState := parseEnum "HealthState" HealthState.all HealthState.value

def parseRunStatus : String → Except Exc RunStatus := parseEnum "RunStatus" RunStatus.all RunStatus.value

/-- The sorted values, as the error names them. -/
def evidenceTypeNames : String :=
  ", ".intercalate (((EvidenceType.all.map EvidenceType.value).insertionSort (· ≤ ·)).map Py.repr)

def parseEvidenceType (v : String) : Except Exc EvidenceType :=
  match EvidenceType.all.find? (EvidenceType.value · == v) with
  | some t => .ok t
  | none => .error (ErrorClass.unknownEvidenceType.exc
      s!"unknown evidence_type {Py.repr v}; must be one of [{evidenceTypeNames}]")

theorem parseEvidenceType_value (t : EvidenceType) : parseEvidenceType t.value = .ok t := by
  cases t <;> rfl

theorem parsePromotionState_value (s : PromotionState) : parsePromotionState s.value = .ok s := by
  cases s <;> rfl

theorem parseHealthState_value (s : HealthState) : parseHealthState s.value = .ok s := by
  cases s <;> rfl

theorem parseRunStatus_value (s : RunStatus) : parseRunStatus s.value = .ok s := by
  cases s <;> rfl

/-- A member is named by its value when the value is read back as it. -/
theorem eq_of_value_eq {E : Type} {parse : String → Except Exc E} {value : E → String}
    (hp : ∀ e, parse (value e) = .ok e) {s t : E} (h : value s = value t) : s = t := by
  have hs := hp s
  rw [h, hp t] at hs
  exact (Except.ok.inj hs).symm

theorem EvidenceType.value_inj {s t : EvidenceType} (h : s.value = t.value) : s = t :=
  eq_of_value_eq parseEvidenceType_value h

theorem PromotionState.value_inj {s t : PromotionState} (h : s.value = t.value) : s = t :=
  eq_of_value_eq parsePromotionState_value h

theorem HealthState.value_inj {s t : HealthState} (h : s.value = t.value) : s = t :=
  eq_of_value_eq parseHealthState_value h

theorem RunStatus.value_inj {s t : RunStatus} (h : s.value = t.value) : s = t :=
  eq_of_value_eq parseRunStatus_value h

theorem ProvenanceCompleteness.value_inj {s t : ProvenanceCompleteness} (h : s.value = t.value) : s = t := by
  cases s <;> cases t <;> first | rfl | exact absurd h (by decide)

end Cer
