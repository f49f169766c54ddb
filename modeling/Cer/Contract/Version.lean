import Cer.Contract.Errors
import Cer.Lib.Numerals

/-!
# The contract version

`validate_contract_version` looks at what stands before the first dot and at nothing
else.  It keeps to the grammar of semantic versions exactly where that text tells
everything.
-/

namespace Cer

open Py

def contractVersion : String := "1.0.0"

def incompatibleVersion (message : String) : Exc := ErrorClass.incompatibleSchemaVersion.exc message

/-- `v.strip().split(".")[0]`. -/
def majorText (v : String) : List Char := (stripChars v.toList).takeWhile (· != '.')

/-- `_major`. -/
def majorOf (v : String) : Except Exc Nat :=
  if !isdigit (majorText v) then
    .error (incompatibleVersion s!"contract_version is not a valid semver string: {Py.repr v}")
  else (intOfDigits (majorText v)).mapError Exc.valueError

def validateContractVersion (v : String) : Except Exc String := do
  if isBlank v then throw (incompatibleVersion s!"contract_version must be a non-empty string, got {Py.repr v}")
  let callerMajor ← majorOf v
  let currentMajor ← majorOf contractVersion
  if callerMajor ≠ currentMajor then
    throw (incompatibleVersion
      (s!"incompatible contract_version {Py.repr v}; this build supports major version " ++
      s!"{currentMajor} (current: {Py.repr contractVersion})"))
  return v

/-- `require_contract_version`, of the header. -/
def requireContractVersion : Option String → Except Exc String
  | none => .error (ErrorClass.contractViolation.exc "missing required header X-CER-Contract-Version")
  | some v => validateContractVersion v

/-! ## The grammar -/

/-- An ASCII decimal number. -/
def IsNumber (l : List Char) : Prop := l ≠ [] ∧ ∀ c ∈ l, '0' ≤ c ∧ c ≤ '9'

/-- Dot-separated identifiers of letters, digits and hyphens. -/
def IsIdentifiers (l : List Char) : Prop :=
  ∀ part ∈ l.splitOn '.', part ≠ [] ∧ ∀ c ∈ part, c.isAlphanum = true ∨ c = '-'

/-- A pre-release or build suffix, both or none. -/
def IsSuffix (l : List Char) : Prop :=
  ∃ pre build, l = pre ++ build ∧ (pre = [] ∨ ∃ ids, pre = '-' :: ids ∧ IsIdentifiers ids) ∧
    (build = [] ∨ ∃ ids, build = '+' :: ids ∧ IsIdentifiers ids)

/-- A semantic version of a major number. -/
def IsSemver (major : Nat) (l : List Char) : Prop :=
  ∃ a b c suffix, l = a ++ '.' :: (b ++ '.' :: (c ++ suffix)) ∧ IsNumber a ∧ IsNumber b ∧
  IsNumber c ∧ IsSuffix suffix ∧
    decimalValue a = major

/-- Trimmed, a semantic version of the major number of `CONTRACT_VERSION`. -/
def IsCompatible (v : String) : Prop :=
  ∃ major, IsSemver major contractVersion.toList ∧ IsSemver major (stripChars v.toList)

/-- The gate hands the string back where it is compatible, and raises
`IncompatibleSchemaVersionError` elsewhere. -/
def GateExact (v : String) : Prop :=
  (IsCompatible v → validateContractVersion v = .ok v) ∧
    (¬ IsCompatible v → ∃ m, validateContractVersion v = .error (incompatibleVersion m))

/-- What stands before the first dot tells everything: where it is all digits, `int` can read it,
and where it reads 1, the trimmed string is a semantic version. -/
def HeadTells (v : String) : Prop :=
  isdigit (majorText v) = true →
    (majorText v).length ≤ maxStrDigits ∧ (∀ c ∈ majorText v, (decimalDigit c).isSome = true) ∧
      (decimalValue (majorText v) = 1 → ∃ major, IsSemver major (stripChars v.toList))

/-! ## What the gate does -/

theorem majorOf_contractVersion : majorOf contractVersion = .ok 1 := by decide +kernel

theorem isNumber_not_dot {l : List Char} (h : IsNumber l) : ∀ c ∈ l, (c != '.') = true := by
  intro c hc
  obtain ⟨h0, h9⟩ := h.2 c hc
  rw [bne_iff_ne]
  rintro rfl
  revert h0
  decide

/-- What stands before the first dot of a semantic version is its first number. -/
theorem IsSemver.head {major : Nat} {l : List Char} (h : IsSemver major l) :
    IsNumber (l.takeWhile (· != '.')) ∧ decimalValue (l.takeWhile (· != '.')) = major := by
  obtain ⟨a, b, c, suffix, rfl, ha, -, -, -, hmajor⟩ := h
  have htake : (a ++ '.' :: (b ++ '.' :: (c ++ suffix))).takeWhile (· != '.') = a := by
    rw [List.takeWhile_append_of_pos (isNumber_not_dot ha)]
    simp
  rw [htake]
  exact ⟨ha, hmajor⟩

theorem IsNumber.isdigit {l : List Char} (h : IsNumber l) : isdigit l = true := by
  unfold Py.isdigit
  rw [Bool.and_eq_true, List.all_eq_true]
  refine ⟨by simpa using h.1, fun c hc => isDigitChar_of_decimal ?_⟩
  rw [decimalDigit_ascii (h.2 c hc)]
  rfl

theorem contractVersion_semver : IsSemver 1 contractVersion.toList := by
  refine ⟨['1'], ['0'], ['0'], [], by decide, ?_, ?_, ?_, ⟨[], [], rfl, Or.inl rfl, Or.inl rfl⟩, by decide +kernel⟩
  all_goals simp [IsNumber]

theorem isCompatible_iff (v : String) : IsCompatible v ↔ IsSemver 1 (stripChars v.toList) := by
  constructor
  · rintro ⟨major, hcurrent, h⟩
    have heq : major = 1 := hcurrent.head.2.symm.trans contractVersion_semver.head.2
    exact heq ▸ h
  · exact fun h => ⟨1, contractVersion_semver, h⟩

theorem majorText_of_isBlank {v : String} (h : isBlank v = true) : majorText v = [] := by
  have hnil : stripChars v.toList = [] := (stripChars_eq_nil_iff _).2 ((isBlank_iff v).1 h)
  unfold majorText
  rw [hnil]
  rfl

/-- Text that is not all digits before its first dot is refused. -/
theorem validate_not_isdigit {v : String} (h : ¬ isdigit (majorText v) = true) :
    ∃ m, validateContractVersion v = .error (incompatibleVersion m) := by
  have hmajor : majorOf v =
      .error (incompatibleVersion s!"contract_version is not a valid semver string: {Py.repr v}") := by
    unfold majorOf
    rw [if_pos (by simpa using h)]
  unfold validateContractVersion
  rw [hmajor]
  by_cases hb : isBlank v = true
  · exact ⟨_, by simp [hb, bind, Except.bind, throw, throwThe, MonadExceptOf.throw]; rfl⟩
  · exact ⟨_, by simp [hb, bind, Except.bind]; rfl⟩

theorem not_isBlank_of_isdigit {v : String} (h : isdigit (majorText v) = true) : isBlank v = false := by
  by_contra hb
  rw [majorText_of_isBlank (by simpa using hb)] at h
  cases h

/-- All digits before the first dot: `int` decides. -/
theorem validate_isdigit {v : String} (h : isdigit (majorText v) = true) :
    validateContractVersion v =
      match intOfDigits (majorText v) with
      | .error m => .error (.valueError m)
      | .ok n => if n = 1 then .ok v else .error (incompatibleVersion
          (s!"incompatible contract_version {Py.repr v}; this build supports major version " ++
            s!"{1} (current: {Py.repr contractVersion})")) := by
  have hmajor : majorOf v = (intOfDigits (majorText v)).mapError Exc.valueError := by
    unfold majorOf
    rw [if_neg (by simpa using h)]
  unfold validateContractVersion
  rw [hmajor, majorOf_contractVersion, not_isBlank_of_isdigit h]
  cases intOfDigits (majorText v) with
  | error m => rfl
  | ok n =>
    by_cases hn : n = 1
    · simp [Except.mapError, bind, Except.bind, pure, Except.pure, hn]
    · simp [Except.mapError, bind, Except.bind, throw, throwThe, MonadExceptOf.throw, hn]

/-- The gate keeps to the grammar exactly where what stands before the first dot tells everything. -/
theorem contract_version_exact_iff (v : String) : GateExact v ↔ HeadTells v := by
  unfold GateExact HeadTells
  rw [isCompatible_iff]
  by_cases hdigits : isdigit (majorText v) = true
  · by_cases hread : (majorText v).length ≤ maxStrDigits ∧ ∀ c ∈ majorText v, (decimalDigit c).isSome = true
    · have hvalidate := validate_isdigit hdigits
      rw [intOfDigits_ok hread.1 hread.2] at hvalidate
      by_cases hone : decimalValue (majorText v) = 1
      · -- accepted, whatever follows the first dot
        rw [hone] at hvalidate
        constructor
        · rintro ⟨-, hother⟩ -
          refine ⟨hread.1, hread.2, fun _ => ⟨1, ?_⟩⟩
          by_contra hnot
          obtain ⟨m, hm⟩ := hother hnot
          rw [hvalidate] at hm
          cases hm
        · intro h
          obtain ⟨major, hsemver⟩ := (h hdigits).2.2 hone
          obtain rfl : major = 1 := hsemver.head.2.symm.trans hone
          exact ⟨fun _ => hvalidate, fun hnot => absurd hsemver hnot⟩
      · -- refused, and a semantic version has the major number that was read
        replace hvalidate := hvalidate.trans (if_neg hone)
        have hnot : ¬ IsSemver 1 (stripChars v.toList) := fun h => hone h.head.2
        exact iff_of_true ⟨fun h => absurd h hnot, fun _ => ⟨_, hvalidate⟩⟩
          fun _ => ⟨hread.1, hread.2, fun h => absurd h hone⟩
    · -- `int` raises `ValueError`
      obtain ⟨m, hm⟩ := intOfDigits_error hread
      have hvalidate := validate_isdigit hdigits
      rw [hm] at hvalidate
      constructor
      · rintro ⟨hgood, hother⟩
        by_cases hs : IsSemver 1 (stripChars v.toList)
        · have hok := hgood hs
          rw [hvalidate] at hok
          cases hok
        · obtain ⟨m', hm'⟩ := hother hs
          rw [hvalidate] at hm'
          cases hm'
      · intro h
        exact absurd ⟨(h hdigits).1, (h hdigits).2.1⟩ hread
  · have hnot : ¬ IsSemver 1 (stripChars v.toList) := fun h => hdigits h.head.1.isdigit
    exact iff_of_true ⟨fun h => absurd h hnot, fun _ => validate_not_isdigit hdigits⟩ fun h => absurd h hdigits

/-- A bare 1 is let through, and a superscript two escapes as a `ValueError`. -/
theorem gate_is_not_exact :
    (validateContractVersion "1" = .ok "1" ∧ ¬ IsCompatible "1") ∧
      requireContractVersion (some "²") = .error (.valueError "invalid literal for int() with base 10: '²'") ∧
      ¬ GateExact "1" ∧ ¬ GateExact "²" := by
  have hone : validateContractVersion "1" = .ok "1" := by decide +kernel
  have hbare : ¬ IsCompatible "1" := by
    rw [isCompatible_iff]
    rintro ⟨a, b, c, suffix, hl, -⟩
    have hdot : '.' ∈ stripChars "1".toList := by
      rw [hl]
      simp
    revert hdot
    decide +kernel
  have htwo : validateContractVersion "²" =
    .error (.valueError "invalid literal for int() with base 10: '²'") := by
    decide +kernel
  refine ⟨⟨hone, hbare⟩, htwo, fun h => ?_, fun h => ?_⟩
  · obtain ⟨m, hm⟩ := h.2 hbare
    rw [hone] at hm
    cases hm
  · by_cases hs : IsCompatible "²"
    · have hok := h.1 hs
      rw [htwo] at hok
      cases hok
    · obtain ⟨m, hm⟩ := h.2 hs
      rw [htwo] at hm
      cases hm

end Cer
