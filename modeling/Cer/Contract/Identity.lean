import Cer.Contract.Errors
import Cer.Lib.PyText

/-!
# Identity kinds

Generated identities (`exp_`, `run_`, ...) are a prefix and a token of hexadecimal
digits; logical ones (`strategy_id`, `strategy_version`) are supplied by the caller
and only checked for shape.
-/

namespace Cer

def maxIdentifierLength : Nat := 128

structure IdKind where
  name : String
  idPrefix : String
  generated : Bool
deriving DecidableEq

/-- `ID_KINDS`; a logical kind has no prefix. -/
def idKinds : List IdKind :=
  [⟨"strategy_id", "", false⟩, ⟨"strategy_version", "", false⟩, ⟨"experiment_id", "exp_", true⟩,
   ⟨"run_id", "run_", true⟩, ⟨"evidence_id", "ev_", true⟩, ⟨"artifact_id", "art_", true⟩,
   ⟨"trade_id", "trd_", true⟩, ⟨"decision_id", "dec_", true⟩, ⟨"execution_id", "exe_", true⟩,
   ⟨"strategy_instance_id", "si_", true⟩]

def idError (message : String) : Exc := ErrorClass.identityError.exc message

/-- `_kind`. -/
def kindOf (kindName : String) : Except Exc IdKind :=
  match idKinds.find? (·.name == kindName) with
  | some k => .ok k
  | none => .error (idError s!"unknown identity kind {Py.repr kindName}")

def rejectEmptyOrPadded (kindName value : String) : Except Exc Unit :=
  if value == "" then .error (idError s!"{kindName} must not be empty")
  else if value != Py.strip value then
    .error (idError s!"{kindName} {Py.repr value} must not have leading/trailing whitespace")
  else if Py.strip value == "" then .error (idError s!"{kindName} must not be whitespace-only")
  else .ok ()

def rejectOverLong (kindName value : String) : Except Exc Unit :=
  if maxIdentifierLength < value.length then
    .error (idError s!"{kindName} exceeds max length {maxIdentifierLength} (got {value.length} chars)")
  else .ok ()

/-- A character of `[0-9a-fA-F-]`. -/
def isTokenChar (c : Char) : Bool := (Py.hexVal c).isSome || c == '-'

/-- A character of `[A-Za-z0-9._-]`. -/
def isLogicalChar (c : Char) : Bool := c.isAlphanum || c == '.' || c == '_' || c == '-'

def validateGeneratedId (kindName value : String) : Except Exc String := do
  let kind ← kindOf kindName
  if !kind.generated then
    throw (idError s!"identity kind {Py.repr kindName} is not a generated kind; use validate_logical_id instead")
  rejectEmptyOrPadded kindName value
  rejectOverLong kindName value
  if !kind.idPrefix.toList.isPrefixOf value.toList then
    throw (idError s!"{kindName} {Py.repr value} must start with prefix {Py.repr kind.idPrefix}")
  let suffix := value.toList.drop kind.idPrefix.length
  if suffix.isEmpty || !suffix.all isTokenChar then
    throw (idError
      s!"{kindName} {Py.repr value} has an invalid suffix after prefix {Py.repr kind.idPrefix} (expected a hex/ULID-like token)")
  return value

def validateLogicalId (kindName value : String) : Except Exc String := do
  let kind ← kindOf kindName
  if kind.generated then
    throw (idError s!"identity kind {Py.repr kindName} is a generated kind; use validate_generated_id instead")
  rejectEmptyOrPadded kindName value
  rejectOverLong kindName value
  if !((value.toList.head?.map Char.isAlphanum).getD false && value.toList.all isLogicalChar) then
    throw (idError
      s!"{kindName} {Py.repr value} must start with a letter/digit and contain only letters, digits, '.', '_' or '-'")
  return value

def validateId (kindName value : String) : Except Exc String := do
  let kind ← kindOf kindName
  if kind.generated then validateGeneratedId kindName value else validateLogicalId kindName value

def validateStrategyId (value : String) : Except Exc String := validateLogicalId "strategy_id" value
def validateStrategyVersion (value : String) : Except Exc String := validateLogicalId "strategy_version" value
def validateExperimentId (value : String) : Except Exc String := validateGeneratedId "experiment_id" value
def validateRunId (value : String) : Except Exc String := validateGeneratedId "run_id" value
def validateEvidenceId (value : String) : Except Exc String := validateGeneratedId "evidence_id" value
def validateArtifactId (value : String) : Except Exc String := validateGeneratedId "artifact_id" value

/-- A validator hands its argument back. -/
theorem validateGeneratedId_eq {kindName value v : String} (h : validateGeneratedId kindName value = .ok v) :
    v = value := by
  unfold validateGeneratedId at h
  simp only [bind, Except.bind, pure, Except.pure, throw, throwThe, MonadExceptOf.throw] at h
  repeat' split at h
  all_goals first | cases h; done | (injection h with h; exact h.symm)

theorem validateLogicalId_eq {kindName value v : String}
    (h : validateLogicalId kindName value = .ok v) : v = value := by
  unfold validateLogicalId at h
  simp only [bind, Except.bind, pure, Except.pure, throw, throwThe, MonadExceptOf.throw] at h
  repeat' split at h
  all_goals first | cases h; done | (injection h with h; exact h.symm)

theorem kindOf_error {kindName : String} {e : Exc} (h : kindOf kindName = .error e) : ∃ m, e = idError m := by
  unfold kindOf at h
  split at h
  · cases h
  · cases h
    exact ⟨_, rfl⟩

theorem rejectEmptyOrPadded_error {kindName value : String} {e : Exc}
    (h : rejectEmptyOrPadded kindName value = .error e) :
    ∃ m, e = idError m := by
  unfold rejectEmptyOrPadded at h
  repeat' split at h
  all_goals cases h
  all_goals exact ⟨_, rfl⟩

theorem rejectOverLong_error {kindName value : String} {e : Exc} (h : rejectOverLong kindName value = .error e) :
    ∃ m, e = idError m := by
  unfold rejectOverLong at h
  split at h
  · cases h
    exact ⟨_, rfl⟩
  · cases h

/-- A validator raises nothing but `IdentityError`. -/
theorem validateGeneratedId_error {kindName value : String} {e : Exc}
    (h : validateGeneratedId kindName value = .error e) :
    ∃ m, e = idError m := by
  unfold validateGeneratedId at h
  simp only [bind, Except.bind, pure, Except.pure, throw, throwThe, MonadExceptOf.throw] at h
  repeat' split at h
  all_goals first
    | exact kindOf_error (by cases h; assumption)
    | exact rejectEmptyOrPadded_error (by cases h; assumption)
    | exact rejectOverLong_error (by cases h; assumption)
    | (cases h; done)
    | (cases h; exact ⟨_, rfl⟩)

theorem validateLogicalId_error {kindName value : String} {e : Exc}
    (h : validateLogicalId kindName value = .error e) :
    ∃ m, e = idError m := by
  unfold validateLogicalId at h
  simp only [bind, Except.bind, pure, Except.pure, throw, throwThe, MonadExceptOf.throw] at h
  repeat' split at h
  all_goals first
    | exact kindOf_error (by cases h; assumption)
    | exact rejectEmptyOrPadded_error (by cases h; assumption)
    | exact rejectOverLong_error (by cases h; assumption)
    | (cases h; done)
    | (cases h; exact ⟨_, rfl⟩)

/-! ## Generated identities -/

/-- `uuid.hex`: 32 hexadecimal digits. -/
structure UuidHex where
  hex : String
  length_hex : hex.length = 32
  isHex : hex.toList.all Py.isHexLower = true

/-- `generate_id`, with the `uuid4` it draws. -/
def generateId (kindName : String) (u : UuidHex) : Except Exc String := do
  let kind ← kindOf kindName
  if !kind.generated then
    throw (idError s!"identity kind {Py.repr kindName} is caller-supplied and cannot be generated")
  return kind.idPrefix ++ u.hex

def newArtifactId (u : UuidHex) : String := "art_" ++ u.hex

theorem isTokenChar_of_isHexLower {c : Char} (h : Py.isHexLower c = true) : isTokenChar c = true := by
  unfold Py.isHexLower at h
  unfold isTokenChar Py.hexVal
  simp only [Bool.or_eq_true, Bool.and_eq_true, decide_eq_true_eq, Char.le_def] at h ⊢
  have h0 : ('0' : Char).val = 48 := rfl
  have h9 : ('9' : Char).val = 57 := rfl
  have ha : ('a' : Char).val = 97 := rfl
  have hf : ('f' : Char).val = 102 := rfl
  rw [h0, h9, ha, hf] at h
  left
  have hn : c.toNat = c.val.toNat := rfl
  rcases h with ⟨h1, h2⟩ | ⟨h1, h2⟩
  · have h1' : 48 ≤ c.toNat := h1
    have h2' : c.toNat ≤ 57 := h2
    simp [h1', h2']
  · have h1' : 97 ≤ c.toNat := h1
    have h2' : c.toNat ≤ 102 := h2
    have h3 : ¬ (48 ≤ c.toNat ∧ c.toNat ≤ 57) := by omega
    simp [h1', h2', h3]

/-- No whitespace at either end: nothing is stripped. -/
theorem strip_eq_self {s : String} (h : ∀ c ∈ s.toList, Py.isSpace c = false) : Py.strip s = s := by
  have hdrop : ∀ l : List Char, (∀ c ∈ l, Py.isSpace c = false) → l.dropWhile Py.isSpace = l := by
    intro l hl
    cases l with
    | nil => rfl
    | cons c l => rw [List.dropWhile_cons_of_neg (by rw [hl c (List.mem_cons_self ..)]; exact Bool.false_ne_true)]
  unfold Py.strip Py.stripChars
  rw [hdrop s.toList h, hdrop s.toList.reverse (fun c hc => h c (List.mem_reverse.1 hc)), List.reverse_reverse,
    String.ofList_toList]

theorem not_isSpace_of_isTokenChar {c : Char} (h : isTokenChar c = true) : Py.isSpace c = false := by
  unfold isTokenChar Py.hexVal at h
  rw [Bool.or_eq_true, beq_iff_eq] at h
  unfold Py.isSpace
  rcases h with h | rfl
  · have hn : 48 ≤ c.toNat ∧ c.toNat ≤ 102 := by
      by_cases h1 : 48 ≤ c.toNat ∧ c.toNat ≤ 57
      · omega
      · by_cases h2 : 97 ≤ c.toNat ∧ c.toNat ≤ 102
        · omega
        · by_cases h3 : 65 ≤ c.toNat ∧ c.toNat ≤ 70
          · omega
          · simp [h1, h2, h3] at h
    simp only [Bool.or_eq_false_iff, Bool.and_eq_false_iff, decide_eq_false_iff_not, beq_eq_false_iff_ne]
    omega
  · decide

/-- Text without whitespace is not refused as empty or padded. -/
theorem rejectEmptyOrPadded_of {kindName value : String} (hne : value ≠ "")
    (hspace : ∀ c ∈ value.toList, Py.isSpace c = false) : rejectEmptyOrPadded kindName value = .ok () := by
  unfold rejectEmptyOrPadded
  rw [strip_eq_self hspace]
  simp [hne]

/-- A kind's prefix and a token pass the kind's validator. -/
theorem validateGeneratedId_append {kindName : String} {kind : IdKind} (hk : kindOf kindName = .ok kind)
    (hg : kind.generated = true) (hspace : ∀ c ∈ kind.idPrefix.toList, Py.isSpace c = false)
    {t : String} (hne : t ≠ "")
    (htoken : ∀ c ∈ t.toList, isTokenChar c = true) (hlen : (kind.idPrefix ++ t).length ≤ maxIdentifierLength) :
    validateGeneratedId kindName (kind.idPrefix ++ t) = .ok (kind.idPrefix ++ t) := by
  have hl : (kind.idPrefix ++ t).toList = kind.idPrefix.toList ++ t.toList := String.toList_append
  have hnil : t.toList ≠ [] := fun h => hne (String.toList_eq_nil_iff.1 h)
  have hreject : rejectEmptyOrPadded kindName (kind.idPrefix ++ t) = .ok () := by
    refine rejectEmptyOrPadded_of (fun h => hnil ?_) fun c hc => ?_
    · have hempty := congrArg String.toList h
      rw [hl] at hempty
      exact (List.append_eq_nil_iff.1 hempty).2
    · rw [hl] at hc
      rcases List.mem_append.1 hc with hc | hc
      · exact hspace c hc
      · exact not_isSpace_of_isTokenChar (htoken c hc)
  have hlong : rejectOverLong kindName (kind.idPrefix ++ t) = .ok () := by
    unfold rejectOverLong
    rw [if_neg (Nat.not_lt.2 hlen)]
  have hsuffix : t.toList.isEmpty = false := List.isEmpty_eq_false_iff.2 hnil
  have hprefix : kind.idPrefix.toList.isPrefixOf (kind.idPrefix ++ t).toList = true := by
    rw [hl, List.isPrefixOf_iff_prefix]
    exact List.prefix_append _ _
  have hdrop : (kind.idPrefix ++ t).toList.drop kind.idPrefix.length = t.toList := by
    rw [hl, ← String.length_toList]
    exact List.drop_left
  have hall : t.toList.all isTokenChar = true := List.all_eq_true.2 htoken
  unfold validateGeneratedId
  rw [hk]
  simp only [bind, Except.bind, hg, hreject, hlong, hprefix, hdrop, hsuffix, hall]
  rfl

theorem kindOf_name {kind : IdKind} (h : kind ∈ idKinds) : kindOf kind.name = .ok kind := by
  simp only [idKinds, List.mem_cons, List.not_mem_nil, or_false] at h
  rcases h with rfl | rfl | rfl | rfl | rfl | rfl | rfl | rfl | rfl | rfl <;> rfl

theorem idPrefix_not_space {kind : IdKind} (h : kind ∈ idKinds) : ∀ c ∈ kind.idPrefix.toList,
    Py.isSpace c = false := by
  have hall : (idKinds.all fun k => k.idPrefix.toList.all fun c => !Py.isSpace c) = true := by decide
  intro c hc
  simpa using List.all_eq_true.1 (List.all_eq_true.1 hall kind h) c hc

theorem idPrefix_length {kind : IdKind} (h : kind ∈ idKinds) : kind.idPrefix.length ≤ 4 := by
  have hall : (idKinds.all fun k => decide (k.idPrefix.length ≤ 4)) = true := by decide
  simpa using List.all_eq_true.1 hall kind h

/-- A kind's prefix and the digits of a UUID pass the kind's validator. -/
theorem validateGeneratedId_new {kind : IdKind} (hk : kind ∈ idKinds) (hg : kind.generated = true) (u : UuidHex) :
    validateGeneratedId kind.name (kind.idPrefix ++ u.hex) = .ok (kind.idPrefix ++ u.hex) := by
  have hlength : (kind.idPrefix ++ u.hex).length = kind.idPrefix.length + 32 := by
    rw [String.length_append, u.length_hex]
  have hshort : kind.idPrefix.length ≤ 4 := idPrefix_length hk
  refine validateGeneratedId_append (kindOf_name hk) hg (idPrefix_not_space hk) ?_ ?_ ?_
  · intro h
    have hu := u.length_hex
    rw [h] at hu
    cases hu
  · exact fun c hc => isTokenChar_of_isHexLower (List.all_eq_true.1 u.isHex c hc)
  · rw [hlength]
    unfold maxIdentifierLength
    omega

/-- A generated identity passes its validator. -/
theorem validateArtifactId_new (u : UuidHex) : validateArtifactId (newArtifactId u) = .ok (newArtifactId u) :=
  @validateGeneratedId_new ⟨"artifact_id", "art_", true⟩ (by decide) rfl u

end Cer
