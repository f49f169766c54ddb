import Mathlib.Algebra.Group.Int.Defs
import Mathlib.Algebra.GroupWithZero.Nat
import Mathlib.Data.List.TakeWhile

/-!
# Text as Python's `str` sees it

The few string operations a service written in Python leans on: the whitespace
`str.strip` removes, `repr`, hexadecimal and zero-padded decimal digits.  Text is
`String` at the interfaces and `List Char` inside the readers and writers.
-/

namespace Py

/-! ## Whitespace -/

/-- The code points for which `str.isspace` holds. -/
def isSpace (c : Char) : Bool :=
  let n := c.toNat
  (9 ≤ n && n ≤ 13) || (28 ≤ n && n ≤ 32) || n == 0x85 || n == 0xA0 || n == 0x1680 ||
    (0x2000 ≤ n && n ≤ 0x200A) || n == 0x2028 || n == 0x2029 || n == 0x202F || n == 0x205F ||
    n == 0x3000

/-- `str.strip()` on the characters. -/
def stripChars (cs : List Char) : List Char :=
  ((cs.dropWhile isSpace).reverse.dropWhile isSpace).reverse

def strip (s : String) : String := String.ofList (stripChars s.toList)

/-- `not s or not s.strip()`. -/
def isBlank (s : String) : Bool := s == "" || strip s == ""

theorem stripChars_eq_nil_iff (cs : List Char) : stripChars cs = [] ↔ ∀ c ∈ cs, isSpace c = true := by
  unfold stripChars
  rw [List.reverse_eq_nil_iff, List.dropWhile_eq_nil_iff]
  constructor
  · intro h
    have hnil : cs.dropWhile isSpace = [] := by
      cases hd : cs.dropWhile isSpace with
      | nil => rfl
      | cons a as =>
        have hne : cs.dropWhile isSpace ≠ [] := by rw [hd]; exact List.cons_ne_nil _ _
        have hhead := List.head_dropWhile_not isSpace hne
        have hmem := h _ (List.mem_reverse.2 (List.head_mem hne))
        rw [hmem] at hhead
        cases hhead
    exact List.dropWhile_eq_nil_iff.1 hnil
  · intro h c hc
    exact h c ((List.dropWhile_sublist isSpace).subset (List.mem_reverse.1 hc))

theorem isBlank_iff (s : String) : isBlank s = true ↔ ∀ c ∈ s.toList, isSpace c = true := by
  unfold isBlank strip
  rw [Bool.or_eq_true, beq_iff_eq, beq_iff_eq, ← stripChars_eq_nil_iff]
  constructor
  · rintro (rfl | h)
    · rfl
    · have := congrArg String.toList h
      simpa using this
  · intro h
    right
    rw [h]

/-! ## Digits -/

/-- The hexadecimal digit of `n < 16`, lower case. -/
def hexDigit (n : Nat) : Char := if n < 10 then Char.ofNat (48 + n) else Char.ofNat (87 + n)

/-- The value of a hexadecimal digit of either case. -/
def hexVal (c : Char) : Option Nat :=
  let n := c.toNat
  if 48 ≤ n ∧ n ≤ 57 then some (n - 48)
  else if 97 ≤ n ∧ n ≤ 102 then some (n - 87)
  else if 65 ≤ n ∧ n ≤ 70 then some (n - 55)
  else none

theorem hexVal_hexDigit : ∀ d, d < 16 → hexVal (hexDigit d) = some d := by
  decide

/-- `c in "0123456789abcdef"`. -/
def isHexLower (c : Char) : Bool := ('0' ≤ c && c ≤ '9') || ('a' ≤ c && c ≤ 'f')

/-- `n` in exactly `w` decimal digits, zero padded (the low `w` digits when it has more). -/
def padDigits : Nat → Nat → List Char
  | 0, _ => []
  | w + 1, n => padDigits w (n / 10) ++ [Nat.digitChar (n % 10)]

def digitVal (c : Char) : Option Nat := if c.isDigit then some (c.toNat - 48) else none

/-- The number a run of decimal digits spells. -/
def readDigits (cs : List Char) : Option Nat :=
  cs.foldl (fun acc c => match acc, digitVal c with
    | some n, some d => some (10 * n + d)
    | _, _ => none) (some 0)

theorem length_padDigits (w n : Nat) : (padDigits w n).length = w := by
  induction w generalizing n with
  | zero => rfl
  | succ w ih => simp [padDigits, ih]

theorem digitVal_digitChar : ∀ d, d < 10 → digitVal (Nat.digitChar d) = some d := by
  decide

/-- Reading a padded number gives it back. -/
theorem readDigits_padDigits (w n : Nat) (h : n < 10 ^ w) : readDigits (padDigits w n) = some n := by
  induction w generalizing n with
  | zero =>
    have : n = 0 := by simpa using h
    subst this
    rfl
  | succ w ih =>
    have hlt : n / 10 < 10 ^ w := by
      rw [Nat.div_lt_iff_lt_mul (by omega)]
      simpa [Nat.pow_succ] using h
    have hrec := ih (n / 10) hlt
    unfold readDigits at hrec ⊢
    rw [padDigits, List.foldl_append, hrec]
    simp only [List.foldl_cons, List.foldl_nil, digitVal_digitChar (n % 10) (Nat.mod_lt _ (by omega))]
    congr 1
    omega

/-! ## The order of texts -/

/-- What precedes the first difference does not count. -/
theorem append_lt_append {α : Type} [LT α] (l : List α) {r r' : List α} (h : r < r') : l ++ r < l ++ r' := by
  induction l with
  | nil => exact h
  | cons c l ih =>
    rw [List.cons_append, List.cons_append, List.cons_lt_cons_iff]
    exact Or.inr ⟨rfl, ih⟩

/-! ## `repr` -/

/-- One character of `repr(s)` inside quotes `q`; characters from U+00A1 on are kept as they are. -/
def reprChar (q : Nat) (c : Char) : List Char :=
  let n := c.toNat
  let backslash := Char.ofNat 92
  if n == q || n == 92 then [backslash, c]
  else if n == 9 then [backslash, 't']
  else if n == 10 then [backslash, 'n']
  else if n == 13 then [backslash, 'r']
  else if n < 32 || (127 ≤ n && n ≤ 160) || n == 173 then [backslash, 'x', hexDigit (n / 16), hexDigit (n % 16)]
  else [c]

/-- `repr(s)`: single quotes unless the text has a single quote and no double one. -/
def repr (s : String) : String :=
  let q := if s.toList.any (·.toNat == 39) && !s.toList.any (·.toNat == 34) then 34 else 39
  String.ofList (Char.ofNat q :: s.toList.flatMap (reprChar q) ++ [Char.ofNat q])

example : repr "it's" = "\"it's\"" := by decide

end Py
