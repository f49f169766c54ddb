import Cer.Lib.PyText

/-!
# Digits and numerals of every script

`str.isdigit` holds of more characters than `int` can read: the superscripts and the
circled digits are digits and have no decimal value.  The tables are those of Unicode 15.
-/

namespace Py

/-- The zeros of the decimal digits (category Nd): each begins a block of ten. -/
def decimalZeros : List Nat :=
  [0x30, 0x660, 0x6f0, 0x7c0, 0x966, 0x9e6, 0xa66, 0xae6, 0xb66, 0xbe6, 0xc66, 0xce6, 0xd66, 0xde6, 0xe50,
   0xed0, 0xf20, 0x1040, 0x1090, 0x17e0, 0x1810, 0x1946, 0x19d0, 0x1a80, 0x1a90, 0x1b50, 0x1bb0, 0x1c40,
   0x1c50, 0xa620, 0xa8d0, 0xa900, 0xa9d0, 0xa9f0, 0xaa50, 0xabf0, 0xff10, 0x104a0, 0x10d30, 0x11066, 0x110f0,
   0x11136, 0x111d0, 0x112f0, 0x11450, 0x114d0, 0x11650, 0x116c0, 0x11730, 0x118e0, 0x11950, 0x11c50, 0x11d50,
   0x11da0, 0x11f50, 0x16a60, 0x16ac0, 0x16b50, 0x1d7ce, 0x1d7d8, 0x1d7e2, 0x1d7ec, 0x1d7f6, 0x1e140, 0x1e2f0,
   0x1e4f0, 0x1e950, 0x1fbf0]

/-- The digits that are not decimal, as ranges of code points. -/
def otherDigits : List (Nat × Nat) :=
  [(0xb2, 0xb3), (0xb9, 0xb9), (0x1369, 0x1371), (0x19da, 0x19da), (0x2070, 0x2070), (0x2074, 0x2079),
   (0x2080, 0x2089), (0x2460, 0x2468), (0x2474, 0x247c), (0x2488, 0x2490), (0x24ea, 0x24ea), (0x24f5, 0x24fd),
   (0x24ff, 0x24ff), (0x2776, 0x277e), (0x2780, 0x2788), (0x278a, 0x2792), (0x10a40, 0x10a43),
   (0x10e60, 0x10e68), (0x11052, 0x1105a), (0x1f100, 0x1f10a)]

/-- `unicodedata.decimal`. -/
def decimalDigit (c : Char) : Option Nat :=
  decimalZeros.findSome? fun z => if z ≤ c.toNat ∧ c.toNat < z + 10 then some (c.toNat - z) else none

def isDigitChar (c : Char) : Bool :=
  (decimalDigit c).isSome || otherDigits.any fun r => r.1 ≤ c.toNat && c.toNat ≤ r.2

/-- `str.isdigit()`. -/
def isdigit (cs : List Char) : Bool := !cs.isEmpty && cs.all isDigitChar

/-- The number that decimal digits denote. -/
def decimalValue (cs : List Char) : Nat := cs.foldl (fun n c => 10 * n + (decimalDigit c).getD 0) 0

/-- `sys.int_info.default_max_str_digits`. -/
def maxStrDigits : Nat := 4300

/-- `int(text)` of a text for which `isdigit` holds; the error is the text of the `ValueError`. -/
def intOfDigits (cs : List Char) : Except String Nat :=
  let digits := cs.takeWhile fun c => (decimalDigit c).isSome
  if maxStrDigits < digits.length then
    .error (s!"Exceeds the limit ({maxStrDigits} digits) for integer string conversion: value has {digits.length} " ++
      "digits; use sys.set_int_max_str_digits() to increase the limit")
  else if digits.length < cs.length then
    .error s!"invalid literal for int() with base 10: {repr (String.ofList cs)}"
  else .ok (decimalValue cs)

theorem decimalDigit_ascii {c : Char} (h : '0' ≤ c ∧ c ≤ '9') : decimalDigit c = some (c.toNat - 48) := by
  have hn : 48 ≤ c.toNat ∧ c.toNat ≤ 57 := h
  have hblock : (48 : Nat) ≤ c.toNat ∧ c.toNat < 48 + 10 := by omega
  unfold decimalDigit decimalZeros
  rw [List.findSome?_cons, if_pos hblock]

theorem isDigitChar_of_decimal {c : Char} (h : (decimalDigit c).isSome = true) : isDigitChar c = true := by
  unfold isDigitChar
  rw [h, Bool.true_or]

/-- `int` reads at most 4300 decimal digits, and nothing else. -/
theorem intOfDigits_ok {cs : List Char} (hlen : cs.length ≤ maxStrDigits)
    (hall : ∀ c ∈ cs, (decimalDigit c).isSome = true) : intOfDigits cs = .ok (decimalValue cs) := by
  have htake : (cs.takeWhile fun c => (decimalDigit c).isSome) = cs := List.takeWhile_eq_self_iff.2 hall
  unfold intOfDigits
  rw [htake, if_neg (by omega), if_neg (by omega)]

theorem intOfDigits_error {cs : List Char}
    (h : ¬ (cs.length ≤ maxStrDigits ∧ ∀ c ∈ cs, (decimalDigit c).isSome = true)) : ∃ m,
    intOfDigits cs = .error m := by
  unfold intOfDigits
  by_cases hlong : maxStrDigits < (cs.takeWhile fun c => (decimalDigit c).isSome).length
  · exact ⟨_, if_pos hlong⟩
  · rw [if_neg hlong]
    by_cases hshort : (cs.takeWhile fun c => (decimalDigit c).isSome).length < cs.length
    · exact ⟨_, if_pos hshort⟩
    · have hle := (List.takeWhile_prefix (l := cs) fun c => (decimalDigit c).isSome).length_le
      have heq := (List.takeWhile_prefix (l := cs) fun c => (decimalDigit c).isSome).eq_of_length (by omega)
      refine absurd ⟨?_, List.takeWhile_eq_self_iff.1 heq⟩ h
      rw [heq] at hlong
      omega

end Py
