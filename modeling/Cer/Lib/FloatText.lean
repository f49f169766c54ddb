import Cer.Lib.JsonRoundTrip

/-!
# A float text that reads back

`FloatText.exact` writes a float as its signed mantissa and its binary exponent.  It is
an instance of the laws of `FloatText`, for the runs that fix every parameter.
-/

namespace Py

/-- An optional minus and the digits of `n`. -/
def signedDigits (neg : Bool) (n : Nat) : List Char :=
  if neg then '-' :: Nat.toDigits 10 n else Nat.toDigits 10 n

def exponentDigits : Int → List Char
  | .ofNat n => '+' :: Nat.toDigits 10 n
  | .negSucc n => '-' :: Nat.toDigits 10 (n + 1)

def exactRepr (x : Binary64) : List Char :=
  signedDigits x.neg x.mant ++ '.' :: '0' :: 'e' :: exponentDigits x.exp

def readSigned : List Char → Bool × Nat
  | '-' :: ds => (true, Nat.ofDigitChars 10 ds 0)
  | ds => (false, Nat.ofDigitChars 10 ds 0)

def readExponent : List Char → Int
  | '-' :: ds => -(Nat.ofDigitChars 10 ds 0 : Int)
  | _ :: ds => (Nat.ofDigitChars 10 ds 0 : Int)
  | [] => 0

/-- The float with these parts; a text that is no float's reads as infinity. -/
def ofParts (neg : Bool) (mant : Nat) (exp : Int) : PyFloat :=
  if h : (2 ^ 52 ≤ mant ∧ mant < 2 ^ 53 ∧ -1074 ≤ exp ∧ exp ≤ 971) ∨ (mant < 2 ^ 52 ∧ exp = -1074) then
    .fin ⟨neg, mant, exp, h⟩
  else .inf neg

def isWholeChar (c : Char) : Bool := c.isDigit || c == '-'

def exactParse (cs : List Char) : PyFloat :=
  let whole := cs.takeWhile isWholeChar
  let m := readSigned whole
  ofParts m.1 m.2 (readExponent (cs.drop (whole.length + 3)))

theorem signedDigits_chars (neg : Bool) (n : Nat) : ∀ c ∈ signedDigits neg n, isWholeChar c = true := by
  intro c hc
  unfold signedDigits at hc
  unfold isWholeChar
  cases neg with
  | false =>
    have := toDigits_isDigit n c hc
    simp [this]
  | true =>
    rcases List.mem_cons.1 hc with rfl | hc
    · rfl
    · have := toDigits_isDigit n c hc
      simp [this]

theorem readSigned_signedDigits (neg : Bool) (n : Nat) : readSigned (signedDigits neg n) = (neg, n) := by
  cases neg with
  | true =>
    show (true, Nat.ofDigitChars 10 (Nat.toDigits 10 n) 0) = (true, n)
    rw [Nat.ofDigitChars_ten_toDigits]
  | false =>
    have hh := head?_toDigits_ne_minus n
    show readSigned (Nat.toDigits 10 n) = (false, n)
    unfold readSigned
    split
    · next ds h =>
      rw [h] at hh
      simp at hh
    · rw [Nat.ofDigitChars_ten_toDigits]

theorem readExponent_exponentDigits (e : Int) : readExponent (exponentDigits e) = e := by
  cases e with
  | ofNat n =>
    show ((Nat.ofDigitChars 10 (Nat.toDigits 10 n) 0 : Nat) : Int) = Int.ofNat n
    rw [Nat.ofDigitChars_ten_toDigits]
    rfl
  | negSucc n =>
    show -((Nat.ofDigitChars 10 (Nat.toDigits 10 (n + 1)) 0 : Nat) : Int) = Int.negSucc n
    rw [Nat.ofDigitChars_ten_toDigits]
    rfl

theorem takeWhile_exactRepr (x : Binary64) :
    (exactRepr x).takeWhile isWholeChar = signedDigits x.neg x.mant :=
  takeWhile_append_of_all (signedDigits_chars x.neg x.mant) fun c r h => by
    injection h with h _
    rw [← h]
    rfl

theorem exactParse_exactRepr (x : Binary64) : exactParse (exactRepr x) = .fin x := by
  unfold exactParse
  simp only [takeWhile_exactRepr, readSigned_signedDigits]
  have hd : (exactRepr x).drop ((signedDigits x.neg x.mant).length + 3) = exponentDigits x.exp := by
    unfold exactRepr
    rw [← List.drop_drop, List.drop_left]
    rfl
  rw [hd, readExponent_exponentDigits]
  exact dif_pos x.normal

theorem isIntLiteral_signedDigits (neg : Bool) (n : Nat) : isIntLiteral (signedDigits neg n) = true := by
  cases neg with
  | true => exact isDigitsLiteral_toDigits n
  | false => exact isIntLiteral_writeInt (.ofNat n)

theorem isExponent_exponentDigits (e : Int) : isExponent ('e' :: exponentDigits e) = true := by
  have hsign : ∀ (s : Char) (n : Nat), (s = '-' ∨ s = '+') →
    isExponent ('e' :: s :: Nat.toDigits 10 n) = true := by
    intro s n hs
    have hne : Nat.toDigits 10 n ≠ [] := Nat.toDigits_ne_nil
    have hall : (Nat.toDigits 10 n).all (·.isDigit) = true := List.all_eq_true.2 (toDigits_isDigit n)
    have hs' : (s == '-' || s == '+') = true := by
      rcases hs with rfl | rfl <;> rfl
    simp only [isExponent, hall, hs', bne_iff_ne.2 hne, Bool.or_true, Bool.and_true]
    rfl
  cases e with
  | ofNat n => exact hsign '+' n (Or.inr rfl)
  | negSucc n => exact hsign '-' (n + 1) (Or.inl rfl)

theorem isFloatLiteral_exactRepr (x : Binary64) : isFloatLiteral (exactRepr x) = true := by
  have hw : (exactRepr x).takeWhile (fun c => c.isDigit || c == '-') = signedDigits x.neg x.mant :=
    takeWhile_exactRepr x
  have hd : (exactRepr x).drop (signedDigits x.neg x.mant).length = '.' :: '0' :: 'e' :: exponentDigits x.exp :=
    List.drop_left
  have hf : ('0' :: 'e' :: exponentDigits x.exp).takeWhile (·.isDigit) = ['0'] := rfl
  unfold isFloatLiteral
  simp only [hw, hd, hf, isIntLiteral_signedDigits, Bool.true_and]
  exact isExponent_exponentDigits x.exp

theorem exactRepr_chars (x : Binary64) : ∀ c ∈ exactRepr x, isNumberChar c = true := by
  intro c hc
  have hwhole : ∀ c, isWholeChar c = true → isNumberChar c = true := by
    intro c h
    unfold isWholeChar at h
    rw [Bool.or_eq_true] at h
    rcases h with h | h
    · exact isNumberChar_of_isDigit h
    · rw [beq_iff_eq.1 h]
      rfl
  rcases List.mem_append.1 hc with hc | hc
  · exact hwhole c (signedDigits_chars _ _ c hc)
  · simp only [List.mem_cons] at hc
    rcases hc with rfl | rfl | rfl | hc
    · rfl
    · rfl
    · rfl
    · cases he : x.exp with
      | ofNat n =>
        rw [he] at hc
        rcases List.mem_cons.1 hc with rfl | hc
        · rfl
        · exact isNumberChar_of_isDigit (toDigits_isDigit n c hc)
      | negSucc n =>
        rw [he] at hc
        rcases List.mem_cons.1 hc with rfl | hc
        · rfl
        · exact isNumberChar_of_isDigit (toDigits_isDigit (n + 1) c hc)

def FloatText.exact : FloatText where
  repr := exactRepr
  parse := exactParse
  chars := exactRepr_chars
  literal := isFloatLiteral_exactRepr
  parse_repr := exactParse_exactRepr

end Py
