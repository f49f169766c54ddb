import Cer.Lib.PyText

/-!
# SHA-256

The digest over a list of bytes, computed on natural numbers modulo `2 ^ 32`, and its
text in 64 lower-case hexadecimal digits.
-/

namespace Sha256

/-! ## Words -/

def word : Nat := 2 ^ 32

def rotr (n x : Nat) : Nat := (x >>> n ||| x <<< (32 - n)) % word

def bigSigma0 (x : Nat) : Nat := rotr 2 x ^^^ rotr 13 x ^^^ rotr 22 x
def bigSigma1 (x : Nat) : Nat := rotr 6 x ^^^ rotr 11 x ^^^ rotr 25 x
def smallSigma0 (x : Nat) : Nat := rotr 7 x ^^^ rotr 18 x ^^^ x >>> 3
def smallSigma1 (x : Nat) : Nat := rotr 17 x ^^^ rotr 19 x ^^^ x >>> 10

def ch (x y z : Nat) : Nat := (x &&& y) ^^^ ((word - 1 - x) &&& z)
def maj (x y z : Nat) : Nat := (x &&& y) ^^^ (x &&& z) ^^^ (y &&& z)

/-- The round constants. -/
def constants : List Nat :=
  [0x428a2f98, 0x71374491, 0xb5c0fbcf, 0xe9b5dba5, 0x3956c25b, 0x59f111f1, 0x923f82a4, 0xab1c5ed5,
   0xd807aa98, 0x12835b01, 0x243185be, 0x550c7dc3, 0x72be5d74, 0x80deb1fe, 0x9bdc06a7, 0xc19bf174,
   0xe49b69c1, 0xefbe4786, 0x0fc19dc6, 0x240ca1cc, 0x2de92c6f, 0x4a7484aa, 0x5cb0a9dc, 0x76f988da,
   0x983e5152, 0xa831c66d, 0xb00327c8, 0xbf597fc7, 0xc6e00bf3, 0xd5a79147, 0x06ca6351, 0x14292967,
   0x27b70a85, 0x2e1b2138, 0x4d2c6dfc, 0x53380d13, 0x650a7354, 0x766a0abb, 0x81c2c92e, 0x92722c85,
   0xa2bfe8a1, 0xa81a664b, 0xc24b8b70, 0xc76c51a3, 0xd192e819, 0xd6990624, 0xf40e3585, 0x106aa070,
   0x19a4c116, 0x1e376c08, 0x2748774c, 0x34b0bcb5, 0x391c0cb3, 0x4ed8aa4a, 0x5b9cca4f, 0x682e6ff3,
   0x748f82ee, 0x78a5636f, 0x84c87814, 0x8cc70208, 0x90befffa, 0xa4506ceb, 0xbef9a3f7, 0xc67178f2]

/-! ## The compression function -/

structure State where
  a : Nat
  b : Nat
  c : Nat
  d : Nat
  e : Nat
  f : Nat
  g : Nat
  h : Nat
deriving DecidableEq

def initial : State :=
  ⟨0x6a09e667, 0xbb67ae85, 0x3c6ef372, 0xa54ff53a, 0x510e527f, 0x9b05688c, 0x1f83d9ab, 0x5be0cd19⟩

/-- One round with its constant and message word. -/
def round (s : State) (kw : Nat × Nat) : State :=
  let t1 := s.h + bigSigma1 s.e + ch s.e s.f s.g + kw.1 + kw.2
  let t2 := bigSigma0 s.a + maj s.a s.b s.c
  ⟨(t1 + t2) % word, s.a, s.b, s.c, (s.d + t1) % word, s.e, s.f, s.g⟩

/-- `n` more words of the schedule; the last sixteen stand first, newest first. -/
def extend : Nat → List Nat → List Nat
  | 0, ws => ws
  | n + 1, ws =>
    extend n (((smallSigma1 (ws.getD 1 0) + ws.getD 6 0 + smallSigma0 (ws.getD 14 0) + ws.getD 15 0) % word) :: ws)

def schedule (block : List Nat) : List Nat := (extend 48 block.reverse).reverse

def compress (s : State) (block : List Nat) : State :=
  let r := (constants.zip (schedule block)).foldl round s
  ⟨(s.a + r.a) % word, (s.b + r.b) % word, (s.c + r.c) % word, (s.d + r.d) % word,
    (s.e + r.e) % word, (s.f + r.f) % word, (s.g + r.g) % word, (s.h + r.h) % word⟩

/-! ## Padding -/

/-- `n` in `w` bytes, most significant first. -/
def bigEndian : Nat → Nat → List Nat
  | 0, _ => []
  | w + 1, n => bigEndian w (n / 256) ++ [n % 256]

def pad (data : List Nat) : List Nat :=
  let len := data.length
  data ++ 128 :: List.replicate ((119 - len % 64) % 64) 0 ++ bigEndian 8 (8 * len)

def words : List Nat → List Nat
  | a :: b :: c :: d :: rest => (((a * 256 + b) * 256 + c) * 256 + d) :: words rest
  | _ => []

/-- The blocks of sixteen words. -/
def blocks : Nat → List Nat → List (List Nat)
  | 0, _ => []
  | n + 1, ws => ws.take 16 :: blocks n (ws.drop 16)

def digestState (data : List UInt8) : State :=
  let ws := words (pad (data.map UInt8.toNat))
  (blocks (ws.length / 16) ws).foldl compress initial

/-! ## The text -/

/-- The low `w` hexadecimal digits of `n`. -/
def hexDigits : Nat → Nat → List Char
  | 0, _ => []
  | w + 1, n => hexDigits w (n / 16) ++ [Py.hexDigit (n % 16)]

/-- `sha256(data).hexdigest()`. -/
def hexdigest (data : List UInt8) : String :=
  let s := digestState data
  String.ofList (hexDigits 8 s.a ++ hexDigits 8 s.b ++ hexDigits 8 s.c ++ hexDigits 8 s.d ++ hexDigits 8 s.e ++
    hexDigits 8 s.f ++ hexDigits 8 s.g ++ hexDigits 8 s.h)

theorem length_hexDigits (w n : Nat) : (hexDigits w n).length = w := by
  induction w generalizing n with
  | zero => rfl
  | succ w ih => rw [hexDigits, List.length_append, ih]; rfl

theorem isHexLower_hexDigit : ∀ d, d < 16 → Py.isHexLower (Py.hexDigit d) = true := by
  decide

theorem hexDigits_isHexLower (w n : Nat) : (hexDigits w n).all Py.isHexLower = true := by
  induction w generalizing n with
  | zero => rfl
  | succ w ih =>
    rw [hexDigits, List.all_append, ih]
    show (Py.isHexLower (Py.hexDigit (n % 16)) && true) = true
    rw [isHexLower_hexDigit _ (Nat.mod_lt _ (by omega))]
    rfl

theorem length_hexdigest (data : List UInt8) : (hexdigest data).length = 64 := by
  unfold hexdigest
  simp [length_hexDigits]

theorem hexdigest_isHexLower (data : List UInt8) : (hexdigest data).toList.all Py.isHexLower = true := by
  unfold hexdigest
  simp only [String.toList_ofList, List.all_append, hexDigits_isHexLower, Bool.and_self]

example : hexdigest [97, 98, 99] = "ba7816bf8f01cfea414140de5dae2223b00361a396177a9cb410ff61f20015ad" := by
  decide +kernel

end Sha256
