import Cer.Contract.Errors
import Cer.Lib.DateTime
import Cer.Lib.FloatText
import Cer.Lib.Sha256

/-!
# What the service takes from its runtime

The standard library's SHA-256 and the text of floats are parameters, with the laws
the code relies on, and so are the limits of an integer's text and of nesting; `toUtc` is
`cer.runtime.clock.to_utc`.
-/

namespace Cer

open Py

structure Env where
  /-- `hashlib.sha256(data).hexdigest()`. -/
  sha256 : List UInt8 → String
  sha256_length : ∀ data, (sha256 data).length = 64
  sha256_hex : ∀ data, (sha256 data).toList.all isHexLower = true
  floats : FloatText
  /-- `sys.get_int_max_str_digits()`. -/
  intMaxStrDigits : Nat
  /-- How deep `model_dump` follows lists and mappings. -/
  maxDepth : Nat

/-- SHA-256 itself, a float text with the laws, and the limits as they are by default. -/
def Env.reference : Env where
  sha256 := Sha256.hexdigest
  sha256_length := Sha256.length_hexdigest
  sha256_hex := Sha256.hexdigest_isHexLower
  floats := FloatText.exact
  intMaxStrDigits := 4300
  maxDepth := 255

/-- `s.encode("utf-8")`. -/
def encodeUtf8 (s : String) : List UInt8 := s.toUTF8.data.toList

def Env.digest (env : Env) (s : String) : String := env.sha256 (encodeUtf8 s)

/-- The digest tells the two texts apart. -/
def Env.NoCollision (env : Env) (a b : String) : Prop := env.digest a = env.digest b → a = b

/-- `to_utc(dt)`. -/
def toUtc (dt : AwareTime) : Except Exc DateTime :=
  match dt.offset with
  | none => .error (.valueError ("to_utc() requires a timezone-aware datetime; received a naive datetime. " ++
      "Callers must attach an explicit tzinfo before conversion."))
  | some off => match astimezone dt.wall off with
    | some t => .ok t
    | none => .error (.overflowError "date value out of range")

theorem toUtc_utc (t : DateTime) : toUtc ⟨t, some 0⟩ = .ok t := rfl

end Cer
