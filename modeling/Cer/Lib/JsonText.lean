import Cer.Lib.Json

/-!
# The JSON text, written and read back

`dumps` is `json.dumps(v, sort_keys=True, separators=(",", ":"))` and `loads` is
`json.loads`.  The reader takes any JSON text (blanks, every escape, the three
names Python adds for NaN and the infinities); a lone surrogate escape, which no
`Char` can hold, is refused.
-/

namespace Py

def quoteChar : Char := Char.ofNat 34
def backslash : Char := Char.ofNat 92
def openBrace : Char := Char.ofNat 123
def closeBrace : Char := Char.ofNat 125

/-! ## Writing -/

/-- Four hexadecimal digits. -/
def hex4 (n : Nat) : List Char :=
  [hexDigit (n / 4096), hexDigit (n / 256 % 16), hexDigit (n / 16 % 16), hexDigit (n % 16)]

def highSurrogate (n : Nat) : Nat := 0xD800 + (n - 0x10000) / 0x400
def lowSurrogate (n : Nat) : Nat := 0xDC00 + (n - 0x10000) % 0x400

/-- One character of a string with `ensure_ascii`: a short escape, itself when printable
ASCII, else `\uXXXX`, as a surrogate pair above U+FFFF. -/
def escapeChar (c : Char) : List Char :=
  let n := c.toNat
  if n = 34 ∨ n = 92 then [backslash, c]
  else if n = 8 then [backslash, 'b']
  else if n = 12 then [backslash, 'f']
  else if n = 10 then [backslash, 'n']
  else if n = 13 then [backslash, 'r']
  else if n = 9 then [backslash, 't']
  else if 32 ≤ n ∧ n ≤ 126 then [c]
  else if n < 65536 then backslash :: 'u' :: hex4 n
  else backslash :: 'u' :: hex4 (highSurrogate n) ++ backslash :: 'u' :: hex4 (lowSurrogate n)

def writeStr (s : String) : List Char :=
  quoteChar :: s.toList.flatMap escapeChar ++ [quoteChar]

def writeInt : Int → List Char
  | .ofNat n => Nat.toDigits 10 n
  | .negSucc n => '-' :: Nat.toDigits 10 (n + 1)

section
variable (ft : FloatText)

mutual

/-- The text of a value, items in the order they stand, no blanks. -/
def write : Json → List Char
  | .null => ['n', 'u', 'l', 'l']
  | .bool true => ['t', 'r', 'u', 'e']
  | .bool false => ['f', 'a', 'l', 's', 'e']
  | .int n => writeInt n
  | .float .nan => ['N', 'a', 'N']
  | .float (.inf false) => ['I', 'n', 'f', 'i', 'n', 'i', 't', 'y']
  | .float (.inf true) => ['-', 'I', 'n', 'f', 'i', 'n', 'i', 't', 'y']
  | .float (.fin x) => ft.repr x
  | .str s => writeStr s
  | .arr [] => ['[', ']']
  | .arr (x :: xs) => '[' :: write x ++ writeElems xs
  | .obj [] => [openBrace, closeBrace]
  | .obj ((k, v) :: kvs) => openBrace :: writeStr k ++ ':' :: write v ++ writeMembers kvs

/-- The elements after the first, and the closing bracket. -/
def writeElems : List Json → List Char
  | [] => [']']
  | x :: xs => ',' :: write x ++ writeElems xs

def writeMembers : List (String × Json) → List Char
  | [] => [closeBrace]
  | (k, v) :: kvs => ',' :: writeStr k ++ ':' :: write v ++ writeMembers kvs

end

/-- `json.dumps(j, sort_keys=True, separators=(",", ":"))`. -/
def dumps (j : Json) : String := String.ofList (write ft (sortKeys j))

end

/-! ## Reading -/

def isWs (c : Char) : Bool := c == ' ' || c == '\t' || c == '\n' || c == '\r'

def skipWs (cs : List Char) : List Char := cs.dropWhile isWs

def readHex4 : List Char → Option (Nat × List Char)
  | a :: b :: c :: d :: rest =>
    match hexVal a, hexVal b, hexVal c, hexVal d with
    | some a, some b, some c, some d => some (a * 4096 + b * 256 + c * 16 + d, rest)
    | _, _, _, _ => none
  | _ => none

/-- The character after a backslash, and for `\u` its digits (two groups for a surrogate pair). -/
def readEscape : List Char → Option (Char × List Char)
  | [] => none
  | e :: rest =>
    if e = quoteChar ∨ e = backslash ∨ e = '/' then some (e, rest)
    else if e = 'b' then some (Char.ofNat 8, rest)
    else if e = 'f' then some (Char.ofNat 12, rest)
    else if e = 'n' then some (Char.ofNat 10, rest)
    else if e = 'r' then some (Char.ofNat 13, rest)
    else if e = 't' then some (Char.ofNat 9, rest)
    else if e = 'u' then
      match readHex4 rest with
      | none => none
      | some (hi, rest) =>
        if hi < 0xD800 ∨ 0xDFFF < hi then some (Char.ofNat hi, rest)
        else match rest with
          | b :: u :: rest' =>
            if b = backslash ∧ u = 'u' ∧ hi < 0xDC00 then
              match readHex4 rest' with
              | some (lo, rest'') =>
                if 0xDC00 ≤ lo ∧ lo ≤ 0xDFFF then
                  some (Char.ofNat (0x10000 + (hi - 0xD800) * 0x400 + (lo - 0xDC00)), rest'')
                else none
              | none => none
            else none
          | _ => none
    else none

/-- The body of a string up to its closing quote; control characters are refused (`strict`). -/
def readStrBody : Nat → List Char → Option (List Char × List Char)
  | 0, _ => none
  | _ + 1, [] => none
  | n + 1, c :: rest =>
    if c = quoteChar then some ([], rest)
    else if c = backslash then
      match readEscape rest with
      | some (e, rest') => (readStrBody n rest').map fun p => (e :: p.1, p.2)
      | none => none
    else if c.toNat < 32 then none
    else (readStrBody n rest).map fun p => (c :: p.1, p.2)

def readInt (tok : List Char) : Option Int :=
  if isIntLiteral tok then
    match tok with
    | '-' :: ds => some (-(Nat.ofDigitChars 10 ds 0 : Int))
    | ds => some (Nat.ofDigitChars 10 ds 0 : Int)
  else none

/-- `d[k] = v`: a repeated key keeps its place and takes the later value. -/
def setItem (kvs : List (String × Json)) (k : String) (v : Json) : List (String × Json) :=
  if kvs.any (·.1 == k) then kvs.map fun kv => if kv.1 == k then (k, v) else kv else kvs ++ [(k, v)]

def dictOf (kvs : List (String × Json)) : List (String × Json) :=
  kvs.foldl (fun d kv => setItem d kv.1 kv.2) []

/-- `cs` after the word `w`. -/
def afterWord (w cs : List Char) : Option (List Char) :=
  if cs.take w.length = w then some (cs.drop w.length) else none

section
variable (ft : FloatText)

def readNumber (cs : List Char) : Option (Json × List Char) :=
  let tok := cs.takeWhile isNumberChar
  let rest := cs.drop tok.length
  if isFloatLiteral tok then some (.float (ft.parse tok), rest)
  else (readInt tok).map fun n => (.int n, rest)

mutual

def readValue : Nat → List Char → Option (Json × List Char)
  | 0, _ => none
  | n + 1, text =>
    match skipWs text with
    | [] => none
    | c :: rest =>
      if c = quoteChar then (readStrBody n rest).map fun p => (.str (String.ofList p.1), p.2)
      else if c = '[' then
        match skipWs rest with
        | ']' :: rest' => some (.arr [], rest')
        | _ => match readValue n rest with
          | some (x, rest') => (readElems n rest').map fun p => (.arr (x :: p.1), p.2)
          | none => none
      else if c = openBrace then
        match skipWs rest with
        | [] => none
        | d :: rest' =>
          if d = closeBrace then some (.obj [], rest')
          else match readMember n (d :: rest') with
            | some (kv, rest'') => (readMembers n rest'').map fun p => (.obj (dictOf (kv :: p.1)), p.2)
            | none => none
      else match afterWord ['n', 'u', 'l', 'l'] (c :: rest) with
      | some rest' => some (.null, rest')
      | none => match afterWord ['t', 'r', 'u', 'e'] (c :: rest) with
        | some rest' => some (.bool true, rest')
        | none => match afterWord ['f', 'a', 'l', 's', 'e'] (c :: rest) with
          | some rest' => some (.bool false, rest')
          | none => match afterWord ['N', 'a', 'N'] (c :: rest) with
            | some rest' => some (.float .nan, rest')
            | none => match afterWord ['I', 'n', 'f', 'i', 'n', 'i', 't', 'y'] (c :: rest) with
              | some rest' => some (.float (.inf false), rest')
              | none => match afterWord ['-', 'I', 'n', 'f', 'i', 'n', 'i', 't', 'y'] (c :: rest) with
                | some rest' => some (.float (.inf true), rest')
                | none => readNumber ft (c :: rest)

/-- `, value`* and the closing bracket. -/
def readElems : Nat → List Char → Option (List Json × List Char)
  | 0, _ => none
  | n + 1, text =>
    match skipWs text with
    | [] => none
    | c :: rest =>
      if c = ']' then some ([], rest)
      else if c = ',' then
        match readValue n rest with
        | some (x, rest') => (readElems n rest').map fun p => (x :: p.1, p.2)
        | none => none
      else none

/-- `"key": value`. -/
def readMember : Nat → List Char → Option ((String × Json) × List Char)
  | 0, _ => none
  | n + 1, text =>
    match skipWs text with
    | [] => none
    | c :: rest =>
      if c = quoteChar then
        match readStrBody n rest with
        | none => none
        | some (k, rest') => match skipWs rest' with
          | ':' :: rest'' => (readValue n rest'').map fun p => ((String.ofList k, p.1), p.2)
          | _ => none
      else none

def readMembers : Nat → List Char → Option (List (String × Json) × List Char)
  | 0, _ => none
  | n + 1, text =>
    match skipWs text with
    | [] => none
    | c :: rest =>
      if c = closeBrace then some ([], rest)
      else if c = ',' then
        match readMember n rest with
        | some (kv, rest') => (readMembers n rest').map fun p => (kv :: p.1, p.2)
        | none => none
      else none

end

/-- `json.loads(text)`. -/
def loads (text : String) : Option Json :=
  match readValue ft (text.toList.length + 1) text.toList with
  | some (j, rest) => if skipWs rest = [] then some j else none
  | none => none

end

end Py
