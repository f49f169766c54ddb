import Cer.Lib.PyText

/-!
# `datetime` values and their texts

`DateTime` holds the fields of a `datetime` in its range, read as UTC; `AwareTime`
is one with an offset or none, as a caller may pass it.

* `isoformat` and `fromIsoformat` are the two directions between a UTC value and
  the offset text a store keeps; `fromIsoformat_isoformat` is the round trip.
* `jsonText` is the form with `Z`; it names the value too (`jsonText_inj`).
* `astimezone` is the arithmetic to UTC over the proleptic Gregorian calendar.
-/

namespace Py

/-! ## The calendar -/

def isLeap (y : Nat) : Bool := y % 4 == 0 && (y % 100 != 0 || y % 400 == 0)

def daysInMonth (y m : Nat) : Nat :=
  if m = 2 then (if isLeap y then 29 else 28)
  else if m = 4 ∨ m = 6 ∨ m = 9 ∨ m = 11 then 30 else 31

/-- The fields of a `datetime` that exists. -/
structure DateTime where
  year : Nat
  month : Nat
  day : Nat
  hour : Nat
  minute : Nat
  second : Nat
  microsecond : Nat
  inRange : (1 ≤ year ∧ year ≤ 9999) ∧ (1 ≤ month ∧ month ≤ 12) ∧ (1 ≤ day ∧ day ≤ daysInMonth year month) ∧
    hour < 24 ∧ minute < 60 ∧ second < 60 ∧ microsecond < 1000000
deriving DecidableEq

/-- The value with these fields, if it exists. -/
def DateTime.mk? (y mo d h mi s us : Nat) : Option DateTime :=
  if hr : (1 ≤ y ∧ y ≤ 9999) ∧ (1 ≤ mo ∧ mo ≤ 12) ∧ (1 ≤ d ∧ d ≤ daysInMonth y mo) ∧
      h < 24 ∧ mi < 60 ∧ s < 60 ∧ us < 1000000 then
    some ⟨y, mo, d, h, mi, s, us, hr⟩
  else none

/-- A `datetime` as a caller passes it: `offset` is its `utcoffset()` in microseconds, `none` for a naive one. -/
structure AwareTime where
  wall : DateTime
  offset : Option Int
deriving DecidableEq

def daysBeforeYear (y : Nat) : Nat := (y - 1) * 365 + (y - 1) / 4 - (y - 1) / 100 + (y - 1) / 400

def daysBeforeMonth (y m : Nat) : Nat := ((List.range (m - 1)).map fun i => daysInMonth y (i + 1)).sum

/-- The day's number, 1 for January 1st of year 1. -/
def toOrdinal (y m d : Nat) : Nat := daysBeforeYear y + daysBeforeMonth y m + d

/-- The month and day that are `n` days into year `y`, looking from month `m` on. -/
def monthDay (y : Nat) : Nat → Nat → Nat → Nat × Nat
  | 0, m, n => (m, n + 1)
  | fuel + 1, m, n => if n < daysInMonth y m then (m, n + 1) else monthDay y fuel (m + 1) (n - daysInMonth y m)

/-- The year, month and day of a day number: cycles of 400, 100, 4 and 1 years, then the month. -/
def ofOrdinal (ord : Nat) : Nat × Nat × Nat :=
  let n := ord - 1
  let n400 := n / 146097
  let n := n % 146097
  let n100 := n / 36524
  let n := n % 36524
  let n4 := n / 1461
  let n := n % 1461
  let n1 := n / 365
  let n := n % 365
  let y := n400 * 400 + n100 * 100 + n4 * 4 + n1 + 1
  -- the last day of a leap cycle, which the divisions count as the start of the next one
  if n1 = 4 ∨ n100 = 4 then (y - 1, 12, 31)
  else let md := monthDay y 11 1 n
    (y, md.1, md.2)

def microsPerDay : Nat := 86400000000

/-- Microseconds since the first instant of year 1. -/
def DateTime.toMicros (t : DateTime) : Nat :=
  (toOrdinal t.year t.month t.day - 1) * microsPerDay +
    (((t.hour * 60 + t.minute) * 60 + t.second) * 1000000 + t.microsecond)

/-- The value that many microseconds after the first instant of year 1, unless it lies past year 9999. -/
def DateTime.ofMicros (n : Nat) : Option DateTime :=
  let ymd := ofOrdinal (n / microsPerDay + 1)
  let us := n % microsPerDay
  let s := us / 1000000
  DateTime.mk? ymd.1 ymd.2.1 ymd.2.2 (s / 3600) (s / 60 % 60) (s % 60) (us % 1000000)

/-- `t.astimezone(timezone.utc)` for a value with offset `off`; `none` where it leaves `datetime`'s range. -/
def astimezone (t : DateTime) (off : Int) : Option DateTime :=
  if off = 0 then some t
  else
    let n : Int := t.toMicros - off
    if n < 0 then none else DateTime.ofMicros n.toNat

example : (DateTime.mk? 2024 3 1 0 30 0 0).bind (astimezone · 3600000000) = DateTime.mk? 2024 2 29 23 30 0 0 := by
  decide

/-! ## Texts -/

/-- `YYYY-MM-DDTHH:MM:SS` and the microseconds when there are any. -/
def DateTime.stamp (t : DateTime) : List Char :=
  padDigits 4 t.year ++ '-' :: padDigits 2 t.month ++ '-' :: padDigits 2 t.day ++ 'T' ::
    padDigits 2 t.hour ++ ':' :: padDigits 2 t.minute ++ ':' :: padDigits 2 t.second ++
    (if t.microsecond = 0 then [] else '.' :: padDigits 6 t.microsecond)

/-- `t.isoformat()` of a UTC value. -/
def isoformat (t : DateTime) : String := String.ofList (t.stamp ++ ['+', '0', '0', ':', '0', '0'])

/-- The JSON form of a UTC value. -/
def jsonText (t : DateTime) : String := String.ofList (t.stamp ++ ['Z'])

def takeDigits (w : Nat) (cs : List Char) : Option (Nat × List Char) :=
  if cs.length < w then none else (readDigits (cs.take w)).map fun n => (n, cs.drop w)

/-- `cs` after the character `c`. -/
def afterChar (c : Char) : List Char → Option (List Char)
  | [] => none
  | d :: cs => if d = c then some cs else none

/-- The fraction of a second, if one is written. -/
def takeMicros (cs : List Char) : Option (Nat × List Char) :=
  match afterChar '.' cs with
  | some cs => takeDigits 6 cs
  | none => some (0, cs)

/-- Everything before the offset. -/
def readStamp (cs : List Char) : Option (DateTime × List Char) := do
  let (y, cs) ← takeDigits 4 cs
  let (mo, cs) ← takeDigits 2 (← afterChar '-' cs)
  let (d, cs) ← takeDigits 2 (← afterChar '-' cs)
  let (h, cs) ← takeDigits 2 (← afterChar 'T' cs)
  let (mi, cs) ← takeDigits 2 (← afterChar ':' cs)
  let (s, cs) ← takeDigits 2 (← afterChar ':' cs)
  let (us, cs) ← takeMicros cs
  let t ← DateTime.mk? y mo d h mi s us
  return (t, cs)

/-- `+HH:MM` or `-HH:MM` in microseconds, nothing for a naive value. -/
def readOffset : List Char → Option (Option Int)
  | [] => some none
  | sign :: cs => do
    let (h, cs) ← takeDigits 2 cs
    let (m, cs) ← takeDigits 2 (← afterChar ':' cs)
    if cs ≠ [] ∨ 24 ≤ h ∨ 60 ≤ m then none
    else if sign = '+' then return some ((h * 60 + m : Nat) * 60000000)
    else if sign = '-' then return some (-((h * 60 + m : Nat) * 60000000))
    else none

/-- `datetime.fromisoformat(s)` on the texts `isoformat` writes. -/
def fromIsoformat (s : String) : Option AwareTime := do
  let (t, cs) ← readStamp s.toList
  let off ← readOffset cs
  return ⟨t, off⟩

/-! ## Round trip -/

theorem takeDigits_padDigits (w n : Nat) (h : n < 10 ^ w) (rest : List Char) :
    takeDigits w (padDigits w n ++ rest) = some (n, rest) := by
  have hl := length_padDigits w n
  unfold takeDigits
  rw [if_neg (by rw [List.length_append]; omega), List.take_left' hl, List.drop_left' hl,
    readDigits_padDigits w n h]
  rfl

@[simp] theorem afterChar_cons (c : Char) (cs : List Char) : afterChar c (c :: cs) = some cs := by
  simp [afterChar]

theorem takeMicros_write (us : Nat) (h : us < 1000000) (rest : List Char) (hr : afterChar '.' rest = none) :
    takeMicros ((if us = 0 then [] else '.' :: padDigits 6 us) ++ rest) = some (us, rest) := by
  unfold takeMicros
  by_cases h0 : us = 0
  · simp [h0, hr]
  · rw [if_neg h0, List.cons_append, afterChar_cons]
    exact takeDigits_padDigits 6 us h rest

theorem DateTime.mk?_self (t : DateTime) :
    DateTime.mk? t.year t.month t.day t.hour t.minute t.second t.microsecond = some t :=
  dif_pos t.inRange

theorem daysInMonth_le (y m : Nat) : daysInMonth y m ≤ 31 := by
  unfold daysInMonth
  split
  · split <;> omega
  · split <;> omega

theorem readStamp_stamp (t : DateTime) (rest : List Char) (hr : afterChar '.' rest = none) :
    readStamp (t.stamp ++ rest) = some (t, rest) := by
  obtain ⟨⟨_, hy⟩, ⟨_, hmo⟩, ⟨_, hd⟩, hh, hmi, hs, hus⟩ := t.inRange
  have hd' := daysInMonth_le t.year t.month
  unfold readStamp DateTime.stamp
  simp only [List.append_assoc, List.cons_append]
  rw [takeDigits_padDigits 4 t.year (by omega)]
  simp only [Option.bind_eq_bind, Option.bind_some, afterChar_cons]
  rw [takeDigits_padDigits 2 t.month (by omega)]
  simp only [Option.bind_some, afterChar_cons]
  rw [takeDigits_padDigits 2 t.day (by omega)]
  simp only [Option.bind_some, afterChar_cons]
  rw [takeDigits_padDigits 2 t.hour (by omega)]
  simp only [Option.bind_some, afterChar_cons]
  rw [takeDigits_padDigits 2 t.minute (by omega)]
  simp only [Option.bind_some, afterChar_cons]
  rw [takeDigits_padDigits 2 t.second (by omega)]
  simp only [Option.bind_some]
  rw [takeMicros_write t.microsecond hus rest hr]
  simp only [Option.bind_some, DateTime.mk?_self]
  rfl

/-- Reading a UTC value's text gives the value, with offset zero. -/
theorem fromIsoformat_isoformat (t : DateTime) : fromIsoformat (isoformat t) = some ⟨t, some 0⟩ := by
  unfold fromIsoformat isoformat
  rw [String.toList_ofList, readStamp_stamp t _ (by decide)]
  have hoff : readOffset ['+', '0', '0', ':', '0', '0'] = some (some 0) := by decide
  simp only [Option.bind_eq_bind, Option.bind_some, hoff]
  rfl

theorem isoformat_inj {t u : DateTime} (h : isoformat t = isoformat u) : t = u := by
  have he := fromIsoformat_isoformat t
  rw [h, fromIsoformat_isoformat u] at he
  injection he with he
  injection he with he _
  exact he.symm

theorem jsonText_inj {t u : DateTime} (h : jsonText t = jsonText u) : t = u := by
  unfold jsonText at h
  have hl := String.ofList_injective h
  have ht := readStamp_stamp t ['Z'] (by decide)
  rw [hl, readStamp_stamp u ['Z'] (by decide)] at ht
  injection ht with ht
  injection ht with ht _
  exact ht.symm

end Py
