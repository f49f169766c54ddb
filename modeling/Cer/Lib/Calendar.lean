import Cer.Lib.DateTime
import Mathlib.Data.String.Basic
import Mathlib.Order.Basic

/-!
# Instants and their texts

`DateTime.toMicros` is the instant of a UTC value.  Two orders are the same as its order:
the one of the fields, and the one of the texts that `isoformat` writes, with and without
microseconds alike (`isoformat_lt_iff`).  `astimezone` keeps the instant
(`toMicros_astimezone`).
-/

namespace Py

/-! ## Days -/

theorem daysBeforeMonth_succ (y : Nat) {m : Nat} (hm : 1 ≤ m) :
    daysBeforeMonth y (m + 1) = daysBeforeMonth y m + daysInMonth y m := by
  obtain ⟨k, rfl⟩ : ∃ k, m = k + 1 := ⟨m - 1, by omega⟩
  unfold daysBeforeMonth
  simp [List.range_succ]

theorem monthDay_spec (y fuel : Nat) : ∀ m n, 1 ≤ m →
    daysBeforeMonth y (monthDay y fuel m n).1 + (monthDay y fuel m n).2 = daysBeforeMonth y m + n + 1 := by
  induction fuel with
  | zero =>
    intro m n _
    simp only [monthDay]
    omega
  | succ fuel ih =>
    intro m n hm
    unfold monthDay
    by_cases hn : n < daysInMonth y m
    · rw [if_pos hn]
      dsimp only
      omega
    · rw [if_neg hn, ih (m + 1) (n - daysInMonth y m) (by omega), daysBeforeMonth_succ y hm]
      omega

/-- Days of a year. -/
def daysInYear (y : Nat) : Nat := if isLeap y then 366 else 365

theorem isLeap_iff (y : Nat) : isLeap y = true ↔ y % 4 = 0 ∧ (y % 100 ≠ 0 ∨ y % 400 = 0) := by
  simp [isLeap]

theorem div_succ (z k : Nat) : (z + 1) / k = z / k + if (z + 1) % k = 0 then 1 else 0 := by
  rw [Nat.succ_div]
  simp only [Nat.dvd_iff_mod_eq_zero]

theorem daysBeforeYear_succ {y : Nat} (hy : 1 ≤ y) : daysBeforeYear (y + 1) = daysBeforeYear y + daysInYear y := by
  obtain ⟨z, rfl⟩ : ∃ z, y = z + 1 := ⟨y - 1, by omega⟩
  unfold daysBeforeYear daysInYear
  rw [Nat.add_sub_cancel, Nat.add_sub_cancel, div_succ z 4, div_succ z 100, div_succ z 400]
  have hmono : z / 100 ≤ z / 4 := by omega
  by_cases hl : isLeap (z + 1) = true
  · have h := (isLeap_iff (z + 1)).1 hl
    rw [if_pos hl, if_pos h.1]
    split <;> split <;> omega
  · have h := mt (isLeap_iff (z + 1)).2 hl
    rw [if_neg hl]
    split <;> split <;> split <;> omega

theorem daysBeforeMonth_thirteen (y : Nat) : daysBeforeMonth y 13 = daysInYear y := by
  unfold daysInYear
  cases hl : isLeap y <;> simp [daysBeforeMonth, daysInMonth, List.range_succ, hl]

theorem daysBeforeMonth_twelve (y : Nat) : daysBeforeMonth y 12 + 31 = daysInYear y := by
  have h : daysInMonth y 12 = 31 := by simp [daysInMonth]
  have h13 := daysBeforeMonth_succ y (m := 12) (by omega)
  rw [h] at h13
  rw [← h13, daysBeforeMonth_thirteen]

/-- The day's number leads back to the number: the cycles of `ofOrdinal` count every leap day. -/
theorem toOrdinal_ofOrdinal {ord : Nat} (h : 1 ≤ ord) :
    toOrdinal (ofOrdinal ord).1 (ofOrdinal ord).2.1 (ofOrdinal ord).2.2 = ord := by
  unfold ofOrdinal
  dsimp only
  generalize hn : ord - 1 = n
  generalize ha : n / 146097 = a
  generalize hr : n % 146097 = r
  generalize hb : r / 36524 = b
  generalize hs : r % 36524 = s
  generalize hc : s / 1461 = c
  generalize hu : s % 1461 = u
  generalize hd : u / 365 = d
  generalize hv : u % 365 = v
  have hbounds : b ≤ 4 ∧ c ≤ 24 ∧ d ≤ 4 := by omega
  generalize hy : a * 400 + b * 100 + c * 4 + d + 1 = y
  by_cases hlast : d = 4 ∨ b = 4
  · rw [if_pos hlast]
    dsimp only
    have hdays : (y - 1 - 1) / 4 + 1 = a * 100 + b * 25 + c + d / 4 ∧ (y - 1 - 1) / 100 = a * 4 + min b 3 ∧
        (y - 1 - 1) / 400 = a := by
      omega
    have hleap : isLeap (y - 1) = true := by
      rw [isLeap_iff]
      omega
    have htwelve := daysBeforeMonth_twelve (y - 1)
    unfold daysInYear at htwelve
    rw [if_pos hleap] at htwelve
    unfold toOrdinal daysBeforeYear
    omega
  · rw [if_neg hlast]
    dsimp only
    have hmonth := monthDay_spec y 11 1 v (by omega)
    have hone : daysBeforeMonth y 1 = 0 := rfl
    rw [hone] at hmonth
    have hdays : (y - 1) / 4 = a * 100 + b * 25 + c ∧ (y - 1) / 100 = a * 4 + b ∧ (y - 1) / 400 = a := by omega
    unfold toOrdinal daysBeforeYear
    omega

/-! ## The instant of a value -/

theorem DateTime.timeOfDay_lt (t : DateTime) :
    ((t.hour * 60 + t.minute) * 60 + t.second) * 1000000 + t.microsecond < microsPerDay := by
  obtain ⟨_, _, _, hh, hmi, hs, hus⟩ := t.inRange
  unfold microsPerDay
  omega

theorem DateTime.mk?_eq_some {y mo d h mi s us : Nat} {t : DateTime}
    (ht : DateTime.mk? y mo d h mi s us = some t) :
    t.year = y ∧ t.month = mo ∧ t.day = d ∧ t.hour = h ∧ t.minute = mi ∧ t.second = s ∧ t.microsecond = us := by
  unfold DateTime.mk? at ht
  split at ht
  · cases ht
    exact ⟨rfl, rfl, rfl, rfl, rfl, rfl, rfl⟩
  · cases ht

theorem toMicros_ofMicros {n : Nat} {t : DateTime} (h : DateTime.ofMicros n = some t) : t.toMicros = n := by
  unfold DateTime.ofMicros at h
  obtain ⟨hy, hmo, hd, hh, hmi, hs, hus⟩ := DateTime.mk?_eq_some h
  unfold DateTime.toMicros
  rw [hy, hmo, hd, hh, hmi, hs, hus, toOrdinal_ofOrdinal (Nat.le_add_left 1 _)]
  unfold microsPerDay
  omega

/-- A change of zone keeps the instant. -/
theorem toMicros_astimezone {t u : DateTime} {off : Int} (h : astimezone t off = some u) :
    (u.toMicros : Int) = t.toMicros - off := by
  unfold astimezone at h
  by_cases h0 : off = 0
  · rw [if_pos h0] at h
    cases h
    rw [h0, Int.sub_zero]
  · rw [if_neg h0] at h
    dsimp only at h
    split at h
    · cases h
    · rw [toMicros_ofMicros h]
      omega

/-! ## Orders -/

/-- The fields come earlier, the year first. -/
def DateTime.Before (t u : DateTime) : Prop :=
  t.year < u.year ∨ t.year = u.year ∧ (t.month < u.month ∨ t.month = u.month ∧ (t.day < u.day ∨ t.day = u.day ∧
    (t.hour < u.hour ∨ t.hour = u.hour ∧ (t.minute < u.minute ∨ t.minute = u.minute ∧
      (t.second < u.second ∨ t.second = u.second ∧ t.microsecond < u.microsecond)))))

theorem DateTime.before_trichotomy (t u : DateTime) : t = u ∨ t.Before u ∨ u.Before t := by
  by_cases h : t.Before u ∨ u.Before t
  · exact Or.inr h
  · left
    unfold DateTime.Before at h
    have hfields : t.year = u.year ∧ t.month = u.month ∧ t.day = u.day ∧ t.hour = u.hour ∧ t.minute = u.minute ∧
        t.second = u.second ∧ t.microsecond = u.microsecond := by
      omega
    obtain ⟨h1, h2, h3, h4, h5, h6, h7⟩ := hfields
    cases t
    cases u
    cases h1; cases h2; cases h3; cases h4; cases h5; cases h6; cases h7
    rfl

/-- A function to a strict order that keeps `Before` has its order. -/
theorem DateTime.lt_iff_before {α : Type} [Preorder α] {f : DateTime → α}
    (hf : ∀ t u : DateTime, t.Before u → f t < f u) (t u : DateTime) : f t < f u ↔ t.Before u := by
  refine ⟨fun h => ?_, hf t u⟩
  rcases DateTime.before_trichotomy t u with rfl | hb | hb
  · exact absurd h (lt_irrefl _)
  · exact hb
  · exact absurd (h.trans (hf u t hb)) (lt_irrefl _)

theorem daysBeforeMonth_mono (y : Nat) {m n : Nat} (hm : 1 ≤ m) (h : m ≤ n) :
    daysBeforeMonth y m ≤ daysBeforeMonth y n := by
  induction h with
  | refl => exact Nat.le_refl _
  | step h ih =>
    rw [daysBeforeMonth_succ y (hm.trans h)]
    omega

theorem daysBeforeYear_mono {y z : Nat} (hy : 1 ≤ y) (h : y ≤ z) : daysBeforeYear y ≤ daysBeforeYear z := by
  induction h with
  | refl => exact Nat.le_refl _
  | step h ih =>
    rw [daysBeforeYear_succ (hy.trans h)]
    omega

theorem toOrdinal_pos {y m d : Nat} (hd : 1 ≤ d) : 1 ≤ toOrdinal y m d := by
  unfold toOrdinal
  omega

/-- A later year, month or day has a greater number. -/
theorem DateTime.toOrdinal_lt {t u : DateTime} (h : t.year < u.year ∨ t.year = u.year ∧
    (t.month < u.month ∨ t.month = u.month ∧ t.day < u.day)) :
    toOrdinal t.year t.month t.day < toOrdinal u.year u.month u.day := by
  obtain ⟨⟨hy, _⟩, ⟨hm, hm'⟩, ⟨_, hd'⟩, _⟩ := t.inRange
  obtain ⟨_, ⟨hum, _⟩, ⟨hud, _⟩, _⟩ := u.inRange
  unfold toOrdinal
  have hnext : daysBeforeMonth t.year t.month + t.day ≤ daysBeforeMonth t.year (t.month + 1) := by
    rw [daysBeforeMonth_succ _ hm]
    omega
  rcases h with h | ⟨h, h' | ⟨h', h''⟩⟩
  · have hyear := daysBeforeYear_mono (y := t.year + 1) (by omega) h
    rw [daysBeforeYear_succ hy] at hyear
    have hmonth := daysBeforeMonth_mono t.year (m := t.month + 1) (n := 13) (by omega) (by omega)
    rw [daysBeforeMonth_thirteen] at hmonth
    omega
  · have hmonth := daysBeforeMonth_mono t.year (m := t.month + 1) (by omega) h'
    rw [← h]
    omega
  · rw [← h, ← h']
    omega

theorem DateTime.toMicros_lt {t u : DateTime} (h : t.Before u) : t.toMicros < u.toMicros := by
  have ht := t.timeOfDay_lt
  have hpos := toOrdinal_pos (y := t.year) (m := t.month) t.inRange.2.2.1.1
  unfold DateTime.toMicros
  by_cases hday : t.year < u.year ∨ t.year = u.year ∧ (t.month < u.month ∨ t.month = u.month ∧ t.day < u.day)
  · have hord := DateTime.toOrdinal_lt hday
    have hmul : (toOrdinal t.year t.month t.day - 1 + 1) * microsPerDay ≤
        (toOrdinal u.year u.month u.day - 1) * microsPerDay := Nat.mul_le_mul_right _ (by omega)
    rw [Nat.add_mul, Nat.one_mul] at hmul
    omega
  · have hsame : t.year = u.year ∧ t.month = u.month ∧ t.day = u.day := by
      unfold DateTime.Before at h
      omega
    obtain ⟨hy, hm, hd⟩ := hsame
    obtain ⟨_, _, _, _, hmi, hs, hus⟩ := t.inRange
    unfold DateTime.Before at h
    rw [hy, hm, hd]
    omega

theorem DateTime.toMicros_lt_iff (t u : DateTime) : t.toMicros < u.toMicros ↔ t.Before u :=
  DateTime.lt_iff_before (fun _ _ => DateTime.toMicros_lt) t u

/-! ## Texts -/

theorem digitChar_lt : ∀ b < 10, ∀ a < b, Nat.digitChar a < Nat.digitChar b := by
  decide

/-- Padded numbers of one width are in the order of the numbers, whatever follows. -/
theorem padDigits_lt {w : Nat} : ∀ {a b : Nat} {r r' : List Char}, a < b → b < 10 ^ w →
    padDigits w a ++ r < padDigits w b ++ r' := by
  induction w with
  | zero =>
    intro a b r r' hab hb
    rw [Nat.pow_zero] at hb
    omega
  | succ w ih =>
    intro a b r r' hab hb
    simp only [padDigits, List.append_assoc, List.singleton_append]
    by_cases hq : a / 10 < b / 10
    · refine ih hq ?_
      rw [Nat.div_lt_iff_lt_mul (by omega)]
      rw [Nat.pow_succ] at hb
      exact hb
    · have hsame : a / 10 = b / 10 := by omega
      rw [hsame]
      refine append_lt_append _ ?_
      rw [List.cons_lt_cons_iff]
      exact Or.inl (digitChar_lt (b % 10) (Nat.mod_lt _ (by omega)) (a % 10) (by omega))

/-- The fraction and the offset: no fraction sorts before any. -/
theorem fraction_lt {a b : Nat} (h : a < b) (hb : b < 1000000) {rest : List Char} :
    (if a = 0 then [] else '.' :: padDigits 6 a) ++ '+' :: rest <
      (if b = 0 then [] else '.' :: padDigits 6 b) ++ '+' :: rest := by
  rw [if_neg (by omega : b ≠ 0)]
  by_cases ha : a = 0
  · rw [if_pos ha, List.nil_append, List.cons_append, List.cons_lt_cons_iff]
    exact Or.inl (by decide)
  · rw [if_neg ha, List.cons_append, List.cons_append, List.cons_lt_cons_iff]
    exact Or.inr ⟨rfl, padDigits_lt h (by omega)⟩

theorem isoformat_lt {t u : DateTime} (h : t.Before u) : isoformat t < isoformat u := by
  obtain ⟨⟨_, hy⟩, ⟨_, hmo⟩, ⟨_, hd⟩, hh, hmi, hs, hus⟩ := u.inRange
  have hd' := daysInMonth_le u.year u.month
  rw [String.lt_iff_toList_lt]
  unfold isoformat DateTime.stamp
  rw [String.toList_ofList, String.toList_ofList]
  simp only [List.append_assoc, List.cons_append]
  -- the widths are fixed: the first field that differs decides
  rcases h with h | ⟨he, h⟩
  · exact padDigits_lt h (by omega)
  rw [he]
  refine append_lt_append _ (List.cons_lt_cons_iff.2 (Or.inr ⟨rfl, ?_⟩))
  rcases h with h | ⟨he, h⟩
  · exact padDigits_lt h (by omega)
  rw [he]
  refine append_lt_append _ (List.cons_lt_cons_iff.2 (Or.inr ⟨rfl, ?_⟩))
  rcases h with h | ⟨he, h⟩
  · exact padDigits_lt h (by omega)
  rw [he]
  refine append_lt_append _ (List.cons_lt_cons_iff.2 (Or.inr ⟨rfl, ?_⟩))
  rcases h with h | ⟨he, h⟩
  · exact padDigits_lt h (by omega)
  rw [he]
  refine append_lt_append _ (List.cons_lt_cons_iff.2 (Or.inr ⟨rfl, ?_⟩))
  rcases h with h | ⟨he, h⟩
  · exact padDigits_lt h (by omega)
  rw [he]
  refine append_lt_append _ (List.cons_lt_cons_iff.2 (Or.inr ⟨rfl, ?_⟩))
  rcases h with h | ⟨he, h⟩
  · exact padDigits_lt h (by omega)
  rw [he]
  refine append_lt_append _ ?_
  exact fraction_lt h hus

theorem isoformat_lt_iff (t u : DateTime) : isoformat t < isoformat u ↔ t.toMicros < u.toMicros := by
  rw [DateTime.lt_iff_before (fun _ _ => isoformat_lt) t u, DateTime.toMicros_lt_iff]

/-- The order of the texts is the order of the instants. -/
theorem isoformat_le_iff (t u : DateTime) : isoformat t ≤ isoformat u ↔ t.toMicros ≤ u.toMicros := by
  rw [← not_lt, ← not_lt, isoformat_lt_iff]

theorem toMicros_inj {t u : DateTime} (h : t.toMicros = u.toMicros) : t = u := by
  rcases DateTime.before_trichotomy t u with he | hb | hb
  · exact he
  · exact absurd h (DateTime.toMicros_lt hb).ne
  · exact absurd h (DateTime.toMicros_lt hb).ne'

/-! ## The range of the calendar -/

/-- The days of the years 1 to 9999. -/
def maxOrdinal : Nat := 3652059

end Py
