import Cer.Lib.PyText
import Mathlib.Data.String.Basic

/-!
# The order of UTF-8 texts

Texts compared byte by byte stand in the order of their characters (`utf8_lt_iff`): a longer
sequence starts with a greater byte, and two of one length are numbers in base 64.
-/

namespace Py

theorem utf8_eq_flatMap (s : String) : s.toUTF8.data.toList = s.toList.flatMap String.utf8EncodeChar := by
  show s.toByteArray.data.toList = _
  rw [← String.utf8Encode_toList]
  exact List.toList_data_toByteArray

/-- The digit in which two numbers first differ, in base 64. -/
theorem base64_lt {v w : Nat} (h : v < w) : v / 64 < w / 64 ∨ v / 64 = w / 64 ∧ v % 64 < w % 64 := by
  omega

/-- The bytes of a lesser character decide, whatever follows. -/
theorem utf8EncodeChar_lt {c d : Char} (h : c < d) (r s : List UInt8) :
    String.utf8EncodeChar c ++ r < String.utf8EncodeChar d ++ s := by
  have hlt : c.val.toNat < d.val.toNat := h
  have hmax : d.val.toNat < 1114112 := by
    rcases d.valid with hv | hv
    · exact lt_trans hv (by decide)
    · exact hv.2
  unfold String.utf8EncodeChar
  dsimp only
  generalize c.val.toNat = v at hlt ⊢
  generalize d.val.toNat = w at hlt hmax ⊢
  have hdigits : ∀ n : Nat, n / 4096 = n / 64 / 64 ∧ n / 262144 = n / 64 / 64 / 64 := fun n => by omega
  have hlead : ∀ n : Nat, (n % 8 + 240) % 2 ^ 8 = n % 8 + 240 := fun n => by omega
  have htrail : ∀ n : Nat, (n % 64 + 128) % 2 ^ 8 = n % 64 + 128 := fun n => by omega
  have hlast := base64_lt hlt
  have hthird : v / 64 < w / 64 → _ := base64_lt
  have hsecond : v / 64 / 64 < w / 64 / 64 → _ := base64_lt
  -- six of the pairs of lengths differ in the first byte, four are numbers of one length, six cannot be
  split_ifs <;>
    simp only [List.cons_append, List.nil_append, List.cons_lt_cons_iff, UInt8.lt_iff_toNat_lt, ← UInt8.toNat_inj,
      UInt8.toNat_ofNat', hlead, htrail, (hdigits v).1, (hdigits v).2, (hdigits w).1, (hdigits w).2] <;>
    omega

theorem flatMap_utf8EncodeChar_lt {x y : List Char} (h : x < y) :
    x.flatMap String.utf8EncodeChar < y.flatMap String.utf8EncodeChar := by
  induction x generalizing y with
  | nil =>
    cases y with
    | nil => exact absurd h (List.not_lt_nil _)
    | cons d y =>
      obtain ⟨b, bs, hb⟩ := List.exists_cons_of_ne_nil (@String.utf8EncodeChar_ne_nil d)
      rw [List.flatMap_nil, List.flatMap_cons, hb]
      exact List.nil_lt_cons _ _
  | cons c x ih =>
    cases y with
    | nil => exact absurd h (List.not_lt_nil _)
    | cons d y =>
      rw [List.flatMap_cons, List.flatMap_cons]
      rw [List.cons_lt_cons_iff] at h
      rcases h with h | ⟨rfl, h⟩
      · exact utf8EncodeChar_lt h _ _
      · exact append_lt_append _ (ih h)

/-- Byte by byte is character by character. -/
theorem utf8_lt_iff (s t : String) : s.toUTF8.data.toList < t.toUTF8.data.toList ↔ s < t := by
  rw [utf8_eq_flatMap, utf8_eq_flatMap, String.lt_iff_toList_lt]
  refine ⟨fun h => ?_, flatMap_utf8EncodeChar_lt⟩
  rcases lt_trichotomy s.toList t.toList with hlt | heq | hgt
  · exact hlt
  · rw [heq] at h
    exact absurd h (List.lt_irrefl _)
  · exact absurd h (List.lt_asymm (flatMap_utf8EncodeChar_lt hgt))

end Py
