import Mathlib.Data.List.Forall2
import Mathlib.Data.List.Nodup

/-!
# Append-only ledgers

A ledger is a list of rows that only grows: every row has an identity, and it may
have a key.

* `Distinct` says that no two rows share an identity or a key; a fresh row keeps it.
* `Extends R` relates a ledger to a later one: the old rows stand where they stood,
  each changed at most as `R` allows, and new ones follow.
-/

namespace Ledger

variable {α I K : Type}

/-! ## Identities and keys -/

/-- No two rows share an identity, and no two rows share a key. -/
structure Distinct (ident : α → I) (key : α → Option K) (rows : List α) : Prop where
  idents : (rows.map ident).Nodup
  keys : (rows.filterMap key).Nodup

section distinct
variable {ident : α → I} {key : α → Option K} {rows : List α}

theorem Distinct.nil : Distinct ident key [] :=
  ⟨List.nodup_nil, List.nodup_nil⟩

/-- A row whose identity and key are not taken may follow. -/
theorem Distinct.append (h : Distinct ident key rows) {row : α} (hid : ∀ r ∈ rows, ident r ≠ ident row)
    (hkey : ∀ k, key row = some k → ∀ r ∈ rows, key r ≠ some k) : Distinct ident key (rows ++ [row]) := by
  constructor
  · rw [List.map_append, List.map_singleton]
    refine List.Nodup.append h.idents (List.nodup_singleton _) ?_
    intro i hi hi'
    obtain ⟨r, hr, rfl⟩ := List.mem_map.1 hi
    exact hid r hr (List.mem_singleton.1 hi')
  · rw [List.filterMap_append]
    refine List.Nodup.append h.keys ?_ ?_
    · cases hk : key row with
      | none => simp [hk]
      | some k => simp [hk]
    · intro k hk hk'
      obtain ⟨r, hr, hrk⟩ := List.mem_filterMap.1 hk
      obtain ⟨r', hr', hrk'⟩ := List.mem_filterMap.1 hk'
      rw [List.mem_singleton.1 hr'] at hrk'
      exact hkey k hrk' r hr hrk

/-- Rows may change where neither their identity nor their key does. -/
theorem Distinct.map (h : Distinct ident key rows) {f : α → α} (hid : ∀ r, ident (f r) = ident r)
    (hkey : ∀ r, key (f r) = key r) : Distinct ident key (rows.map f) := by
  constructor
  · have : (rows.map f).map ident = rows.map ident := by
      rw [List.map_map]
      exact List.map_congr_left fun r _ => hid r
    rw [this]
    exact h.idents
  · have : (rows.map f).filterMap key = rows.filterMap key := by
      rw [List.filterMap_map]
      exact List.filterMap_congr fun r _ => hkey r
    rw [this]
    exact h.keys

theorem Distinct.eq_of_ident (h : Distinct ident key rows) {a b : α} (ha : a ∈ rows) (hb : b ∈ rows)
    (he : ident a = ident b) : a = b :=
  List.inj_on_of_nodup_map h.idents ha hb he

theorem eq_of_nodup_keys (hk : (rows.filterMap key).Nodup) {a b : α} {k : K} (ha : a ∈ rows) (hb : b ∈ rows)
    (hka : key a = some k) (hkb : key b = some k) : a = b := by
  induction rows with
  | nil => cases ha
  | cons r rows ih =>
    rcases List.mem_cons.1 ha with rfl | ha'
    · rcases List.mem_cons.1 hb with rfl | hb'
      · rfl
      · rw [List.filterMap_cons_some hka, List.nodup_cons] at hk
        exact absurd (List.mem_filterMap.2 ⟨b, hb', hkb⟩) hk.1
    · rcases List.mem_cons.1 hb with rfl | hb'
      · rw [List.filterMap_cons_some hkb, List.nodup_cons] at hk
        exact absurd (List.mem_filterMap.2 ⟨a, ha', hka⟩) hk.1
      · refine ih ?_ ha' hb'
        cases hr : key r with
        | none => rwa [List.filterMap_cons_none hr] at hk
        | some _ =>
          rw [List.filterMap_cons_some hr, List.nodup_cons] at hk
          exact hk.2

theorem Distinct.eq_of_key (h : Distinct ident key rows) {a b : α} {k : K} (ha : a ∈ rows) (hb : b ∈ rows)
    (hka : key a = some k) (hkb : key b = some k) : a = b :=
  eq_of_nodup_keys h.keys ha hb hka hkb

/-- A lookup that only one row can answer finds it. -/
theorem find?_eq_of_unique {p : α → Bool} {a : α} (ha : a ∈ rows) (hp : p a = true)
    (hu : ∀ b ∈ rows, p b = true → b = a) : rows.find? p = some a := by
  cases hf : rows.find? p with
  | none => exact absurd hp (by simpa using List.find?_eq_none.1 hf a ha)
  | some b => rw [hu b (List.mem_of_find?_eq_some hf) (List.find?_some hf)]

/-- The row of an identity is the one that a lookup by it finds. -/
theorem Distinct.find_ident (h : Distinct ident key rows) {r : α} (hr : r ∈ rows) {p : α → Bool}
    (hp : ∀ x, p x = true ↔ ident x = ident r) : rows.find? p = some r :=
  find?_eq_of_unique hr ((hp r).2 rfl) fun b hb he => h.eq_of_ident hb hr ((hp b).1 he)

/-- The row of a key is the one that a lookup by it finds. -/
theorem Distinct.find_key [BEq K] [LawfulBEq K] (h : Distinct ident key rows) {r : α} (hr : r ∈ rows) {k : K}
    (hk : key r = some k) : rows.find? (fun x => key x == some k) = some r := by
  refine find?_eq_of_unique hr (by rw [hk]; exact beq_iff_eq.2 rfl) fun b hb he => ?_
  exact h.eq_of_key hb hr (beq_iff_eq.1 he) hk

end distinct

/-! ## Growth -/

/-- `new` is `old` with rows changed as `R` allows, and more rows after them. -/
def Extends (R : α → α → Prop) (old new : List α) : Prop :=
  ∃ kept added, new = kept ++ added ∧ List.Forall₂ R old kept

section growth
variable {R : α → α → Prop} {old mid new rows : List α}

theorem Extends.append (hr : ∀ a, R a a) (rows added : List α) : Extends R rows (rows ++ added) :=
  ⟨rows, added, rfl, List.forall₂_same.2 fun a _ => hr a⟩

theorem Extends.refl (hr : ∀ a, R a a) (rows : List α) : Extends R rows rows := by
  have h := Extends.append hr rows []
  rwa [List.append_nil] at h

theorem Extends.map {f : α → α} (h : ∀ a ∈ rows, R a (f a)) : Extends R rows (rows.map f) := by
  refine ⟨rows.map f, [], (List.append_nil _).symm, ?_⟩
  rw [List.forall₂_map_right_iff]
  exact List.forall₂_same.2 h

theorem Extends.trans (ht : ∀ a b c, R a b → R b c → R a c) (h : Extends R old mid) (h' : Extends R mid new) :
    Extends R old new := by
  obtain ⟨kept, added, rfl, hk⟩ := h
  obtain ⟨kept', added', rfl, hk'⟩ := h'
  obtain ⟨k1, k2, rfl, h1, h2⟩ : ∃ k1 k2, kept' = k1 ++ k2 ∧ List.Forall₂ R kept k1 ∧ List.Forall₂ R added k2 := by
    refine ⟨kept'.take kept.length, kept'.drop kept.length, (List.take_append_drop _ _).symm, ?_, ?_⟩
    · have := List.forall₂_take kept.length hk'
      rwa [List.take_left] at this
    · have := List.forall₂_drop kept.length hk'
      rwa [List.drop_left] at this
  refine ⟨k1, k2 ++ added', by rw [List.append_assoc], ?_⟩
  clear h2 hk'
  induction hk generalizing k1 with
  | nil => cases h1; exact List.Forall₂.nil
  | cons hab _ ih =>
    cases h1 with
    | cons hbc htl => exact List.Forall₂.cons (ht _ _ _ hab hbc) (ih _ htl)

/-- A row of the old ledger is in the new one, changed as `R` allows. -/
theorem Extends.mem (h : Extends R old new) {a : α} (ha : a ∈ old) : ∃ b ∈ new, R a b := by
  obtain ⟨kept, added, rfl, hk⟩ := h
  obtain ⟨i, hi, rfl⟩ := List.getElem_of_mem ha
  have hi' : i < kept.length := hk.length_eq ▸ hi
  exact ⟨kept[i], List.mem_append_left _ (List.getElem_mem hi'), hk.get hi hi'⟩

end growth

end Ledger
