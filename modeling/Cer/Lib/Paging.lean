import Mathlib.Data.List.Nodup
import Mathlib.Data.List.Pairwise
import Mathlib.Data.List.Sort
import Mathlib.Data.Prod.Lex
import Mathlib.Order.Basic

/-!
# Pages of a sorted listing

`sortDesc key` lists elements by strictly descending key, where keys are distinct, and is
the only such listing (`eq_of_sorted`); `slice` cuts a page out of a listing, and pages
of one size concatenate to it (`flatMap_pages`).  Cut one after the other from a listing
that grows meanwhile, they pass nothing over (`Growing.seen`).
-/

namespace Paging

variable {α β κ : Type}

/-- `LIMIT limit OFFSET offset`: a negative limit is none, a negative offset is zero. -/
def slice (limit offset : Int) (l : List α) : List α :=
  if limit < 0 then l.drop offset.toNat else (l.drop offset.toNat).take limit.toNat

theorem slice_of_nonneg {limit offset : Int} (h : 0 ≤ limit) (l : List α) :
    slice limit offset l = (l.drop offset.toNat).take limit.toNat :=
  if_neg (by omega)

theorem subset_of_slice {limit offset : Int} {l : List α} {a : α} (h : a ∈ slice limit offset l) : a ∈ l := by
  unfold slice at h
  split at h
  · exact List.mem_of_mem_drop h
  · exact List.mem_of_mem_drop (List.mem_of_mem_take h)

/-- Pages of `n` from the start on give the first ones of the listing. -/
theorem flatMap_pages (l : List α) (n m : Nat) :
    (List.range m).flatMap (fun j => (l.drop (n * j)).take n) = l.take (n * m) := by
  induction m with
  | zero => simp
  | succ m ih =>
    rw [List.range_succ, List.flatMap_append, ih, List.flatMap_cons, List.flatMap_nil, List.append_nil,
      Nat.mul_succ, List.take_add]

section order
variable [LinearOrder κ]

/-- `ORDER BY key DESC`. -/
def sortDesc (key : α → κ) (l : List α) : List α := l.mergeSort fun a b => decide (key b ≤ key a)

@[simp] theorem mem_sortDesc {key : α → κ} {l : List α} {a : α} : a ∈ sortDesc key l ↔ a ∈ l := List.mem_mergeSort

/-- Distinct keys: the listing descends strictly. -/
theorem pairwise_sortDesc {key : α → κ} {l : List α} (h : (l.map key).Nodup) :
    (sortDesc key l).Pairwise fun a b => key b < key a := by
  have hle : (sortDesc key l).Pairwise fun a b => key b ≤ key a := by
    have hs : (sortDesc key l).Pairwise fun a b => decide (key b ≤ key a) = true :=
      List.pairwise_mergeSort
        (fun a b c hab hbc => decide_eq_true ((of_decide_eq_true hbc).trans (of_decide_eq_true hab)))
        (fun a b => by simpa using le_total (key b) (key a)) l
    exact hs.imp fun hab => of_decide_eq_true hab
  have hne : (sortDesc key l).Pairwise fun a b => key a ≠ key b := by
    have hnodup : ((sortDesc key l).map key).Nodup := ((List.mergeSort_perm l _).map key).nodup_iff.2 h
    exact List.pairwise_map.1 hnodup
  exact (hle.and hne).imp fun hab => lt_of_le_of_ne hab.1 hab.2.symm

/-- Two strictly descending listings of the same elements are one. -/
theorem eq_of_sorted {key : α → κ} {l l' : List α} (h : l.Pairwise fun a b => key b < key a)
    (h' : l'.Pairwise fun a b => key b < key a) (hmem : ∀ a, a ∈ l ↔ a ∈ l') : l = l' := by
  have hirrefl : ∀ {l : List α}, (l.Pairwise fun a b => key b < key a) → l.Nodup := by
    intro l hl
    refine hl.imp ?_
    intro a b hab he
    rw [he] at hab
    exact lt_irrefl _ hab
  have hperm : l.Perm l' := (List.perm_ext_iff_of_nodup (hirrefl h) (hirrefl h')).2 hmem
  refine List.Perm.eq_of_pairwise (fun a b _ _ hab hba => absurd (hab.trans hba) (lt_irrefl _)) h h' hperm

/-! ## Listings that grow -/

/-- Strictly descending, so that a key stands for one element. -/
theorem eq_of_key {key : α → κ} {l : List α} (h : l.Pairwise fun a b => key b < key a)
    {a b : α} (ha : a ∈ l) (hb : b ∈ l)
    (he : key a = key b) : a = b := by
  have hnodup : (l.map key).Nodup := by
    refine List.pairwise_map.2 (h.imp ?_)
    intro x y hxy hkey
    exact absurd hkey (ne_of_gt hxy)
  exact List.inj_on_of_nodup_map hnodup ha hb he

/-- A listing whose keys are all in another is a part of it, in order. -/
theorem sublist_of_keys {key : α → κ} {l l' : List α} (h : l.Pairwise fun a b => key b < key a)
    (h' : l'.Pairwise fun a b => key b < key a) (hkeys : ∀ a ∈ l, ∃ b ∈ l', key b = key a) :
    (l.map key).Sublist (l'.map key) := by
  have hsorted : ∀ {m : List α}, (m.Pairwise fun a b => key b < key a) → (m.map key).Pairwise (· ≥ ·) := fun hm =>
    List.pairwise_map.2 (hm.imp fun hab => le_of_lt hab)
  have hnodup : (l.map key).Nodup := List.pairwise_map.2 (h.imp fun hab he => ne_of_gt hab he)
  have hsub : l.map key ⊆ l'.map key := by
    intro k hk
    obtain ⟨a, ha, rfl⟩ := List.mem_map.1 hk
    obtain ⟨b, hb, he⟩ := hkeys a ha
    exact List.mem_map.2 ⟨b, hb, he⟩
  exact List.sublist_of_subperm_of_pairwise (List.subperm_of_subset hnodup hsub) (hsorted h) (hsorted h')

/-- What lies past the first `d` of a part lies past the first `d` of the whole. -/
theorem mem_drop_of_keys {key : α → κ} {l l' : List α} (h : l.Pairwise fun a b => key b < key a)
    (h' : l'.Pairwise fun a b => key b < key a) (hkeys : ∀ a ∈ l, ∃ b ∈ l', key b = key a) {d : Nat} {a : α}
    (ha : a ∈ l.drop d) : ∃ b ∈ l'.drop d, key b = key a := by
  have hsub : ((l.drop d).map key).Sublist ((l'.drop d).map key) := by
    rw [List.map_drop, List.map_drop]
    exact (sublist_of_keys h h' hkeys).drop d
  obtain ⟨b, hb, he⟩ := List.mem_map.1 (hsub.subset (List.mem_map_of_mem ha))
  exact ⟨b, hb, he⟩

/-- One listing after the other, each descending, and none without a key of the one before. -/
structure Growing (key : α → κ) (listings : Nat → List α) : Prop where
  sorted : ∀ j, (listings j).Pairwise fun a b => key b < key a
  keeps : ∀ j, ∀ a ∈ listings j, ∃ b ∈ listings (j + 1), key b = key a

section seen
variable {key : α → κ} {listings : Nat → List α} {n : Nat} {a : α}

/-- An element is on a page that was cut, or lies past all of them. -/
theorem Growing.seen_or_ahead (h : Growing key listings) (ha : a ∈ listings 0) (m : Nat) :
    (∃ j < m, ∃ b ∈ ((listings j).drop (n * j)).take n, key b = key a) ∨
      ∃ b ∈ (listings m).drop (n * m), key b = key a := by
  induction m with
  | zero => exact Or.inr ⟨a, by simpa using ha, rfl⟩
  | succ m ih =>
    rcases ih with ⟨j, hj, hseen⟩ | ⟨b, hb, he⟩
    · exact Or.inl ⟨j, Nat.lt_succ_of_lt hj, hseen⟩
    · rw [← List.take_append_drop n ((listings m).drop (n * m))] at hb
      rcases List.mem_append.1 hb with hpage | hrest
      · exact Or.inl ⟨m, Nat.lt_succ_self m, b, hpage, he⟩
      · -- what comes in meanwhile can only push it further back
        rw [List.drop_drop, ← Nat.mul_succ] at hrest
        obtain ⟨c, hc, hcb⟩ := mem_drop_of_keys (h.sorted m) (h.sorted (m + 1)) (h.keeps m) hrest
        exact Or.inr ⟨c, hc, hcb.trans he⟩

/-- **Nothing is passed over**: pages cut one after the other from a growing listing, up to one that
is not full, show every element of the first. -/
theorem Growing.seen (h : Growing key listings) (ha : a ∈ listings 0) {m : Nat}
    (short : (((listings m).drop (n * m)).take n).length < n) :
    ∃ j ≤ m, ∃ b ∈ ((listings j).drop (n * j)).take n, key b = key a := by
  rcases @Growing.seen_or_ahead α κ _ key listings n a h ha m with ⟨j, hj, hseen⟩ | ⟨b, hb, he⟩
  · exact ⟨j, Nat.le_of_lt hj, hseen⟩
  · have hall : ((listings m).drop (n * m)).take n = (listings m).drop (n * m) := by
      apply List.take_of_length_le
      rw [List.length_take] at short
      omega
    rw [← hall] at hb
    exact ⟨m, Nat.le_refl m, b, hb, he⟩

end seen

end order

/-! ## Decoding a page -/

/-- Where every element decodes, a page of the decoded listing is the decoded page. -/
theorem filterMap_slice {f : α → Option β} {l : List α} (h : ∀ a ∈ l, (f a).isSome) (limit offset : Int) :
    (slice limit offset l).filterMap f = slice limit offset (l.filterMap f) := by
  have hdrop : ∀ (n : Nat) (l : List α), (∀ a ∈ l, (f a).isSome) →
    (l.drop n).filterMap f = (l.filterMap f).drop n := by
    intro n
    induction n with
    | zero => intro l _; rfl
    | succ n ih =>
      intro l hl
      cases l with
      | nil => rfl
      | cons a l =>
        obtain ⟨b, hb⟩ := Option.isSome_iff_exists.1 (hl a List.mem_cons_self)
        rw [List.filterMap_cons_some hb, List.drop_succ_cons, List.drop_succ_cons]
        exact ih l fun x hx => hl x (List.mem_cons_of_mem _ hx)
  have htake : ∀ (n : Nat) (l : List α), (∀ a ∈ l, (f a).isSome) →
    (l.take n).filterMap f = (l.filterMap f).take n := by
    intro n
    induction n with
    | zero => intro l _; rfl
    | succ n ih =>
      intro l hl
      cases l with
      | nil => rfl
      | cons a l =>
        obtain ⟨b, hb⟩ := Option.isSome_iff_exists.1 (hl a List.mem_cons_self)
        rw [List.filterMap_cons_some hb, List.take_succ_cons, List.take_succ_cons, List.filterMap_cons_some hb,
          ih l fun x hx => hl x (List.mem_cons_of_mem _ hx)]
  unfold slice
  split
  · exact hdrop _ l h
  · rw [htake _ _ fun a ha => h a (List.mem_of_mem_drop ha), hdrop _ l h]

end Paging
