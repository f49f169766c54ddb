import Mathlib.Data.List.Basic
import Mathlib.Data.Option.Basic

/-!
# Unwinding

A machine serves several parties.  One of them is not disturbed by the others when what
it sees in every run it also sees in the run of its own actions alone.  `Unwinds` is the
usual relation between the states of the two runs, and `Unwinds.outputs_filter` the
theorem about whole runs.  `Thinned` is such a relation for a list that the others add
to.
-/

namespace Unwinding

/-! ## Lists with elements left out -/

section thinned
variable {α β : Type} {P : α → Prop} {l l' m m' : List α}

/-- `l` is `l'` without some elements that satisfy `P`. -/
inductive Thinned (P : α → Prop) : List α → List α → Prop
  | nil : Thinned P [] []
  | keep (a : α) {l l' : List α} (rest : Thinned P l l') : Thinned P (a :: l) (a :: l')
  | drop (a : α) {l l' : List α} (ha : P a) (rest : Thinned P l l') : Thinned P l (a :: l')

theorem Thinned.refl (P : α → Prop) (l : List α) : Thinned P l l := by
  induction l with
  | nil => exact .nil
  | cons a l ih => exact .keep a ih

theorem Thinned.append (h : Thinned P l l') (hm : Thinned P m m') : Thinned P (l ++ m) (l' ++ m') := by
  induction h with
  | nil => exact hm
  | keep a _ ih => exact .keep a ih
  | drop a ha _ ih => exact .drop a ha ih

theorem Thinned.mono {Q : α → Prop} (h : Thinned P l l') (hPQ : ∀ a, P a → Q a) : Thinned Q l l' := by
  induction h with
  | nil => exact .nil
  | keep a _ ih => exact .keep a ih
  | drop a ha _ ih => exact .drop a (hPQ a ha) ih

theorem Thinned.sublist (h : Thinned P l l') : l.Sublist l' := by
  induction h with
  | nil => exact .slnil
  | keep a _ ih => exact ih.cons_cons a
  | drop a _ _ ih => exact ih.cons a

/-- A search that passes over what was left out finds the same. -/
theorem Thinned.find?_eq (h : Thinned P l l') {q : α → Bool} (hq : ∀ a, P a → q a = false) :
    l'.find? q = l.find? q := by
  induction h with
  | nil => rfl
  | keep a _ ih => rw [List.find?_cons, List.find?_cons, ih]
  | drop a ha _ ih =>
    rw [List.find?_cons, hq a ha]
    exact ih

/-- The same for the lists that are seen as these. -/
theorem Thinned.find?_map {f : β → α} (hf : Function.Injective f) {rows rows' : List β}
    (h : Thinned P (rows.map f) (rows'.map f)) {q : α → Bool} (hq : ∀ a, P a → q a = false) :
    rows'.find? (q ∘ f) = rows.find? (q ∘ f) := by
  have hfind := h.find?_eq hq
  rw [List.find?_map, List.find?_map] at hfind
  exact Option.map_injective hf hfind

end thinned

/-! ## Runs -/

section runs
variable {S A O : Type} (step : S → A → S) (out : S → A → O)

/-- What each action of a run puts out. -/
def outputs : S → List A → List (A × O)
  | _, [] => []
  | s, a :: as => (a, out s a) :: outputs (step s a) as

/-- Every action of a run is taken in a state that is `Ok` for it. -/
def Along (Ok : S → A → Prop) : S → List A → Prop
  | _, [] => True
  | s, a :: as => Ok s a ∧ Along Ok (step s a) as

/-- The state of a run with others is related to that of one's own actions alone: the others do not
touch the relation, one's own actions keep it and put out the same. -/
structure Unwinds (mine : A → Bool) (Allowed : A → Prop) (Ok : S → A → Prop) (R : S → S → Prop) : Prop where
  others : ∀ {s t a}, R s t → Allowed a → mine a = false → R (step s a) t
  own : ∀ {s t a}, R s t → Allowed a → mine a = true → Ok t a → R (step s a) (step t a)
  seen : ∀ {s t a}, R s t → Allowed a → mine a = true → Ok t a → out s a = out t a

variable {step out} {mine : A → Bool} {Allowed : A → Prop} {Ok : S → A → Prop} {R : S → S → Prop}

/-- **Unwinding**: one's own actions put out what they put out without the others. -/
theorem Unwinds.outputs_filter (h : Unwinds step out mine Allowed Ok R) {s t : S} (hst : R s t) (as : List A)
    (hallowed : ∀ a ∈ as, Allowed a) (hok : Along step Ok t (as.filter mine)) :
    (outputs step out s as).filter (fun x => mine x.1) = outputs step out t (as.filter mine) ∧
      R (as.foldl step s) ((as.filter mine).foldl step t) := by
  induction as generalizing s t with
  | nil => exact ⟨rfl, hst⟩
  | cons a as ih =>
    have ha := hallowed a List.mem_cons_self
    have has : ∀ b ∈ as, Allowed b := fun b hb => hallowed b (List.mem_cons_of_mem _ hb)
    show ((a, out s a) :: outputs step out (step s a) as).filter _ = _ ∧ _
    by_cases hm : mine a = true
    · rw [List.filter_cons_of_pos hm] at hok ⊢
      obtain ⟨hoka, hok⟩ := hok
      obtain ⟨hout, hrel⟩ := ih (h.own hst ha hm hoka) has hok
      rw [List.filter_cons_of_pos (by exact hm), hout, h.seen hst ha hm hoka]
      exact ⟨rfl, hrel⟩
    · rw [List.filter_cons_of_neg hm] at hok ⊢
      rw [List.filter_cons_of_neg (by exact hm)]
      exact ih (h.others hst ha (Bool.eq_false_iff.2 hm)) has hok

end runs

end Unwinding
