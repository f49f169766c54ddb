import Mathlib.Data.Finset.Basic
import Mathlib.Data.List.Basic

/-!
# Slots that are written once

A state gives some slots a value; a call names values for some slots.  A call that contradicts
a value already there is refused and changes nothing; the others set what they name.  What a
run of calls leaves is, slot by slot, what was there or else the value of the first call that
went through; where no two calls contradict one another, it depends on neither their order
nor on repetition.
-/

namespace WriteOnce

open Classical

variable {F V : Type*}

/-- The values of the slots that have one, or that a call names. -/
abbrev Slots (F V : Type*) := F → Option V

/-- The two give no slot two values. -/
def Agree (s c : Slots F V) : Prop := ∀ f v w, s f = some v → c f = some w → v = w

/-- What is named is set where nothing was. -/
def assign (s c : Slots F V) : Slots F V := fun f => (s f).or (c f)

/-- The calls of a run that go through, in its order. -/
noncomputable def committed (s : Slots F V) : List (Slots F V) → List (Slots F V)
  | [] => []
  | c :: cs => if Agree s c then c :: committed (assign s c) cs else committed s cs

/-- What a run leaves. -/
noncomputable def run (s : Slots F V) : List (Slots F V) → Slots F V
  | [] => s
  | c :: cs => if Agree s c then run (assign s c) cs else run s cs

section laws
variable {s c d : Slots F V} {cs ds : List (Slots F V)}

theorem Agree.symm (h : Agree s c) : Agree c s := fun f v w hv hw => (h f w v hw hv).symm

theorem Agree.assign (h : Agree s d) (h' : Agree c d) : Agree (assign s c) d := by
  intro f v w hv hw
  unfold WriteOnce.assign at hv
  cases hs : s f with
  | some x =>
    rw [hs] at hv
    exact h f v w (hs.trans hv) hw
  | none =>
    rw [hs] at hv
    exact h' f v w hv hw

/-- Where the call agrees, what it names is what the slot holds now. -/
theorem assign_of_agree (h : Agree s c) {f : F} {v : V} (hv : c f = some v) : assign s c f = some v := by
  unfold assign
  cases hs : s f with
  | none => exact hv
  | some w => exact congrArg some (h f w v hs hv)

/-- **The first value committed stays**: a slot holds what it held, or else what the first committed
call that names it gave it. -/
theorem run_eq (s : Slots F V) (cs : List (Slots F V)) (f : F) :
    run s cs f = (s f).or ((committed s cs).findSome? fun c => c f) := by
  induction cs generalizing s with
  | nil =>
    show s f = (s f).or none
    rw [Option.or_none]
  | cons c cs ih =>
    unfold run committed
    by_cases h : Agree s c
    · rw [if_pos h, if_pos h, ih, List.findSome?_cons]
      unfold assign
      cases s f <;> cases c f <;> rfl
    · rw [if_neg h, if_neg h, ih]

/-- Calls that agree with the state and with one another all go through. -/
theorem committed_of_agree (hs : ∀ c ∈ cs, Agree s c) (hc : cs.Pairwise Agree) : committed s cs = cs := by
  induction cs generalizing s with
  | nil => rfl
  | cons c cs ih =>
    obtain ⟨hcc, hrest⟩ := List.pairwise_cons.1 hc
    unfold committed
    rw [if_pos (hs c List.mem_cons_self),
      ih (fun d hd => (hs d (List.mem_cons_of_mem c hd)).assign (hcc d hd)) hrest]

/-- In calls that agree, any call that names a slot gives its value. -/
theorem findSome?_of_agree (hc : ∀ c ∈ cs, ∀ d ∈ cs, Agree c d) {f : F} {v : V} :
    (cs.findSome? fun c => c f) = some v ↔ ∃ c ∈ cs, c f = some v := by
  constructor
  · exact List.exists_of_findSome?_eq_some
  · rintro ⟨c, hmem, hv⟩
    cases hfind : cs.findSome? fun c => c f with
    | none => rw [List.findSome?_eq_none_iff.1 hfind c hmem] at hv; cases hv
    | some w =>
      obtain ⟨d, hd, hw⟩ := List.exists_of_findSome?_eq_some hfind
      exact congrArg some (hc d hd c hmem f w v hw hv)

/-- What calls that agree leave: what was there, and what any of them names. -/
theorem run_of_agree (hs : ∀ c ∈ cs, Agree s c) (hc : ∀ c ∈ cs, ∀ d ∈ cs, Agree c d) {f : F} {v : V} :
    run s cs f = some v ↔ s f = some v ∨ s f = none ∧ ∃ c ∈ cs, c f = some v := by
  rw [run_eq, committed_of_agree hs (List.pairwise_of_forall_mem_list hc), ← findSome?_of_agree hc,
    Option.or_eq_some_iff]

/-- **Order and repetition do not matter** to calls that agree. -/
theorem run_congr (hs : ∀ c ∈ cs, Agree s c) (hc : ∀ c ∈ cs, ∀ d ∈ cs, Agree c d) (hmem : ∀ c, c ∈ ds ↔ c ∈ cs) :
    run s ds = run s cs := by
  funext f
  refine Option.ext fun v => ?_
  rw [run_of_agree (fun c hc' => hs c ((hmem c).1 hc')) fun c hc' d hd' => hc c
    ((hmem c).1 hc') d ((hmem d).1 hd'),
    run_of_agree hs hc]
  simp only [hmem]

end laws

end WriteOnce
