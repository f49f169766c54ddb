import Cer.Lib.Unwinding

/-!
# Redelivery

A sender that is not sure of an answer sends its request again, so a machine gets some
requests more than once.  Where an answered request leaves a trace, `Done`, that nothing
removes and under which the request does nothing more, the further deliveries change
nothing: not the state, not what anybody else is answered (`Idempotent.transparent`).
-/

namespace Redelivery

open Unwinding

section runs
variable {S A O : Type} (step : S → A → S) (out : S → A → O)

/-- The deliveries of a run that are not further ones. -/
def firsts (ds : List (A × Bool)) : List A := (ds.filter fun d => !d.2).map Prod.fst

/-- What each delivery of a run is answered. -/
def answers (s : S) (ds : List (A × Bool)) : List ((A × Bool) × O) :=
  outputs (fun s d => step s d.1) (fun s d => out s d.1) s ds

/-- Each further delivery is of a request that was served before. -/
def Legitimate (Good : O → Prop) (Same : A → A → Prop) : S → (A → O → Prop) → List (A × Bool) → Prop
  | _, _, [] => True
  | s, served, (a, true) :: ds => (∃ b o, served b o ∧ Same b a) ∧ Legitimate Good Same (step s a) served ds
  | s, served, (a, false) :: ds =>
    Legitimate Good Same (step s a) (fun b o => served b o ∨ b = a ∧ o = out s a ∧ Good o) ds

/-- A served request leaves a trace, the trace stays, and with it the request does nothing more and
is answered like the first time. -/
structure Idempotent (Good : O → Prop) (Same : A → A → Prop) (Echo : O → O → Prop) (Inv : S → Prop)
    (Allowed : A → Prop) (Done : A → O → S → Prop) : Prop where
  inv : ∀ {s a}, Inv s → Allowed a → Inv (step s a)
  served : ∀ {s a}, Inv s → Allowed a → Good (out s a) → Done a (out s a) (step s a)
  stays : ∀ {s a b o}, Inv s → Allowed b → Done a o s → Done a o (step s b)
  idle : ∀ {s a b o}, Inv s → Allowed b → Done a o s → Same a b → step s b = s ∧ Echo o (out s b)

variable {step out} {Good : O → Prop} {Same : A → A → Prop} {Echo : O → O → Prop} {Inv : S → Prop}
  {Allowed : A → Prop} {Done : A → O → S → Prop}

/-- **Further deliveries do not show**: the state is the one without them, the other deliveries are
answered as without them, and each further one is answered like the one it repeats. -/
theorem Idempotent.transparent (h : Idempotent step out Good Same Echo Inv Allowed Done) {s : S} (hs : Inv s)
    {served : A → O → Prop} (hserved : ∀ b o, served b o → Good o ∧ Done b o s) (ds : List (A × Bool))
    (hallowed : ∀ d ∈ ds, Allowed d.1) (hlegit : Legitimate step out Good Same s served ds) :
    (ds.map Prod.fst).foldl step s = (firsts ds).foldl step s ∧
    ((answers step out s ds).filter fun x => !x.1.2).map (fun x => (x.1.1, x.2)) = outputs step out s (firsts ds) ∧
    ∀ x ∈ answers step out s ds, x.1.2 = true → ∃ b o, (served b o ∨ ((b, false), o) ∈ answers step out s ds) ∧
      Good o ∧ Same b x.1.1 ∧ Echo o x.2 := by
  induction ds generalizing s served with
  | nil => exact ⟨rfl, rfl, fun x hx => by cases hx⟩
  | cons d ds ih =>
    obtain ⟨a, again⟩ := d
    have ha : Allowed a := hallowed (a, again) List.mem_cons_self
    have hds : ∀ d ∈ ds, Allowed d.1 := fun d hd => hallowed d (List.mem_cons_of_mem _ hd)
    cases again with
    | true =>
      obtain ⟨⟨b, o, hb, hsame⟩, hlegit⟩ := hlegit
      obtain ⟨hgood, hdone⟩ := hserved b o hb
      obtain ⟨hidle, hecho⟩ := h.idle hs ha hdone hsame
      rw [hidle] at hlegit
      obtain ⟨hstate, hfirsts, hagain⟩ := ih hs hserved hds hlegit
      have hanswers : answers step out s ((a, true) :: ds) = ((a, true), out s a) :: answers step out s ds := by
        show _ :: answers step out (step s a) ds = _
        rw [hidle]
      refine ⟨?_, ?_, ?_⟩
      · show (ds.map Prod.fst).foldl step (step s a) = (firsts ds).foldl step s
        rw [hidle, hstate]
      · rw [hanswers]
        exact hfirsts
      · rw [hanswers]
        intro x hx hx2
        rcases List.mem_cons.1 hx with rfl | hx
        · exact ⟨b, o, Or.inl hb, hgood, hsame, hecho⟩
        · obtain ⟨b', o', hb', hrest⟩ := hagain x hx hx2
          exact ⟨b', o', hb'.imp_right (List.mem_cons_of_mem _), hrest⟩
    | false =>
      have hserved' : ∀ b o, (served b o ∨ b = a ∧ o = out s a ∧ Good o) → Good o ∧ Done b o (step s a) := by
        rintro b o (hb | ⟨rfl, rfl, hgood⟩)
        · exact ⟨(hserved b o hb).1, h.stays hs ha (hserved b o hb).2⟩
        · exact ⟨hgood, h.served hs ha hgood⟩
      obtain ⟨hstate, hfirsts, hagain⟩ := ih (h.inv hs ha) hserved' hds hlegit
      refine ⟨hstate, congrArg (List.cons (a, out s a)) hfirsts, ?_⟩
      intro x hx hx2
      rcases List.mem_cons.1 hx with rfl | hx
      · cases hx2
      · obtain ⟨b, o, hb, hrest⟩ := hagain x hx hx2
        refine ⟨b, o, ?_, hrest⟩
        rcases hb with (hb | ⟨rfl, rfl, _⟩) | hb
        · exact Or.inl hb
        · exact Or.inr List.mem_cons_self
        · exact Or.inr (List.mem_cons_of_mem _ hb)

end runs

end Redelivery
