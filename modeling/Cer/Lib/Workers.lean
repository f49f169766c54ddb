import Mathlib.Logic.Function.Basic

/-!
# Workers with lists of things to do

Any number of workers share a state.  A worker executes an opening action, looks at the
state once, and makes a list of actions from what it saw; then it executes them one by
one, between the others' actions.  It stops at an action that fails, or crashes.

An action may need others to have been done.  Where a plan is `Ordered`, so that what an
action needs was in effect when the worker looked or comes earlier in its list, and no
action takes away an effect, every action is executed with what it needs in effect
(`run_inv`), whatever the order of the steps.
-/

namespace Workers

variable {S A E X : Type}

structure Program (S A E X : Type) where
  opening : A
  /-- What a worker sets out to do, from its one look. -/
  plan : S → List A
  exec : S → A → Except E S
  /-- Changes by anyone else. -/
  outside : X → S → S

inductive Phase (A : Type)
  | idle
  | opened
  | executing (todo : List A)
deriving DecidableEq

structure System (S A : Type) where
  shared : S
  phase : Nat → Phase A

inductive Event (X : Type)
  | start (i : Nat)
  | look (i : Nat)
  | next (i : Nat)
  | crash (i : Nat)
  | outside (x : X)

/-- Worker `i` leaves the shared state and its own phase. -/
def System.after (s : System S A) (i : Nat) (shared : S) (phase : Phase A) : System S A where
  shared := shared
  phase := Function.update s.phase i phase

@[simp] theorem System.after_phase_self (s : System S A) (i : Nat) (shared : S) (phase : Phase A) :
    (s.after i shared phase).phase i = phase := by
  show Function.update s.phase i phase i = phase
  rw [Function.update_self]

theorem System.after_phase_ne (s : System S A) {i j : Nat} (h : j ≠ i) (shared : S) (phase : Phase A) :
    (s.after i shared phase).phase j = s.phase j := by
  show Function.update s.phase i phase j = s.phase j
  rw [Function.update_of_ne h]

/-- Worker `i` executes an action and has `phase` before it, or stops there. -/
def Program.execute (P : Program S A E X) (s : System S A) (i : Nat) (a : A) (phase : Phase A) : System S A :=
  match P.exec s.shared a with
  | .ok shared => s.after i shared phase
  | .error _ => s.after i s.shared .idle

def Program.step (P : Program S A E X) (s : System S A) : Event X → Option (System S A)
  | .start i => match s.phase i with
    | .idle => some (P.execute s i P.opening .opened)
    | _ => none
  | .look i => match s.phase i with
    | .opened => some (s.after i s.shared (.executing (P.plan s.shared)))
    | _ => none
  | .next i => match s.phase i with
    | .executing (a :: todo) => some (P.execute s i a (.executing todo))
    | .executing [] => some (s.after i s.shared .idle)
    | _ => none
  | .crash i => some (s.after i s.shared .idle)
  | .outside x => some { s with shared := P.outside x s.shared }

def Program.run (P : Program S A E X) (s : System S A) (events : List (Event X)) : Option (System S A) :=
  events.foldlM P.step s

/-- Nobody has started. -/
def System.initial (shared : S) : System S A := ⟨shared, fun _ => .idle⟩

/-! ## Ordered lists -/

/-- What an action needs is known, or comes earlier in the list. -/
def Ordered (needs : A → A → Prop) (known : A → Prop) : List A → Prop
  | [] => True
  | a :: l => (∀ b, needs a b → known b) ∧ Ordered needs (fun b => known b ∨ b = a) l

section ordered
variable {needs : A → A → Prop} {known known' : A → Prop} {l l' : List A}

theorem Ordered.mono (h : Ordered needs known l) (hk : ∀ b, known b → known' b) : Ordered needs known' l := by
  induction l generalizing known known' with
  | nil => trivial
  | cons a l ih =>
    refine ⟨fun b hb => hk b (h.1 b hb), ih h.2 fun b hb => ?_⟩
    exact hb.imp (hk b) id

theorem Ordered.append (h : Ordered needs known l) (h' : Ordered needs (fun b => known b ∨ b ∈ l) l') :
    Ordered needs known (l ++ l') := by
  induction l generalizing known with
  | nil => exact h'.mono fun b hb => hb.resolve_right (by simp)
  | cons a l ih =>
    refine ⟨h.1, ih h.2 (h'.mono fun b hb => ?_)⟩
    rcases hb with hb | hb
    · exact Or.inl (Or.inl hb)
    · rcases List.mem_cons.1 hb with rfl | hb
      · exact Or.inl (Or.inr rfl)
      · exact Or.inr hb

/-- Actions that need nothing. -/
theorem ordered_of_free (h : ∀ a ∈ l, ∀ b, ¬ needs a b) : Ordered needs known l := by
  induction l generalizing known with
  | nil => trivial
  | cons a l ih =>
    exact ⟨fun b hb => absurd hb (h a List.mem_cons_self b), ih fun x hx => h x (List.mem_cons_of_mem _ hx)⟩

end ordered

/-! ## Whatever the order of the steps -/

/-- Every action of a plan has a lasting effect, and is executed where the invariant needs it to be. -/
structure Keeps (P : Program S A E X) (Inv : S → Prop) (allowed : S → A → Prop) (effect : S → A → Prop)
    (needs : A → A → Prop) : Prop where
  exec : ∀ {s s' a}, Inv s → allowed s a → (∀ b, needs a b → effect s b) → P.exec s a = .ok s' → Inv s'
  done : ∀ {s s' a}, Inv s → allowed s a → (∀ b, needs a b → effect s b) → P.exec s a = .ok s' → effect s' a
  effect_exec : ∀ {s s' a b}, Inv s → allowed s a → P.exec s a = .ok s' → effect s b → effect s' b
  allowed_exec : ∀ {s s' a b}, P.exec s a = .ok s' → allowed s b → allowed s' b
  outside : ∀ {s} x, Inv s → Inv (P.outside x s)
  effect_outside : ∀ {s} x {b}, effect s b → effect (P.outside x s) b
  allowed_outside : ∀ {s} x {b}, allowed s b → allowed (P.outside x s) b
  opening : ∀ {s}, Inv s → allowed s P.opening
  opening_free : ∀ b, ¬ needs P.opening b
  plan : ∀ {s}, Inv s → ∀ a ∈ P.plan s, allowed s a
  ordered : ∀ {s}, Inv s → Ordered needs (effect s) (P.plan s)

/-- The lists of the workers are in order. -/
structure Sound (Inv : S → Prop) (allowed : S → A → Prop) (effect : S → A → Prop) (needs : A → A → Prop)
    (s : System S A) : Prop where
  shared : Inv s.shared
  todo : ∀ i todo, s.phase i = .executing todo →
    (∀ a ∈ todo, allowed s.shared a) ∧ Ordered needs (effect s.shared) todo

section keeps
variable {P : Program S A E X} {Inv : S → Prop} {allowed effect : S → A → Prop} {needs : A → A → Prop}

/-- A worker goes on with such a list or none, in a shared state where no effect is lost. -/
theorem Sound.after {s : System S A} (h : Sound Inv allowed effect needs s) {i : Nat}
    {shared : S} {phase : Phase A}
    (hinv : Inv shared) (hallowed : ∀ b, allowed s.shared b → allowed shared b)
    (heffect : ∀ b, effect s.shared b → effect shared b)
    (hphase : ∀ todo, phase = .executing todo →
      (∀ a ∈ todo, allowed shared a) ∧ Ordered needs (effect shared) todo) :
    Sound Inv allowed effect needs (s.after i shared phase) := by
  refine ⟨hinv, fun j todo hj => ?_⟩
  by_cases hij : j = i
  · subst hij
    rw [System.after_phase_self] at hj
    exact hphase todo hj
  · rw [System.after_phase_ne s hij] at hj
    obtain ⟨ha, ho⟩ := h.todo j todo hj
    exact ⟨fun b hb => hallowed b (ha b hb), ho.mono heffect⟩

/-- A worker that changed nothing shared, and goes on with nothing. -/
theorem Sound.idle {s : System S A} (h : Sound Inv allowed effect needs s) (i : Nat) :
    Sound Inv allowed effect needs (s.after i s.shared .idle) := by
  refine h.after h.shared (fun _ hb => hb) (fun _ hb => hb) fun todo htodo => ?_
  cases htodo

/-- A worker that executes an action with what it needs in effect. -/
theorem Sound.execute (K : Keeps P Inv allowed effect needs) {s : System S A}
    (h : Sound Inv allowed effect needs s)
    {i : Nat} {a : A} {phase : Phase A} (ha : allowed s.shared a) (hneeds : ∀ b, needs a b → effect s.shared b)
    (hphase : ∀ todo, phase = .executing todo →
      (∀ b ∈ todo, allowed s.shared b) ∧ Ordered needs (fun b => effect s.shared b ∨ b = a) todo) :
    Sound Inv allowed effect needs (P.execute s i a phase) := by
  unfold Program.execute
  cases hx : P.exec s.shared a with
  | error e => exact h.idle i
  | ok shared =>
    refine h.after (K.exec h.shared ha hneeds hx) (fun b => K.allowed_exec hx)
      (fun b => K.effect_exec h.shared ha hx) fun todo htodo => ?_
    obtain ⟨hallowed, hordered⟩ := hphase todo htodo
    refine ⟨fun b hb => K.allowed_exec hx (hallowed b hb), hordered.mono ?_⟩
    rintro b (hb | rfl)
    · exact K.effect_exec h.shared ha hx hb
    · exact K.done h.shared ha hneeds hx

theorem step_sound (K : Keeps P Inv allowed effect needs) {s s' : System S A} {e : Event X}
    (h : Sound Inv allowed effect needs s) (hs : P.step s e = some s') : Sound Inv allowed effect needs s' := by
  cases e with
  | start i =>
    simp only [Program.step] at hs
    split at hs
    · cases hs
      refine Sound.execute K h (K.opening h.shared) (fun b hb => absurd hb (K.opening_free b)) fun todo htodo => ?_
      cases htodo
    · cases hs
  | look i =>
    simp only [Program.step] at hs
    split at hs
    · cases hs
      refine h.after h.shared (fun _ hb => hb) (fun _ hb => hb) fun todo htodo => ?_
      cases htodo
      exact ⟨K.plan h.shared, K.ordered h.shared⟩
    · cases hs
  | next i =>
    simp only [Program.step] at hs
    split at hs
    · next a todo hphase =>
      cases hs
      obtain ⟨hallowed, hneeds, hordered⟩ := h.todo i _ hphase
      refine Sound.execute K h (hallowed a List.mem_cons_self) hneeds fun todo' htodo => ?_
      cases htodo
      exact ⟨fun b hb => hallowed b (List.mem_cons_of_mem _ hb), hordered⟩
    · cases hs
      exact h.idle i
    · cases hs
  | crash i =>
    cases hs
    exact h.idle i
  | outside x =>
    cases hs
    refine ⟨K.outside x h.shared, fun j todo hj => ?_⟩
    obtain ⟨hallowed, hordered⟩ := h.todo j todo hj
    exact ⟨fun b hb => K.allowed_outside x (hallowed b hb), hordered.mono fun b hb => K.effect_outside x hb⟩

/-- **Whatever the order of the steps**, the shared state satisfies the invariant. -/
theorem run_inv (K : Keeps P Inv allowed effect needs) {shared : S} (h : Inv shared) {events : List (Event X)}
    {s : System S A} (hr : P.run (.initial shared) events = some s) : Inv s.shared := by
  have hsound : ∀ (events : List (Event X)) (s₀ : System S A), Sound Inv allowed effect needs s₀ →
      P.run s₀ events = some s → Sound Inv allowed effect needs s := by
    intro events
    induction events with
    | nil =>
      intro s₀ h₀ hr
      cases hr
      exact h₀
    | cons e events ih =>
      intro s₀ h₀ hr
      have hr : (P.step s₀ e >>= fun s₁ => P.run s₁ events) = some s := hr
      cases he : P.step s₀ e with
      | none =>
        rw [he] at hr
        cases hr
      | some s₁ =>
        rw [he] at hr
        exact ih s₁ (step_sound K h₀ he) hr
  refine (hsound events _ ⟨h, fun i todo hi => ?_⟩ hr).shared
  cases hi

end keeps

end Workers
