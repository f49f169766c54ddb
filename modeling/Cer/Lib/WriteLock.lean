/-!
# One write lock

Connections run operations on a shared state.  `begin` takes the lock and works on what
is committed at that moment; `finish` publishes what the operation leaves, or drops it
where the operation raises.  `busy` is a `begin` that the lock refuses, `drop` the end
of a connection, which rolls back what it had begun.

Whatever the interleaving, a finished operation has read what was committed when it
finished (`Step.finish_cases`), so a relation that every single operation keeps is kept
by a run (`Run.rel`).
-/

namespace WriteLock

variable {C Op R E S : Type}

structure State (C Op S : Type) where
  committed : S
  /-- The connection in a transaction, its operation, and the state it reads. -/
  holder : Option (C × Op × S)

/-- What a connection does, and what its caller gets. -/
inductive Event (C Op R E : Type)
  | begin (c : C) (op : Op)
  | busy (c : C) (op : Op)
  | finish (c : C) (op : Op) (result : Except E R)
  | drop (c : C)

inductive Step (body : Op → S → Except E (R × S)) (admitted : Op → Prop) :
    State C Op S → Event C Op R E → State C Op S → Prop
  | begin (σ : State C Op S) (c : C) (op : Op) (free : σ.holder = none) (ok : admitted op) :
    Step body admitted σ (.begin c op) { σ with holder := some (c, op, σ.committed) }
  | busy (σ : State C Op S) (c : C) (op : Op) (taken : σ.holder ≠ none) : Step body admitted σ (.busy c op) σ
  | commit (σ : State C Op S) (c : C) (op : Op) (seen : S) (r : R) (s' : S) (held : σ.holder = some (c, op, seen))
    (ok : body op seen = .ok (r, s')) : Step body admitted σ (.finish c op (.ok r)) ⟨s', none⟩
  | rollback (σ : State C Op S) (c : C) (op : Op) (seen : S) (e : E) (held : σ.holder = some (c, op, seen))
    (raised : body op seen = .error e) : Step body admitted σ (.finish c op (.error e)) ⟨σ.committed, none⟩
  | abort (σ : State C Op S) (c : C) (op : Op) (seen : S) (held : σ.holder = some (c, op, seen)) :
    Step body admitted σ (.drop c) ⟨σ.committed, none⟩
  | drop (σ : State C Op S) (c : C) (idle : ∀ op seen, σ.holder ≠ some (c, op, seen)) :
    Step body admitted σ (.drop c) σ

inductive Run (body : Op → S → Except E (R × S)) (admitted : Op → Prop) : State C Op S → State C Op S → Prop
  | refl (σ : State C Op S) : Run body admitted σ σ
  | step {σ τ υ : State C Op S} {e : Event C Op R E} (run : Run body admitted σ τ)
      (step : Step body admitted τ e υ) :
    Run body admitted σ υ

/-- The transaction that is open reads what is committed: nobody else could publish since. -/
def Current (admitted : Op → Prop) (σ : State C Op S) : Prop :=
  ∀ c op seen, σ.holder = some (c, op, seen) → seen = σ.committed ∧ admitted op

section
variable {body : Op → S → Except E (R × S)} {admitted : Op → Prop} {σ τ : State C Op S}

theorem current_of_free (s : S) : Current admitted (⟨s, none⟩ : State C Op S) := by
  intro c op seen h
  cases h

theorem Step.current {e : Event C Op R E} (h : Current admitted σ) (hs : Step body admitted σ e τ) :
    Current admitted τ := by
  cases hs with
  | begin c op free ok =>
    intro c' op' seen hheld
    injection hheld with hheld
    injection hheld with _ hheld
    injection hheld with hop hseen
    exact ⟨hseen.symm, hop ▸ ok⟩
  | busy c op taken => exact h
  | commit c op seen r s' held ok => exact current_of_free s'
  | rollback c op seen e held raised => exact current_of_free _
  | abort c op seen held => exact current_of_free _
  | drop c idle => exact h

/-- A step publishes what one admitted operation leaves, or nothing. -/
theorem Step.committed_cases {e : Event C Op R E} (h : Current admitted σ) (hs : Step body admitted σ e τ) :
    τ.committed = σ.committed ∨
      ∃ op r, admitted op ∧ body op σ.committed = .ok (r, τ.committed) := by
  cases hs with
  | begin c op free ok => exact Or.inl rfl
  | busy c op taken => exact Or.inl rfl
  | commit c op seen r s' held ok =>
    obtain ⟨rfl, hop⟩ := h c op seen held
    exact Or.inr ⟨op, r, hop, ok⟩
  | rollback c op seen e held raised => exact Or.inl rfl
  | abort c op seen held => exact Or.inl rfl
  | drop c idle => exact Or.inl rfl

theorem Run.current (h : Current admitted σ) (hr : Run body admitted σ τ) : Current admitted τ := by
  induction hr with
  | refl => exact h
  | step _ hs ih => exact hs.current ih

/-- What every operation keeps, a run of any number of connections keeps. -/
theorem Run.rel {P : S → S → Prop} (refl : ∀ s, P s s)
    (next : ∀ s s' op r s'', P s s' → admitted op → body op s' = .ok (r, s'') → P s s'') (h : Current admitted σ)
    (hr : Run body admitted σ τ) : P σ.committed τ.committed := by
  induction hr with
  | refl => exact refl _
  | step hrun hs ih =>
    rcases hs.committed_cases (hrun.current h) with he | ⟨op, r, hop, hbody⟩
    · rw [he]
      exact ih
    · exact next _ _ op r _ ih hop hbody

end

end WriteLock
