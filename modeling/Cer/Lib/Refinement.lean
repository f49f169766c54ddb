import Mathlib.Logic.Function.Basic
import Mathlib.Logic.Relation

/-!
# Runs and what is seen of them

A system takes steps; some show a label to the outside, some are silent.  `Runs` are its
runs, each with the labels it showed.  Where a relation is a `Simulation`, whatever one
system shows, the other can show, and ends in a related state (`Simulation.runs`).

`service` is the system that most others are meant to be: every call is served in one
silent step somewhere between the call and its return, on whatever data is there by then.
-/

namespace Refinement

/-- `none` is a step that shows nothing. -/
abbrev System (S L : Type) := S → Option L → S → Prop

section runs
variable {S S' L : Type} {M : System S L} {N : System S' L}

inductive Runs (M : System S L) (s : S) : List L → S → Prop
  | refl : Runs M s [] s
  | silent {shown : List L} {s' s'' : S} (run : Runs M s shown s') (step : M s' none s'') : Runs M s shown s''
  | shows {shown : List L} {s' s'' : S} {l : L} (run : Runs M s shown s') (step : M s' (some l) s'') :
    Runs M s (shown ++ [l]) s''

theorem Runs.one {s s' : S} {l : Option L} (h : M s l s') : Runs M s l.toList s' := by
  cases l with
  | none => exact .silent .refl h
  | some l => exact .shows .refl h

theorem Runs.trans {s s' s'' : S} {shown later : List L} (h : Runs M s shown s') (h' : Runs M s' later s'') :
    Runs M s (shown ++ later) s'' := by
  induction h' with
  | refl =>
    rw [List.append_nil]
    exact h
  | silent _ step ih => exact .silent ih step
  | shows _ step ih =>
    rw [← List.append_assoc]
    exact .shows ih step

/-- A run that showed one list after the other came through a state in between. -/
theorem Runs.split {s s' : S} {shown later all : List L} (h : Runs M s all s') (hall : all = shown ++ later) :
    ∃ m, Runs M s shown m ∧ Runs M m later s' := by
  induction h generalizing later with
  | refl =>
    obtain ⟨rfl, rfl⟩ := List.append_eq_nil_iff.1 hall.symm
    exact ⟨s, .refl, .refl⟩
  | silent _ step ih =>
    obtain ⟨m, h₁, h₂⟩ := ih hall
    exact ⟨m, h₁, .silent h₂ step⟩
  | @shows before s₁ s₂ l run step ih =>
    rcases List.eq_nil_or_concat later with rfl | ⟨later', l', rfl⟩
    · rw [List.append_nil] at hall
      subst hall
      exact ⟨s₂, .shows run step, .refl⟩
    · rw [List.concat_eq_append, ← List.append_assoc] at hall
      obtain ⟨hbefore, hl⟩ := List.append_inj' hall rfl
      obtain ⟨m, h₁, h₂⟩ := ih hbefore
      cases hl
      exact ⟨m, h₁, by rw [List.concat_eq_append]; exact .shows h₂ step⟩

/-- The step that showed the last label. -/
theorem Runs.last {s s' : S} {shown all : List L} {l : L} (h : Runs M s all s') (hall : all = shown ++ [l]) :
    ∃ m m', Runs M s shown m ∧ M m (some l) m' ∧ Runs M m' [] s' := by
  induction h with
  | refl => exact absurd hall.symm (List.append_ne_nil_of_right_ne_nil shown (List.cons_ne_nil l []))
  | silent _ step ih =>
    obtain ⟨m, m', h₁, hstep, h₂⟩ := ih hall
    exact ⟨m, m', h₁, hstep, .silent h₂ step⟩
  | shows run step _ =>
    obtain ⟨rfl, hl⟩ := List.append_inj' hall rfl
    cases hl
    exact ⟨_, _, run, step, .refl⟩

/-- What every step keeps, a run keeps. -/
theorem Runs.invariant {P : S → Prop} (step : ∀ s l s', P s → M s l s' → P s') {s s' : S} {shown : List L}
    (h : Runs M s shown s') (hs : P s) : P s' := by
  induction h with
  | refl => exact hs
  | silent _ hstep ih => exact step _ _ _ ih hstep
  | shows _ hstep ih => exact step _ _ _ ih hstep

/-- Every step of `M` from a state that `R` relates is one that `N` can follow. -/
def Simulation (M : System S L) (N : System S' L) (R : S → S' → Prop) : Prop :=
  ∀ s a l s', R s a → M s l s' → ∃ a', Runs N a l.toList a' ∧ R s' a'

theorem Simulation.runs {R : S → S' → Prop} (sim : Simulation M N R) {s s' : S} {a : S'} {shown : List L}
    (h : Runs M s shown s') (hR : R s a) : ∃ a', Runs N a shown a' ∧ R s' a' := by
  induction h with
  | refl => exact ⟨a, .refl, hR⟩
  | silent _ step ih =>
    obtain ⟨a₁, hrun, hrel⟩ := ih
    obtain ⟨a₂, hmore, hrel'⟩ := sim _ _ _ _ hrel step
    refine ⟨a₂, ?_, hrel'⟩
    have := hrun.trans hmore
    rwa [Option.toList_none, List.append_nil] at this
  | shows _ step ih =>
    obtain ⟨a₁, hrun, hrel⟩ := ih
    obtain ⟨a₂, hmore, hrel'⟩ := sim _ _ _ _ hrel step
    exact ⟨a₂, hrun.trans hmore, hrel'⟩

end runs

/-! ## Calls that are served at once -/

variable {T Op R D : Type}

/-- What the callers `T` see; the whole process may also stop. -/
inductive Event (T Op R : Type)
  | call (t : T) (op : Op)
  | ret (t : T) (result : R)
  | crash

inductive Progress (Op R : Type)
  | idle
  | asked (op : Op)
  | served (result : R)

structure Service (T Op R D : Type) where
  data : D
  progress : T → Progress Op R

section service
variable [DecidableEq T]

/-- `t` has got so far, and the data is now `d`. -/
def Service.moved (a : Service T Op R D) (t : T) (p : Progress Op R) (d : D) : Service T Op R D :=
  ⟨d, Function.update a.progress t p⟩

theorem Service.moved_self (a : Service T Op R D) (t : T) (p : Progress Op R) (d : D) :
    (a.moved t p d).progress t = p :=
  Function.update_self _ _ _

theorem Service.moved_ne (a : Service T Op R D) {t u : T} (h : u ≠ t) (p : Progress Op R) (d : D) :
    (a.moved t p d).progress u = a.progress u :=
  Function.update_of_ne h _ _

/-- Where somebody is after `t` has moved. -/
theorem Service.moved_cases {a : Service T Op R D} {t u : T} {p q : Progress Op R} {d : D}
    (h : (a.moved t p d).progress u = q) : u = t ∧ p = q ∨ u ≠ t ∧ a.progress u = q := by
  by_cases hut : u = t
  · subst hut
    rw [Service.moved_self] at h
    exact Or.inl ⟨rfl, h⟩
  · rw [Service.moved_ne _ hut] at h
    exact Or.inr ⟨hut, h⟩

/-- `serves op d r d'`: `op` may be answered with `r` where the data is `d`, and then leaves `d'`. -/
inductive service (serves : Op → D → R → D → Prop) : System (Service T Op R D) (Event T Op R)
  | call (a : Service T Op R D) (t : T) (op : Op) (idle : a.progress t = .idle) :
    service serves a (some (.call t op)) (a.moved t (.asked op) a.data)
  | serve (a : Service T Op R D) (t : T) (op : Op) (r : R) (d : D) (asked : a.progress t = .asked op)
    (legal : serves op a.data r d) : service serves a none (a.moved t (.served r) d)
  | ret (a : Service T Op R D) (t : T) (r : R) (served : a.progress t = .served r) :
    service serves a (some (.ret t r)) (a.moved t .idle a.data)
  | crash (a : Service T Op R D) : service serves a (some .crash) ⟨a.data, fun _ => .idle⟩

/-- A service that may do more can do the same. -/
theorem service_mono {serves serves' : Op → D → R → D → Prop}
    (h : ∀ op d r d', serves op d r d' → serves' op d r d') {a a' : Service T Op R D} {shown : List (Event T Op R)}
    (hrun : Runs (service serves) a shown a') : Runs (service serves') a shown a' := by
  have hsim : Simulation (service (T := T) serves) (service serves') Eq := by
    rintro s _ l s' rfl hstep
    refine ⟨s', .one ?_, rfl⟩
    cases hstep with
    | call _ t op idle => exact .call _ t op idle
    | serve _ t op r d asked legal => exact .serve _ t op r d asked (h _ _ _ _ legal)
    | ret _ t r served => exact .ret _ t r served
    | crash => exact .crash _
  obtain ⟨_, hruns, rfl⟩ := hsim.runs hrun rfl
  exact hruns

/-- What every answer keeps of the data holds wherever a call is served. -/
theorem service_keeps {serves : Op → D → R → D → Prop} {P : D → Prop}
    (h : ∀ op d r d', P d → serves op d r d' → P d') {a a' : Service T Op R D} {shown : List (Event T Op R)}
    (ha : P a.data) (hrun : Runs (service serves) a shown a') :
    Runs (service fun op d r d' => P d ∧ serves op d r d') a shown a' := by
  have hboth : Runs (service fun op d r d' => P d ∧ serves op d r d') a shown a' ∧ P a'.data := by
    induction hrun with
    | refl => exact ⟨.refl, ha⟩
    | silent _ step ih =>
      obtain ⟨hruns, hP⟩ := ih
      cases step with
      | serve _ t op r d asked legal =>
        exact ⟨.silent hruns (.serve _ t op r d asked ⟨hP, legal⟩), h _ _ _ _ hP legal⟩
    | shows _ step ih =>
      obtain ⟨hruns, hP⟩ := ih
      cases step with
      | call _ t op idle => exact ⟨.shows hruns (.call _ t op idle), hP⟩
      | ret _ t r served => exact ⟨.shows hruns (.ret _ t r served), hP⟩
      | crash => exact ⟨.shows hruns (.crash _), hP⟩
  exact hboth.1

/-- Where only calls of a kind are made, only calls of that kind are served. -/
theorem service_restrict {serves : Op → D → R → D → Prop} {kind : Op → Prop} {a a' : Service T Op R D}
    {shown : List (Event T Op R)} (calls : ∀ t op, .call t op ∈ shown → kind op)
    (ha : ∀ t op, a.progress t = .asked op → kind op) (h : Runs (service serves) a shown a') :
    Runs (service fun op d r d' => kind op ∧ serves op d r d') a shown a' := by
  have hboth : Runs (service fun op d r d' => kind op ∧ serves op d r d') a shown a' ∧
      ∀ t op, a'.progress t = .asked op → kind op := by
    induction h with
    | refl => exact ⟨.refl, ha⟩
    | @silent shown b b' run step ih =>
      obtain ⟨hrun, hkind⟩ := ih calls
      cases step with
      | serve _ t op r d asked legal =>
        refine ⟨.silent hrun (.serve _ t op r d asked ⟨hkind t op asked, legal⟩), fun u o hu => ?_⟩
        rcases Service.moved_cases hu with ⟨_, hp⟩ | ⟨_, hu⟩
        · cases hp
        · exact hkind u o hu
    | @shows shown b b' l run step ih =>
      obtain ⟨hrun, hkind⟩ := ih fun t op h => calls t op (List.mem_append_left _ h)
      cases step with
      | call _ t op idle =>
        refine ⟨.shows hrun (.call _ t op idle), fun u o hu => ?_⟩
        rcases Service.moved_cases hu with ⟨_, hp⟩ | ⟨_, hu⟩
        · cases hp
          exact calls t op (List.mem_append_right _ (List.mem_singleton_self _))
        · exact hkind u o hu
      | ret _ t r served =>
        refine ⟨.shows hrun (.ret _ t r served), fun u o hu => ?_⟩
        rcases Service.moved_cases hu with ⟨_, hp⟩ | ⟨_, hu⟩
        · cases hp
        · exact hkind u o hu
      | crash =>
        refine ⟨.shows hrun (.crash _), fun u o hu => ?_⟩
        cases hu
  exact hboth.1

/-! ### The order of calls

A call that began when another had been answered is served on data in which the other's
effect stands. -/

/-- The data after some more calls were served. -/
abbrev Later (serves : Op → D → R → D → Prop) : D → D → Prop :=
  Relation.ReflTransGen fun d d' => ∃ op r, serves op d r d'

/-- The event is one of the caller, or the end of the process. -/
def Event.Touches (t : T) : Event T Op R → Prop
  | .call u _ | .ret u _ => u = t
  | .crash => True

/-- `r` is the answer to a call served between `d` and `d'`. -/
def Answered (serves : Op → D → R → D → Prop) (d : D) (op : Op) (r : R) (d' : D) : Prop :=
  ∃ d₁ d₂, Later serves d d₁ ∧ serves op d₁ r d₂ ∧ Later serves d₂ d'

section order
variable {serves : Op → D → R → D → Prop} {a a' : Service T Op R D}

omit [DecidableEq T] in
theorem Answered.later {d d' d'' : D} {op : Op} {r : R} (h : Answered serves d op r d')
    (h' : Later serves d' d'') :
    Answered serves d op r d'' := by
  obtain ⟨d₁, d₂, hd, hs, hl⟩ := h
  exact ⟨d₁, d₂, hd, hs, hl.trans h'⟩

/-- One step of the service. -/
theorem service_step_later {l : Option (Event T Op R)} (h : service serves a l a') :
    Later serves a.data a'.data := by
  cases h with
  | call => exact .refl
  | serve _ t op r d asked legal => exact .single ⟨op, r, legal⟩
  | ret => exact .refl
  | crash => exact .refl

theorem service_later {shown : List (Event T Op R)} (h : Runs (service serves) a shown a') :
    Later serves a.data a'.data :=
  h.invariant (P := fun b => Later serves a.data b.data)
    (fun _ _ _ hl hstep => hl.trans (service_step_later hstep)) .refl

/-- Who has been served was served since the process began. -/
theorem service_served {d : D} {shown : List (Event T Op R)}
    (h : Runs (service serves) ⟨d, fun _ => .idle⟩ shown a) {t : T}
    {r : R} (hr : a.progress t = .served r) : ∃ op, Answered serves d op r a.data := by
  have hinv : Later serves d a.data ∧ ∀ t r, a.progress t = .served r → ∃ op, Answered serves d op r a.data := by
    refine h.invariant (P := fun b => Later serves d b.data ∧
      ∀ t r, b.progress t = .served r → ∃ op, Answered serves d op r b.data) (fun b l b' hb hstep => ?_)
      ⟨.refl, fun t r h => by cases h⟩
    have hlater := service_step_later hstep
    refine ⟨hb.1.trans hlater, fun u x hu => ?_⟩
    have hold : b.progress u = .served x → ∃ op, Answered serves d op x b'.data := fun h => by
      obtain ⟨op, hop⟩ := hb.2 u x h
      exact ⟨op, hop.later hlater⟩
    cases hstep with
    | call _ t op idle =>
      rcases Service.moved_cases hu with ⟨_, hp⟩ | ⟨_, hu⟩
      · cases hp
      · exact hold hu
    | serve _ t op y d' asked legal =>
      rcases Service.moved_cases hu with ⟨_, hp⟩ | ⟨_, hu⟩
      · cases hp
        exact ⟨op, b.data, d', hb.1, legal, .refl⟩
      · exact hold hu
    | ret _ t y served =>
      rcases Service.moved_cases hu with ⟨_, hp⟩ | ⟨_, hu⟩
      · cases hp
      · exact hold hu
    | crash => cases hu
  exact hinv.2 t r hr

/-- Who has asked is still to be served, or has been served meanwhile. -/
theorem service_asked {shown : List (Event T Op R)} {t : T} {op : Op} (h : Runs (service serves) a shown a')
    (hasked : a.progress t = .asked op) (quiet : ∀ e ∈ shown, ¬ e.Touches t) :
    a'.progress t = .asked op ∨ ∃ r, a'.progress t = .served r ∧ Answered serves a.data op r a'.data := by
  induction h with
  | refl => exact Or.inl hasked
  | @silent shown b b' run step ih =>
    have hlater := service_later run
    have hih := ih quiet
    cases step with
    | serve _ u op' y d' asked legal =>
      by_cases hut : t = u
      · subst hut
        right
        rcases hih with h | ⟨r, h, _⟩
        · rw [h] at asked
          cases asked
          exact ⟨y, Service.moved_self _ _ _ _, b.data, d', hlater, legal, .refl⟩
        · rw [h] at asked
          cases asked
      · rw [Service.moved_ne _ hut]
        rcases hih with h | ⟨r, h, hr⟩
        · exact Or.inl h
        · exact Or.inr ⟨r, h, hr.later (.single ⟨op', y, legal⟩)⟩
  | @shows shown b b' l run step ih =>
    have hih := ih fun e he => quiet e (List.mem_append_left _ he)
    have hl : ¬ l.Touches t := quiet l (List.mem_append_right _ (List.mem_singleton_self l))
    cases step with
    | call _ u op' idle =>
      rw [Service.moved_ne _ fun h => hl h.symm]
      exact hih
    | ret _ u y served =>
      rw [Service.moved_ne _ fun h => hl h.symm]
      exact hih
    | crash => exact absurd trivial hl

/-- A call and its answer. -/
theorem service_call {post : List (Event T Op R)} {t : T} {op : Op} {r : R} (quiet : ∀ e ∈ post, ¬ e.Touches t)
    (h : Runs (service serves) a (.call t op :: (post ++ [.ret t r])) a') :
    Answered serves a.data op r a'.data := by
  obtain ⟨b, hcall, hrest⟩ := h.split (List.append_cons [] _ _)
  obtain ⟨b₁, b₂, hbefore, hstep, hafter⟩ := hcall.last rfl
  obtain ⟨c₁, c₂, hpost, hret, hend⟩ := (hafter.trans hrest).last (by rw [List.nil_append])
  have hasked : b₂.progress t = .asked op := by
    cases hstep
    exact Service.moved_self _ _ _ _
  have hserved : c₁.progress t = .served r := by
    cases hret with
    | ret _ _ _ served => exact served
  obtain ⟨d₁, d₂, hd₁, legal, hd₂⟩ : Answered serves b₂.data op r c₁.data := by
    rcases service_asked hpost hasked quiet with h | ⟨x, hx, hanswered⟩
    · rw [hserved] at h
      cases h
    · rw [hserved] at hx
      cases hx
      exact hanswered
  exact ⟨d₁, d₂, ((service_later hbefore).trans (service_step_later hstep)).trans hd₁, legal,
    (hd₂.trans (service_step_later hret)).trans (service_later hend)⟩

/-- **Calls are served in their real order**: a call that begins after another was answered is
served on data in which the other's effect stands. -/
theorem service_order {d : D} {pre mid post : List (Event T Op R)} {t u : T} {op : Op} {r r' : R}
    (quiet : ∀ e ∈ post, ¬ e.Touches u)
    (h : Runs (service serves) ⟨d, fun _ => .idle⟩
      (pre ++ .ret t r :: (mid ++ .call u op :: (post ++ [.ret u r']))) a) :
    ∃ (first : Op) (d₁ : D), Answered serves d first r d₁ ∧ Answered serves d₁ op r' a.data := by
  obtain ⟨b, hfirst, hrest⟩ := h.split (List.append_cons pre _ _)
  obtain ⟨c, hmid, hcall⟩ := hrest.split rfl
  obtain ⟨b₁, b₂, hpre, hstep, hsilent⟩ := hfirst.last rfl
  have hserved : b₁.progress t = .served r := by
    cases hstep with
    | ret _ _ _ served => exact served
  obtain ⟨first, hanswered⟩ := service_served hpre hserved
  have hlater : Later serves b₁.data c.data :=
    ((service_step_later hstep).trans (service_later hsilent)).trans (service_later hmid)
  exact ⟨first, c.data, hanswered.later hlater, service_call quiet hcall⟩

end order

/-! ### Any two answers

Of any two answers of a run, one was given where the effect of the other call stands. -/

/-- The answers of a run. -/
def results (shown : List (Event T Op R)) : List R :=
  shown.filterMap fun e => match e with
    | .ret _ r => some r
    | _ => none

/-- One call was answered with `r`, and a later one with `r'`. -/
def Before (serves : Op → D → R → D → Prop) (d : D) (r r' : R) (d' : D) : Prop :=
  ∃ (op op' : Op) (d₁ : D), Answered serves d op r d₁ ∧ Answered serves d₁ op' r' d'

def InTurn (serves : Op → D → R → D → Prop) (d : D) (r r' : R) (d' : D) : Prop :=
  Before serves d r r' d' ∨ Before serves d r' r d'

/-- The answers that were returned, and those that are still to be, were given in turn. -/
structure Ordered (serves : Op → D → R → D → Prop) (d : D) (past : List R) (a : Service T Op R D) : Prop where
  reached : Later serves d a.data
  given : ∀ r ∈ past, ∃ op, Answered serves d op r a.data
  pending : ∀ t r, a.progress t = .served r → ∃ op, Answered serves d op r a.data
  among : past.Pairwise fun r r' => InTurn serves d r r' a.data
  across : ∀ r ∈ past, ∀ t r', a.progress t = .served r' → InTurn serves d r r' a.data
  apart : ∀ t u r r', t ≠ u → a.progress t = .served r → a.progress u = .served r' → InTurn serves d r r' a.data

section turns
variable {serves : Op → D → R → D → Prop} {a a' : Service T Op R D} {d : D} {past : List R}

omit [DecidableEq T] in
theorem InTurn.later {r r' : R} {d' d'' : D} (h : InTurn serves d r r' d') (h' : Later serves d' d'') :
    InTurn serves d r r' d'' := by
  rcases h with ⟨op, op', d₁, hfirst, hsecond⟩ | ⟨op, op', d₁, hfirst, hsecond⟩
  · exact Or.inl ⟨op, op', d₁, hfirst, hsecond.later h'⟩
  · exact Or.inr ⟨op, op', d₁, hfirst, hsecond.later h'⟩

omit [DecidableEq T] in
theorem InTurn.symm {r r' : R} {d' : D} (h : InTurn serves d r r' d') : InTurn serves d r' r d' := Or.symm h

omit [DecidableEq T] in
/-- Nobody is served who was not. -/
theorem Ordered.of_fewer (h : Ordered serves d past a) (hdata : a'.data = a.data)
    (hold : ∀ t r, a'.progress t = .served r → a.progress t = .served r) : Ordered serves d past a' := by
  constructor
  · rw [hdata]
    exact h.reached
  · rw [hdata]
    exact h.given
  · rw [hdata]
    exact fun t r ht => h.pending t r (hold t r ht)
  · rw [hdata]
    exact h.among
  · rw [hdata]
    exact fun r hr t r' ht => h.across r hr t r' (hold t r' ht)
  · rw [hdata]
    exact fun t u r r' htu ht hu => h.apart t u r r' htu (hold t r ht) (hold u r' hu)

/-- A call is served: after every other that was. -/
theorem Ordered.serve (h : Ordered serves d past a) {t : T} {op : Op} {x : R} {d' : D}
    (legal : serves op a.data x d') :
    Ordered serves d past (a.moved t (.served x) d') := by
  have hlater : Later serves a.data d' := .single ⟨op, x, legal⟩
  have hmine : Answered serves a.data op x d' := ⟨a.data, d', .refl, legal, .refl⟩
  have hturn : ∀ {r : R}, (∃ op, Answered serves d op r a.data) → InTurn serves d r x d' := by
    rintro r ⟨op', hr⟩
    exact Or.inl ⟨op', op, a.data, hr, hmine⟩
  constructor
  · exact h.reached.trans hlater
  · intro r hr
    obtain ⟨op', hr⟩ := h.given r hr
    exact ⟨op', hr.later hlater⟩
  · intro u r hu
    rcases Service.moved_cases hu with ⟨_, hp⟩ | ⟨_, hu⟩
    · cases hp
      exact ⟨op, a.data, d', h.reached, legal, .refl⟩
    · obtain ⟨op', hr⟩ := h.pending u r hu
      exact ⟨op', hr.later hlater⟩
  · exact h.among.imp fun hr => hr.later hlater
  · intro r hr u r' hu
    rcases Service.moved_cases hu with ⟨_, hp⟩ | ⟨_, hu⟩
    · cases hp
      exact hturn (h.given r hr)
    · exact (h.across r hr u r' hu).later hlater
  · intro u v r r' huv hu hv
    rcases Service.moved_cases hu with ⟨hut, hp⟩ | ⟨_, hu'⟩
    · rcases Service.moved_cases hv with ⟨hvt, _⟩ | ⟨_, hv'⟩
      · exact absurd (hut.trans hvt.symm) huv
      · cases hp
        exact (hturn (h.pending v r' hv')).symm
    · rcases Service.moved_cases hv with ⟨_, hq⟩ | ⟨_, hv'⟩
      · cases hq
        exact hturn (h.pending u r hu')
      · exact (h.apart u v r r' huv hu' hv').later hlater

/-- An answer is returned. -/
theorem Ordered.ret (h : Ordered serves d past a) {t : T} {x : R} (served : a.progress t = .served x) :
    Ordered serves d (past ++ [x]) (a.moved t .idle a.data) := by
  have hrest : ∀ {u : T} {r : R}, (a.moved t .idle a.data).progress u = .served r → u ≠ t ∧
    a.progress u = .served r := by
    intro u r hu
    rcases Service.moved_cases hu with ⟨_, hp⟩ | hu
    · cases hp
    · exact hu
  constructor
  · exact h.reached
  · intro r hr
    rcases List.mem_append.1 hr with hr | hr
    · exact h.given r hr
    · rw [List.mem_singleton.1 hr]
      exact h.pending t x served
  · exact fun u r hu => h.pending u r (hrest hu).2
  · refine List.pairwise_append.2 ⟨h.among, List.pairwise_singleton _ _, fun r hr r' hr' => ?_⟩
    rw [List.mem_singleton.1 hr']
    exact h.across r hr t x served
  · intro r hr u r' hu
    obtain ⟨hut, hu⟩ := hrest hu
    rcases List.mem_append.1 hr with hr | hr
    · exact h.across r hr u r' hu
    · rw [List.mem_singleton.1 hr]
      exact h.apart t u x r' hut.symm served hu
  · exact fun u v r r' huv hu hv => h.apart u v r r' huv (hrest hu).2 (hrest hv).2

theorem service_ordered {shown : List (Event T Op R)} (h : Runs (service serves) ⟨d, fun _ => .idle⟩ shown a) :
    Ordered serves d (results shown) a := by
  have hmoved : ∀ {a : Service T Op R D} {t : T} {p : Progress Op R}, (∀ r, p ≠ .served r) → ∀ u r,
      (a.moved t p a.data).progress u = .served r → a.progress u = .served r := by
    intro a t p hp u r hu
    rcases Service.moved_cases hu with ⟨_, h⟩ | ⟨_, hu⟩
    · exact absurd h (hp r)
    · exact hu
  induction h with
  | refl =>
    refine ⟨.refl, fun r hr => ?_, fun t r ht => ?_, List.Pairwise.nil, fun r hr => ?_, fun t u r r' _ ht => ?_⟩
    · cases hr
    · cases ht
    · cases hr
    · cases ht
  | silent _ step ih =>
    cases step with
    | serve _ t op x d' asked legal => exact ih.serve legal
  | @shows shown b b' l _ step ih =>
    unfold results
    rw [List.filterMap_append]
    cases step with
    | call _ t op idle =>
      refine Eq.mpr (congrArg (fun past => Ordered serves d past _) (List.append_nil _)) ?_
      exact ih.of_fewer rfl (hmoved fun r h => by cases h)
    | ret _ t x served => exact ih.ret served
    | crash =>
      refine Eq.mpr (congrArg (fun past => Ordered serves d past _) (List.append_nil _)) ?_
      exact ih.of_fewer rfl fun u r hu => by cases hu

end turns

/-! ### Answers in another form

A caller may make something of its answer that depends on what it asked. -/

section relabel
variable {R' : Type}

/-- Whose calls are out after an event. -/
def Event.out (calls : T → Option Op) : Event T Op R → T → Option Op
  | .call t op => Function.update calls t (some op)
  | .ret t _ => Function.update calls t none
  | .crash => fun _ => none

/-- The event as the caller sees it; an answer to no call is none. -/
def Event.relabel (g : Op → R → R') (calls : T → Option Op) : Event T Op R → Option (Event T Op R')
  | .call t op => some (.call t op)
  | .ret t r => (calls t).map fun op => .ret t (g op r)
  | .crash => some .crash

/-- A run as its callers see it, the calls that are out at its start given. -/
def relabel (g : Op → R → R') : (T → Option Op) → List (Event T Op R) → List (Event T Op R')
  | _, [] => []
  | calls, e :: rest => (e.relabel g calls).toList ++ relabel g (e.out calls) rest

theorem relabel_append (g : Op → R → R') (e : Event T Op R) (calls : T → Option Op) (shown : List (Event T Op R)) :
    relabel g calls (shown ++ [e]) =
      relabel g calls shown ++ (e.relabel g (shown.foldl Event.out calls)).toList := by
  induction shown generalizing calls with
  | nil => simp [relabel]
  | cons first rest ih => simp [relabel, ih]

/-- How far a call has got, and how far its caller sees it. -/
inductive Progress.Relabelled (g : Op → R → R') : Option Op → Progress Op R → Progress Op R' → Prop
  | idle : Relabelled g none .idle .idle
  | asked (op : Op) : Relabelled g (some op) (.asked op) (.asked op)
  | served (op : Op) (r : R) : Relabelled g (some op) (.served r) (.served (g op r))

/-- A service that answers in the callers' form does as well. -/
theorem service_relabel {serves : Op → D → R → D → Prop} (g : Op → R → R') {d : D} {a : Service T Op R D}
    {shown : List (Event T Op R)} (h : Runs (service serves) ⟨d, fun _ => .idle⟩ shown a) :
    ∃ b, Runs (service fun op d x d' => ∃ r, serves op d r d' ∧ x = g op r) ⟨d, fun _ => .idle⟩
        (relabel g (fun _ => none) shown) b ∧ b.data = a.data ∧
      ∀ t, Progress.Relabelled g (shown.foldl Event.out (fun _ => none) t) (a.progress t) (b.progress t) := by
  induction h with
  | refl => exact ⟨_, .refl, rfl, fun _ => .idle⟩
  | @silent shown a a' run step ih =>
    obtain ⟨b, hrun, hdata, hprogress⟩ := ih
    cases step with
    | serve _ t op r d' asked legal =>
      have ht := hprogress t
      rw [asked] at ht
      generalize hcall : shown.foldl Event.out (fun _ => none) t = call at ht
      generalize hb : b.progress t = p at ht
      cases ht
      refine ⟨_, .silent hrun (.serve b t op (g op r) d' hb ⟨r, hdata ▸ legal, rfl⟩), rfl, fun u => ?_⟩
      by_cases hu : u = t
      · subst hu
        rw [Service.moved_self, Service.moved_self, hcall]
        exact .served op r
      · rw [Service.moved_ne _ hu, Service.moved_ne _ hu]
        exact hprogress u
  | @shows shown a a' l run step ih =>
    obtain ⟨b, hrun, hdata, hprogress⟩ := ih
    rw [relabel_append]
    simp only [List.foldl_append, List.foldl_cons, List.foldl_nil]
    generalize hcalls : shown.foldl Event.out (fun _ => none) = calls at hprogress ⊢
    cases step with
    | call _ t op idle =>
      have ht := hprogress t
      rw [idle] at ht
      generalize calls t = call at ht
      generalize hb : b.progress t = p at ht
      cases ht
      refine ⟨_, .shows hrun (.call b t op hb), hdata, fun u => ?_⟩
      by_cases hu : u = t
      · subst hu
        rw [Service.moved_self, Service.moved_self]
        show Progress.Relabelled g (Function.update calls u (some op) u) _ _
        rw [Function.update_self]
        exact .asked op
      · rw [Service.moved_ne _ hu, Service.moved_ne _ hu]
        show Progress.Relabelled g (Function.update calls t (some op) u) _ _
        rw [Function.update_of_ne hu]
        exact hprogress u
    | ret _ t r served =>
      have ht := hprogress t
      rw [served] at ht
      generalize hcall : calls t = call at ht
      generalize hb : b.progress t = p at ht
      cases ht with
      | served op r =>
        have hlabel : (Event.ret t r : Event T Op R).relabel g calls = some (.ret t (g op r)) := by
          show (calls t).map _ = _
          rw [hcall]
          rfl
        rw [hlabel]
        refine ⟨_, .shows hrun (.ret b t (g op r) hb), hdata, fun u => ?_⟩
        by_cases hu : u = t
        · subst hu
          rw [Service.moved_self, Service.moved_self]
          show Progress.Relabelled g (Function.update calls u none u) _ _
          rw [Function.update_self]
          exact .idle
        · rw [Service.moved_ne _ hu, Service.moved_ne _ hu]
          show Progress.Relabelled g (Function.update calls t none u) _ _
          rw [Function.update_of_ne hu]
          exact hprogress u
    | crash => exact ⟨_, .shows hrun (.crash b), hdata, fun _ => .idle⟩

/-- A run with each answer beside the call that it answers. -/
def paired (shown : List (Event T Op R)) : List (Event T Op (Op × R)) :=
  relabel (fun op r => (op, r)) (fun _ => none) shown

/-- Each call answers itself, beside its answer. -/
def Beside (serves : Op → D → R → D → Prop) : Op → D → Op × R → D → Prop :=
  fun op d x d' => ∃ r, serves op d r d' ∧ x = (op, r)

section told
variable {serves : Op → D → R → D → Prop} {d : D} {a : Service T Op R D} {shown : List (Event T Op R)}

theorem service_paired (h : Runs (service serves) ⟨d, fun _ => .idle⟩ shown a) :
    ∃ b, Runs (service (Beside serves)) ⟨d, fun _ => .idle⟩ (paired shown) b ∧ b.data = a.data := by
  obtain ⟨b, hrun, hdata, _⟩ := service_relabel (fun op r => (op, r)) h
  exact ⟨b, hrun, hdata⟩

omit [DecidableEq T] in
theorem Answered.beside {d' : D} {op : Op} {x : Op × R} (h : Answered (Beside serves) d op x d') :
    Answered serves d x.1 x.2 d' := by
  have hlater : ∀ {d d' : D}, Later (Beside serves) d d' → Later serves d d' := by
    intro d d' h
    induction h with
    | refl => exact .refl
    | tail _ hstep ih =>
      obtain ⟨op, _, r, hs, _⟩ := hstep
      exact ih.tail ⟨op, r, hs⟩
  obtain ⟨d₁, d₂, h₁, ⟨r, hs, rfl⟩, h₂⟩ := h
  exact ⟨d₁, d₂, hlater h₁, hs, hlater h₂⟩

/-- What a call was told it was answered. -/
theorem service_told (h : Runs (service serves) ⟨d, fun _ => .idle⟩ shown a) {x : Op × R}
    (hx : x ∈ results (paired shown)) : Answered serves d x.1 x.2 a.data := by
  obtain ⟨b, hrun, hdata⟩ := service_paired h
  obtain ⟨op, hanswered⟩ := (service_ordered hrun).given x hx
  rw [← hdata]
  exact hanswered.beside

/-- Of any two calls that were answered, one was served on data in which the other's effect stands. -/
theorem service_told_in_turn (h : Runs (service serves) ⟨d, fun _ => .idle⟩ shown a) :
    (results (paired shown)).Pairwise fun x y =>
      (∃ d₁, Answered serves d x.1 x.2 d₁ ∧ Answered serves d₁ y.1 y.2 a.data) ∨
        ∃ d₁, Answered serves d y.1 y.2 d₁ ∧ Answered serves d₁ x.1 x.2 a.data := by
  obtain ⟨b, hrun, hdata⟩ := service_paired h
  rw [← hdata]
  refine (service_ordered hrun).among.imp fun hturn => ?_
  rcases hturn with ⟨_, _, d₁, hfirst, hsecond⟩ | ⟨_, _, d₁, hfirst, hsecond⟩
  · exact Or.inl ⟨d₁, hfirst.beside, hsecond.beside⟩
  · exact Or.inr ⟨d₁, hfirst.beside, hsecond.beside⟩

/-- A call that begins after another was answered is the later one. -/
theorem service_told_order {pre mid post : List (Event T Op (Op × R))} {t u : T} {op op' : Op} {r r' : R}
    (h : Runs (service serves) ⟨d, fun _ => .idle⟩ shown a) (quiet : ∀ e ∈ post, ¬ e.Touches u)
    (hshown : paired shown = pre ++ .ret t (op, r) :: (mid ++ .call u op' :: (post ++ [.ret u (op', r')]))) :
    ∃ d₁, Answered serves d op r d₁ ∧ Answered serves d₁ op' r' a.data := by
  obtain ⟨b, hrun, hdata⟩ := service_paired h
  rw [hshown] at hrun
  obtain ⟨_, d₁, hfirst, hsecond⟩ := service_order quiet hrun
  rw [← hdata]
  exact ⟨d₁, hfirst.beside, hsecond.beside⟩

end told

end relabel

end service

end Refinement
