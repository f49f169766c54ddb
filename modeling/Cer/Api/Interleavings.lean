import Cer.Api.NonInterference

/-!
# Interleaved producers

Producers submit at the same time and their requests reach the store in some order.
Whatever the order, what a producer gets for each of its requests is what it would have
got alone, and all it would have stored alone is stored
(`interleavings_do_not_interfere`), as long as no two names are joined alike.
-/

namespace Cer

open Py Unwinding

/-- The row a write of a producer's work inserts, where it inserts one. -/
def Write.insertedRow (env : Env) : Write → Option KeyedRow
  | .createExperiment e k => some (.experiment (e.toRow env k))
  | .createRun r k => some (.run (r.toRow env k))
  | .appendEvidence e => some (.evidence (e.toRow env))
  | .recordPromotion t k => some (.promotion (t.toRow env k))
  | .recordHealth h k _ => some (.health (h.toRow env k))
  | _ => none

/-- **One write** adds nothing, or the row that is made of what it submits. -/
theorem inserting_run_adds {env : Env} {db db' : Database} {w : Write} {rep : Reply} {κ : KeyedTable} {i : String}
    (ht : w.target = some (κ, i)) (h : w.run env db = .ok (rep, db')) :
    db' = db ∨ ∃ row, w.insertedRow env = some row ∧ db.Adds db' κ row := by
  have he := effect_of_run h
  rcases Write.target_cases ht with ⟨e, k, rfl, rfl, rfl⟩ | ⟨r, k, rfl, rfl, rfl⟩ | ⟨e, rfl, rfl, rfl⟩ |
    ⟨t, k, rfl, rfl, rfl⟩ | ⟨x, k, n, rfl, rfl, rfl⟩
  · cases he with
    | unchanged => exact Or.inl rfl
    | experiment _ _ _ => exact Or.inr ⟨_, rfl, adds_experiment db _⟩
  · cases he with
    | unchanged => exact Or.inl rfl
    | run _ _ _ _ => exact Or.inr ⟨_, rfl, adds_run db _⟩
  · cases he with
    | unchanged => exact Or.inl rfl
    | evidence _ _ _ _ => exact Or.inr ⟨_, rfl, adds_evidence db _⟩
  · cases he with
    | unchanged => exact Or.inl rfl
    | promotion _ _ _ => exact Or.inr ⟨_, rfl, adds_promotion db _⟩
  · cases he with
    | unchanged => exact Or.inl rfl
    | health _ _ _ => exact Or.inr ⟨_, rfl, adds_health db _⟩

namespace Api

/-! ## The two runs -/

section alongside
variable {env : Env} {uuid5 : Uuid5} {db db₁ : Database} {Mine : Post → Prop}

/-- The row shares neither identity nor key with what is submitted. -/
def Post.Unseen (uuid5 : Uuid5) (x : Post) (κ : KeyedTable) (row : KeyedRow) : Prop :=
  x.table = κ → row.ident ≠ x.ident uuid5 ∧ ∀ k, x.key = some k → row.key ≠ some (x.producer, k)

theorem Post.Unseen.clear {x : Post} {κ : KeyedTable} {row : KeyedRow} (h : x.Unseen uuid5 κ row) {w : Write}
    (hw : x.req.toWrite uuid5 x.draw = .ok w) : w.Clear κ row := by
  obtain ⟨_, ht, hkeyed⟩ := Post.toWrite_ok hw
  constructor
  · intro i hi
    rw [ht] at hi
    obtain ⟨htable, rfl⟩ := Prod.mk.inj (Option.some.inj hi)
    exact (h htable).1
  · intro p k hk
    rw [hkeyed] at hk
    obtain ⟨k₁, hk₁, hk⟩ := Option.map_eq_some_iff.1 hk
    obtain ⟨htable, hpk⟩ := Prod.mk.inj hk
    obtain ⟨rfl, rfl⟩ := Prod.mk.inj hpk
    exact (h htable).2 k₁ hk₁

/-- The row of a submission that is clear of another one. -/
theorem Post.Clear.unseen {x y : Post} (h : x.Clear uuid5 y) {w : Write} (hw : y.req.toWrite uuid5 y.draw = .ok w)
    {row : KeyedRow} (hident : row.ident = y.ident uuid5) (hkey : row.key = w.keyed.map Prod.snd) :
    x.Unseen uuid5 y.table row := by
  intro htable
  obtain ⟨hi, hk⟩ := h htable
  refine ⟨fun he => hi (hident.symm.trans he), fun k hxk hrow => ?_⟩
  rw [hkey, (Post.toWrite_ok hw).2.2, Option.map_map] at hrow
  obtain ⟨k', hk', hpk⟩ := Option.map_eq_some_iff.1 hrow
  exact hk k k' hxk hk' hpk

/-- The database of one's own requests alone is that of the whole run without rows that none of them sees. -/
structure Alongside (env : Env) (uuid5 : Uuid5) (Mine : Post → Prop) (db₁ db : Database) : Prop where
  together : Reachable env db₁
  alone : Reachable env db
  rows : ∀ κ, Thinned (fun row => ∀ x, Mine x → x.Unseen uuid5 κ row) (db.keyedRows κ) (db₁.keyedRows κ)

theorem Alongside.start (hdb : Reachable env db) : Alongside env uuid5 Mine db db := ⟨hdb, hdb, fun _ => .refl _ _⟩

/-- Another one's request goes by. -/
theorem Alongside.other (h : Alongside env uuid5 Mine db₁ db) {y : Post} (hclear : ∀ x, Mine x → x.Clear uuid5 y) :
    Alongside env uuid5 Mine (y.next env uuid5 db₁) db := by
  refine ⟨y.next_reachable h.together, h.alone, fun κ => ?_⟩
  rcases @Post.next_cases env uuid5 y db₁ with hsame | ⟨w, rep, hw, hrun⟩
  · rw [hsame]
    exact h.rows κ
  rcases inserting_run_cases (Post.toWrite_ok hw).2.1 hrun with hsame | ⟨row, hadds, hident, hkey⟩
  · rw [hsame]
    exact h.rows κ
  by_cases hκ : κ = y.table
  · have hunseen : Thinned (fun row => ∀ x, Mine x → x.Unseen uuid5 κ row) [] [row] :=
      .drop row (fun x hx => hκ ▸ (hclear x hx).unseen hw hident hkey) .nil
    have happend := (h.rows κ).append hunseen
    rw [List.append_nil] at happend
    rw [hκ] at happend ⊢
    rw [hadds.self]
    exact happend
  · rw [hadds.other hκ]
    exact h.rows κ

theorem Alongside.thins (h : Alongside env uuid5 Mine db₁ db) {x : Post} (hx : Mine x) {w : Write}
    (hw : x.req.toWrite uuid5 x.draw = .ok w) : db.Thins w db₁ :=
  fun κ => (h.rows κ).mono fun _ hrow => (hrow x hx).clear hw

/-- One's own request has the outcome it has alone. -/
theorem Alongside.seen (h : Alongside env uuid5 Mine db₁ db) {x : Post} (hx : Mine x)
    (hrefs : x.RefsExist uuid5 db) :
    x.outcome env uuid5 db₁ = x.outcome env uuid5 db := by
  unfold Post.outcome
  cases hw : x.req.toWrite uuid5 x.draw with
  | error e =>
    unfold handle
    rw [hw]
    rfl
  | ok w =>
    rw [handle_of_toWrite hw, handle_of_toWrite hw]
    exact Write.outcome_thinned h.alone.wellFormed h.together.wellFormed (h.thins hx hw) (Post.toWrite_ok hw).2.1
      (hrefs w hw)

/-- A request changes the database just when its outcome says so. -/
theorem Post.next_of_outcome {x : Post} : x.next env uuid5 db = db ∨
    ∃ rep, x.outcome env uuid5 db = .ok (rep, true) := by
  unfold Post.next Post.outcome
  cases handle env uuid5 x.draw db x.req with
  | error e => exact Or.inl rfl
  | ok out =>
    by_cases hsame : out.2 = db
    · exact Or.inl hsame
    · refine Or.inr ⟨out.1, ?_⟩
      show Except.ok (out.1, decide (out.2 ≠ db)) = .ok (out.1, true)
      rw [decide_eq_true hsame]

theorem Post.adds_of_outcome {x : Post} {rep : Reply} (h : x.outcome env uuid5 db = .ok (rep, true)) :
    ∃ w row, x.req.toWrite uuid5 x.draw = .ok w ∧ w.insertedRow env = some row ∧
      db.Adds (x.next env uuid5 db) x.table row := by
  have hchanged : x.next env uuid5 db ≠ db := by
    unfold Post.outcome at h
    unfold Post.next
    cases hh : handle env uuid5 x.draw db x.req with
    | error e =>
      rw [hh] at h
      cases h
    | ok out =>
      rw [hh] at h
      exact of_decide_eq_true (Prod.mk.inj (Except.ok.inj h)).2
  rcases @Post.next_cases env uuid5 x db with hsame | ⟨w, rep', hw, hrun⟩
  · exact absurd hsame hchanged
  rcases inserting_run_adds (Post.toWrite_ok hw).2.1 hrun with hsame | ⟨row, hrow, hadds⟩
  · exact absurd hsame hchanged
  · exact ⟨w, row, hw, hrow, hadds⟩

/-- One's own request adds the same row in both runs, or none. -/
theorem Alongside.own (h : Alongside env uuid5 Mine db₁ db) {x : Post} (hx : Mine x)
    (hrefs : x.RefsExist uuid5 db) :
    Alongside env uuid5 Mine (x.next env uuid5 db₁) (x.next env uuid5 db) := by
  refine ⟨x.next_reachable h.together, x.next_reachable h.alone, fun κ => ?_⟩
  have hseen := h.seen hx hrefs
  by_cases hout : ∃ rep, x.outcome env uuid5 db = .ok (rep, true)
  · obtain ⟨rep, hout⟩ := hout
    obtain ⟨w, row, hw, hrow, hadds⟩ := Post.adds_of_outcome hout
    obtain ⟨w', row', hw', hrow', hadds'⟩ := Post.adds_of_outcome (hseen.trans hout)
    obtain rfl : w = w' := Except.ok.inj (hw.symm.trans hw')
    obtain rfl : row = row' := Option.some.inj (hrow.symm.trans hrow')
    by_cases hκ : κ = x.table
    · rw [hκ, hadds.self, hadds'.self]
      exact (h.rows x.table).append (.refl _ [row])
    · rw [hadds.other hκ, hadds'.other hκ]
      exact h.rows κ
  · have hsame : x.next env uuid5 db = db := Post.next_of_outcome.resolve_right hout
    have hsame' : x.next env uuid5 db₁ = db₁ := by
      refine Post.next_of_outcome.resolve_right ?_
      rw [hseen]
      exact hout
    rw [hsame, hsame']
    exact h.rows κ

/-! ## Runs -/

/-- Names that are joined differently, and UUIDs that come from one name: the two are clear of each other. -/
theorem Post.clear_of_names {x y : Post} (hpq : y.producer ≠ x.producer) (hapart : x.Apart uuid5 y)
    (hnames : ∀ k k', truthy x.key = some k → truthy y.key = some k' →
      y.producer ++ ":" ++ k' ≠ x.producer ++ ":" ++ k) : x.Clear uuid5 y := by
  cases hy : y.key with
  | some k' =>
    refine Post.clear_of hpq hy hapart fun k hk hne => hnames k k' hk ?_
    rw [hy]
    exact if_neg hne
  | none =>
    -- without a key its identity is drawn, so nobody else has it
    intro htable
    refine ⟨fun hident => ?_, fun k k' _ hk' => by rw [hy] at hk'; cases hk'⟩
    unfold Post.ident at hident
    rw [htable] at hident
    obtain ⟨hsome, hname⟩ := hapart (UuidHex.eq_of_hex (append_cancel_left hident)).symm
    have hnone : y.name = none := by
      unfold Post.name
      rw [hy]
      rfl
    rw [hname, hnone] at hsome
    cases hsome

variable (env uuid5) in
/-- The database after a request, and what its sender got. -/
abbrev nextOf (db : Database) (x : Post) : Database := x.next env uuid5 db
variable (env uuid5) in
abbrev outcomeOf (db : Database) (x : Post) : Except Exc (Reply × Bool) := x.outcome env uuid5 db

theorem alongside_unwinds (own : String → Bool) (posts : List Post)
    (hclear : ∀ x ∈ posts, own x.producer = true → ∀ y ∈ posts, own y.producer = false → x.Clear uuid5 y) :
    Unwinds (nextOf env uuid5) (outcomeOf env uuid5) (fun x => own x.producer) (· ∈ posts)
      (fun db x => x.RefsExist uuid5 db) (Alongside env uuid5 fun x => x ∈ posts ∧ own x.producer = true) := by
  constructor
  · intro s t y h hy hown
    exact h.other fun x hx => hclear x hx.1 hx.2 y hy hown
  · intro s t x h hx hown hrefs
    exact h.own ⟨hx, hown⟩ hrefs
  · intro s t x h hx hown hrefs
    exact h.seen ⟨hx, hown⟩ hrefs

end alongside

/-- **No interleaving interferes**: in whatever order the requests of all producers reach the store,
some of them get for each of theirs what they get when the others send nothing, and their rows are
there in the same order. -/
theorem interleavings_do_not_interfere {env : Env} {uuid5 : Uuid5} {db : Database} (reached : Reachable env db)
    (own : String → Bool) (posts : List Post)
    (apart : ∀ x ∈ posts, own x.producer = true → ∀ y ∈ posts, own y.producer = false → x.Apart uuid5 y ∧
      ∀ k k', truthy x.key = some k → truthy y.key = some k' → y.producer ++ ":" ++ k' ≠ x.producer ++ ":" ++ k)
    (refs : Along (nextOf env uuid5) (fun d x => x.RefsExist uuid5 d) db (posts.filter fun x => own x.producer)) :
    (outputs (nextOf env uuid5) (outcomeOf env uuid5) db posts).filter (fun x => own x.1.producer) =
      outputs (nextOf env uuid5) (outcomeOf env uuid5) db (posts.filter fun x => own x.producer) ∧
    ∀ κ, (((posts.filter fun x => own x.producer).foldl (nextOf env uuid5) db).keyedRows κ).Sublist
      ((posts.foldl (nextOf env uuid5) db).keyedRows κ) := by
  have hclear : ∀ x ∈ posts, own x.producer = true → ∀ y ∈ posts, own y.producer = false → x.Clear uuid5 y := by
    intro x hx hxo y hy hyo
    have hpq : y.producer ≠ x.producer := fun he => by
      rw [he, hxo] at hyo
      cases hyo
    exact Post.clear_of_names hpq (apart x hx hxo y hy hyo).1 (apart x hx hxo y hy hyo).2
  obtain ⟨hout, hrel⟩ :=
    (alongside_unwinds own posts hclear).outputs_filter (.start reached) posts (fun _ h => h) refs
  exact ⟨hout, fun κ => (hrel.rows κ).sublist⟩

/-- Two producers, each with a repeat of its request, one inside the other. -/
def crossedPosts : List Post :=
  [experimentPost "alpha" "k", experimentPost "beta" "k", experimentPost "alpha" "k", experimentPost "beta" "k"]

theorem crossedPosts_do_not_interfere :
    (outputs (nextOf .reference knownUuid5) (outcomeOf .reference knownUuid5) .empty crossedPosts).filter
        (fun x => x.1.producer == "alpha") =
      outputs (nextOf .reference knownUuid5) (outcomeOf .reference knownUuid5) .empty
        (crossedPosts.filter fun x => x.producer == "alpha") := by
  refine (interleavings_do_not_interfere (.refl _) (· == "alpha") crossedPosts ?_ ?_).1
  · intro x hx hxo y hy hyo
    have hxe : x = experimentPost "alpha" "k" := by
      simp only [crossedPosts, List.mem_cons, List.not_mem_nil, or_false] at hx
      rcases hx with rfl | rfl | rfl | rfl
      · rfl
      · cases hxo
      · rfl
      · cases hxo
    have hye : y = experimentPost "beta" "k" := by
      simp only [crossedPosts, List.mem_cons, List.not_mem_nil, or_false] at hy
      rcases hy with rfl | rfl | rfl | rfl
      · cases hyo
      · rfl
      · cases hyo
      · rfl
    subst hxe hye
    refine ⟨fun huuid => absurd (congrArg UuidHex.hex huuid) (by decide +kernel), fun k k' hk hk' => ?_⟩
    cases hk
    cases hk'
    decide
  · refine ⟨fun w hw => ?_, fun w hw => ?_, trivial⟩
    · rw [experimentPost_toWrite knownUuid5 (by decide) (by decide)] at hw
      cases hw
      trivial
    · rw [experimentPost_toWrite knownUuid5 (by decide) (by decide)] at hw
      cases hw
      trivial

end Api

end Cer
