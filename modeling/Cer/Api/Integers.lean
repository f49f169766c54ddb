import Cer.Api.Registration
import Cer.Api.Timestamps

/-!
# Integers

The integers that reach SQLite as parameters are the limit and the offset of a page, the
schema version of a record of evidence and the size of an artifact.  Python's are
unbounded, SQLite's have 64 bits; `admitted_integers_fit_iff` says which of those that the
endpoints admit fit.
-/

namespace Cer.Api

open Py

/-! ## Calls -/

/-- The list endpoints and their filters. -/
inductive ListRequest
  | evidence (q : EvidenceQuery)
  | artifacts (evidenceId runId : Option String)
  | promotions (strategyId strategyVersion : Option String)
  | health (strategyId strategyVersion : Option String)

inductive ApiCall
  | list (l : ListRequest) (limit offset : Int)
  | write (req : Request)
  | register (post : ArtifactPost)

/-- What the validators of the request let through; a body is a `bytes` object, whose length is a `Py_ssize_t`. -/
def ApiCall.Admitted : ApiCall → Prop
  | .list _ limit offset => 1 ≤ limit ∧ limit ≤ 1000 ∧ 0 ≤ offset
  | .write req => req.WellFormed
  | .register post => post.data.length < 2 ^ 63

/-- The integers a write binds. -/
def Write.integers : Write → List Int
  | .appendEvidence e => [e.schemaVersion]
  | .registerArtifact a _ _ => [a.sizeBytes]
  | _ => []

/-- The stores and what the process has at hand. -/
structure Service where
  store : FsStore
  uuid5 : Uuid5
  draw : Draw
  maxArtifactBytes : Nat
  stores : Stores

section service
variable (s : Service)

/-- The query of the list endpoint, its records aside. -/
def ListRequest.run (limit offset : Int) : ListRequest → Except Exc Unit
  | .evidence q => (queryEvidence s.store.env s.stores.db q limit offset).map fun _ => ()
  | .artifacts evidenceId runId => (queryArtifacts s.stores.db evidenceId runId limit offset).map fun _ => ()
  | .promotions strategyId strategyVersion =>
    (queryPromotions s.store.env s.stores.db strategyId strategyVersion limit offset).map fun _ => ()
  | .health strategyId strategyVersion =>
    (queryHealth s.store.env s.stores.db strategyId strategyVersion limit offset).map fun _ => ()

/-- The page of a listing. -/
def page {Rec : Type} (listing : List Rec) (limit offset : Int) : List Rec :=
  (listing.drop offset.toNat).take limit.toNat

/-- The endpoint returns the page of the history of its filters. -/
def ListRequest.ReturnsPage (limit offset : Int) : ListRequest → Prop
  | .evidence q => q.InRange → ∃ listing,
      History s.stores.db.evidence (rowToEvidence s.store.env) q.Matches EvidenceRecord.order listing ∧
        queryEvidence s.store.env s.stores.db q limit offset = .ok (page listing limit offset)
  | .artifacts evidenceId runId => ∃ listing,
      History s.stores.db.artifacts rowToArtifact
        (ArtifactRecord.Matches evidenceId runId) ArtifactRecord.order listing ∧
        queryArtifacts s.stores.db evidenceId runId limit offset = .ok (page listing limit offset)
  | .promotions strategyId strategyVersion => ∃ listing,
      History s.stores.db.promotions (rowToPromotion s.store.env)
        (fun t => StrategyMatches strategyId strategyVersion t.strategyId t.strategyVersion)
          PromotionTransition.order
        listing ∧
        queryPromotions s.store.env s.stores.db strategyId strategyVersion limit offset =
          .ok (page listing limit offset)
  | .health strategyId strategyVersion => ∃ listing,
      History s.stores.db.healthRecords (rowToHealth s.store.env)
        (fun x => StrategyMatches strategyId strategyVersion x.strategyId x.strategyVersion)
          StrategyHealthRecord.order
        listing ∧
        queryHealth s.store.env s.stores.db strategyId strategyVersion limit offset =
          .ok (page listing limit offset)

/-- The integer is bound as a parameter of a statement while the call is handled. -/
inductive ApiCall.Bound : ApiCall → Int → Prop
  | limit (l : ListRequest) (limit offset : Int) : Bound (.list l limit offset) limit
  | offset (l : ListRequest) (limit offset : Int) : Bound (.list l limit offset) offset
  | write {req : Request} {w : Write} {n : Int} (h : req.toWrite s.uuid5 s.draw = .ok w)
      (hn : n ∈ Write.integers w) :
    Bound (.write req) n
  | register {post : ArtifactPost} {u : Upload} {r : ArtifactRecord} {σ : Stores} (calls : Nat)
    (h : (fun x : PostStage × Stores => x.1.next s.store s.draw x.2)^[calls]
      (post.arrive s.maxArtifactBytes, s.stores) = (.registering u r, σ)) : Bound (.register post) r.sizeBytes

/-- The exception that leaves the handler. -/
def ApiCall.Raises (e : Exc) : ApiCall → Prop
  | .list l limit offset => l.run s limit offset = .error e
  | .write req => handle s.store.env s.uuid5 s.draw s.stores.db req = .error e
  | .register post =>
    (createArtifact s.store s.maxArtifactBytes s.draw post s.stores).1.result = some (.error e)

/-- Every integer the call binds fits, no binding overflows, and a page is answered. -/
structure ApiCall.Fits (c : ApiCall) : Prop where
  integers : ∀ n, c.Bound s n → -2 ^ 63 ≤ n ∧ n ≤ 2 ^ 63 - 1
  noOverflow : ¬ c.Raises s integerTooLarge
  page : ∀ l limit offset, c = .list l limit offset → l.ReturnsPage s limit offset

/-- The offset, where there is one, has 64 bits. -/
def ApiCall.OffsetFits : ApiCall → Prop
  | .list _ _ offset => offset < 2 ^ 63
  | _ => True

end service

/-! ## Registrations -/

/-- An error of the hierarchy is no overflow. -/
theorem ne_integerTooLarge {e : Exc} (h : e.isCer = true) : e ≠ integerTooLarge := by
  rintro rfl
  cases h

/-- Between two calls of a registration: the bytes are a `bytes` object's, and so is the size of its record. -/
def Sized (db : Database) : PostStage × Stores → Prop
  | (.looking u _ _, σ) => σ.db = db ∧ u.args.data.length < 2 ^ 63
  | (.storing u, σ) => σ.db = db ∧ u.args.data.length < 2 ^ 63
  | (.registering _ r, σ) => σ.db = db ∧ 0 ≤ r.sizeBytes ∧ r.sizeBytes < 2 ^ 63
  | (.answered result, _) => result ≠ .error integerTooLarge

section registration
variable {store : FsStore} {draw : Draw} {db : Database}

theorem sized_error {σ : Stores} {e : Exc} (h : e.isCer = true) : Sized db (.answered (.error e), σ) :=
  fun he => ne_integerTooLarge h (Except.error.inj he)

theorem Refusal.isCer_or {e : Exc} (h : Refusal e) : e ≠ integerTooLarge := by
  rintro rfl
  cases h

theorem arrive_sized (post : ArtifactPost) (maxArtifactBytes : Nat) (σ : Stores) (h : post.data.length < 2 ^ 63) :
    Sized σ.db (post.arrive maxArtifactBytes, σ) := by
  unfold ArtifactPost.arrive
  split
  · next e he =>
    unfold ArtifactPost.prepare at he
    split at he
    · cases he
      exact sized_error rfl
    · split at he
      · cases he
        exact sized_error rfl
      · split at he
        · cases he
        · rcases bind_error he with he | ⟨_, _, he⟩
          · exact fun hx => (requireProducerForKey_error he).isCer_or (Except.error.inj hx)
          · cases he
  · next u hu =>
    have hdata := (prepare_ok hu).data
    split
    · exact ⟨rfl, by rw [hdata]; exact h⟩
    · exact ⟨rfl, by rw [hdata]; exact h⟩

theorem findArtifact_error (hdb : WellFormed store.env db) {p : Option String} {k : String} {e : Exc}
    (h : findArtifactByIdempotencyKey db p k = .error e) : e.isCer = true := by
  unfold findArtifactByIdempotencyKey at h
  rcases bind_error h with h | ⟨q, _, h⟩
  · unfold Cer.requireProducerForKey at h
    dsimp only at h
    split at h
    · cases h
      rfl
    · split at h
      · cases h
        rfl
      · cases h
  · split at h
    · cases h
    · next row hf =>
      obtain ⟨a, _, _, _, _, hread⟩ := (hdb.artifacts.origin row (List.mem_of_find?_eq_some hf)).read
      rw [hread] at h
      cases h

theorem overlay_cases (u : Upload) (prior : ArtifactRecord) :
    (∃ e, u.overlay store.env prior = .error e ∧ e.isCer = true) ∨
    u.overlay store.env prior = .ok (u.candidate store.env prior) := by
  by_cases hd : DigestDiffers store.env u.args
  · exact Or.inl ⟨_, if_pos hd, rfl⟩
  · exact Or.inr (if_neg hd)

theorem registerArtifact_error (hdb : WellFormed store.env db) {r : ArtifactRecord} {k p : Option String} {e : Exc}
    (hr : 0 ≤ r.sizeBytes ∧ r.sizeBytes < 2 ^ 63) (h : registerArtifact store.env db r k p = .error e) :
    e.isCer = true := by
  have hrun : (Write.registerArtifact r k p).run store.env db = .error e := by
    show asReply Reply.artifact (registerArtifact store.env db r k p) = .error e
    rw [h]
    rfl
  rcases hdb.run_error hrun with hcer | ⟨hbind, _⟩ | ⟨_, _, _, hw, _⟩
  · exact hcer
  · refine absurd ?_ hbind
    show Sql.fitsInt64 (.integer r.sizeBytes) = true
    simp only [Sql.fitsInt64, Bool.and_eq_true, decide_eq_true_eq]
    omega
  · cases hw

/-- A call keeps the sizes. -/
theorem next_sized (hdb : WellFormed store.env db) {x : PostStage × Stores} (h : Sized db x) :
    Sized db (x.1.next store draw x.2) := by
  obtain ⟨stage, σ⟩ := x
  cases stage with
  | looking u p k =>
    obtain ⟨rfl, hu⟩ := h
    show Sized σ.db (PostStage.next store draw (.looking u p k) σ)
    unfold PostStage.next
    dsimp only
    split
    · next e he => exact sized_error (findArtifact_error hdb he)
    · exact ⟨rfl, hu⟩
    · next prior _ =>
      rcases @overlay_cases store u prior with ⟨e, he, hcer⟩ | hover
      · rw [he]
        exact sized_error hcer
      · rw [hover]
        exact ⟨rfl, Int.natCast_nonneg _, by show ((u.args.data.length : Nat) : Int) < _; omega⟩
  | storing u =>
    obtain ⟨rfl, hu⟩ := h
    show Sized σ.db (PostStage.next store draw (.storing u) σ)
    unfold PostStage.next
    dsimp only
    split
    · next e v i he => exact sized_error (FsStore.put_error he).1
    · next r v i hr =>
      obtain ⟨_, rfl, _⟩ := FsStore.put_ok hr
      have hsize : (u.attached (store.newRecord u.args draw.uuid4 draw.now)).sizeBytes = u.args.data.length := by
        unfold Upload.attached
        split <;> rfl
      refine ⟨rfl, ?_⟩
      rw [hsize]
      omega
  | registering u r =>
    obtain ⟨rfl, hr⟩ := h
    rw [next_registering]
    split
    · next e he => exact sized_error (registerArtifact_error hdb hr he)
    · intro hx
      cases hx
  | answered result => exact h

theorem iterate_sized {store : FsStore} {draw : Draw} {db : Database} (hdb : WellFormed store.env db)
    (calls : Nat) : ∀ {x : PostStage × Stores}, Sized db x →
      Sized db ((fun x : PostStage × Stores => x.1.next store draw x.2)^[calls] x) := by
  induction calls with
  | zero => exact fun h => h
  | succ calls ih =>
    intro x h
    rw [Function.iterate_succ_apply]
    exact ih (next_sized hdb h)

end registration

/-! ## Which integers fit -/

theorem toUtc_ne_integerTooLarge (t : AwareTime) : toUtc t ≠ .error integerTooLarge := by
  intro h
  unfold toUtc at h
  split at h
  · cases h
  · split at h
    · cases h
    · have hm := Exc.overflowError.inj (Except.error.inj h)
      exact absurd hm (by decide)

/-- A bound that cannot be written is one with no UTC value. -/
theorem boundText_error {b : Option AwareTime} {e : Exc} (h : boundText b = .error e) : ∃ t,
    toUtc t = .error e := by
  cases b with
  | none => cases h
  | some t =>
    refine ⟨t, ?_⟩
    have hmap : (toUtc t).map (fun u => some (dtToStr u)) = .error e := h
    cases ht : toUtc t with
    | error x =>
      rw [ht] at hmap
      exact congrArg Except.error (Except.error.inj hmap)
    | ok u =>
      rw [ht] at hmap
      cases hmap

theorem boundText_inRange {b : Option AwareTime} {text : Option String} (h : boundText b = .ok text) :
    ∀ t ∈ b, ∃ u, toUtc t = .ok u := by
  rintro t rfl
  obtain ⟨u, hu, _⟩ := map_eq_ok (h : (toUtc t).map (fun u => some (dtToStr u)) = .ok text)
  exact ⟨u, hu⟩

theorem integers_fit {w : Write} (h : w.Bindable) : ∀ n ∈ Write.integers w, -2 ^ 63 ≤ n ∧ n ≤ 2 ^ 63 - 1 := by
  have hfits : ∀ {m : Int}, Sql.fitsInt64 (.integer m) = true → ∀ n ∈ [m], -2 ^ 63 ≤ n ∧ n ≤ 2 ^ 63 - 1 := by
    intro m hm n hn
    rw [List.mem_singleton.1 hn]
    simp only [Sql.fitsInt64, Bool.and_eq_true, decide_eq_true_eq] at hm
    omega
  cases w with
  | appendEvidence e => exact hfits h
  | registerArtifact a k p => exact hfits h
  | _ =>
    intro n hn
    cases hn

section calls
variable {s : Service}

theorem write_fits (hdb : WellFormed s.store.env s.stores.db) {req : Request} : (ApiCall.write req).Fits s := by
  refine ⟨fun n hn => ?_, fun he => ?_, fun l limit offset h => by cases h⟩
  · cases hn with
    | write h hn => exact integers_fit (bindable_of_toWrite h) n hn
  · rcases bind_error he with he | ⟨w, hw, he⟩
    · rcases toWrite_error he with h | ⟨p, _, _, h, _⟩
      · exact h.isCer_or rfl
      · exact toUtc_ne_integerTooLarge _ h
    · rcases hdb.run_error he with hcer | ⟨hbind, _⟩ | ⟨_, _, t, _, ht⟩
      · exact ne_integerTooLarge hcer rfl
      · exact hbind (bindable_of_toWrite hw)
      · exact toUtc_ne_integerTooLarge _ ht

theorem register_fits (hdb : WellFormed s.store.env s.stores.db) {post : ArtifactPost}
    (h : post.data.length < 2 ^ 63) :
    (ApiCall.register post).Fits s := by
  have hsized := fun calls =>
    @iterate_sized _ s.draw _ hdb calls _ (arrive_sized post s.maxArtifactBytes s.stores h)
  refine ⟨fun n hn => ?_, fun he => ?_, fun l limit offset h => by cases h⟩
  · cases hn with
    | register calls hcalls =>
      have hn := hsized calls
      rw [hcalls] at hn
      obtain ⟨_, h0, h1⟩ := hn
      omega
  · have hend : Sized s.stores.db (createArtifact s.store s.maxArtifactBytes s.draw post s.stores) := hsized 3
    unfold ApiCall.Raises at he
    dsimp only at he
    generalize createArtifact s.store s.maxArtifactBytes s.draw post s.stores = x at he hend
    obtain ⟨stage, σ⟩ := x
    cases stage with
    | answered result => exact hend (Option.some.inj he)
    | _ => cases he

/-- A page that is returned is no error. -/
theorem map_page_ne {Rec : Type} {x : Except Exc (List Rec)} {y : List Rec} {e : Exc} (h : x = .ok y) :
    x.map (fun _ => ()) ≠ .error e := by
  rw [h]
  intro he
  cases he

theorem list_fits (hdb : WellFormed s.store.env s.stores.db) {l : ListRequest}
    {limit offset : Int} (hl : 1 ≤ limit)
    (hl' : limit ≤ 1000) (ho : 0 ≤ offset) (ho' : offset < 2 ^ 63) : (ApiCall.list l limit offset).Fits s := by
  have hlimit : limit < 2 ^ 63 := by omega
  have hpage : l.ReturnsPage s limit offset := by
    cases l with
    | evidence q =>
      intro hq
      obtain ⟨listing, hhistory, hpages⟩ := hdb.queryEvidence_pages hq
      exact ⟨listing, hhistory, hpages.page limit offset hl hlimit ho ho'⟩
    | artifacts evidenceId runId =>
      obtain ⟨listing, hhistory, hpages⟩ := hdb.queryArtifacts_pages evidenceId runId
      exact ⟨listing, hhistory, hpages.page limit offset hl hlimit ho ho'⟩
    | promotions strategyId strategyVersion =>
      obtain ⟨listing, hhistory, hpages⟩ := hdb.queryPromotions_pages strategyId strategyVersion
      exact ⟨listing, hhistory, hpages.page limit offset hl hlimit ho ho'⟩
    | health strategyId strategyVersion =>
      obtain ⟨listing, hhistory, hpages⟩ := hdb.queryHealth_pages strategyId strategyVersion
      exact ⟨listing, hhistory, hpages.page limit offset hl hlimit ho ho'⟩
  refine ⟨fun n hn => ?_, fun he => ?_, fun l' limit' offset' h => by cases h; exact hpage⟩
  · cases hn with
    | limit => omega
    | offset => omega
  · cases l with
    | evidence q =>
      have he' : (queryEvidence s.store.env s.stores.db q limit offset).map (fun _ => ()) =
        .error integerTooLarge := he
      cases hx : queryEvidence s.store.env s.stores.db q limit offset with
      | ok records => exact map_page_ne hx he'
      | error e =>
        rw [hx] at he'
        cases he'
        -- no bound is the integer: a bound that cannot be written raises something else
        rcases bind_error hx with h | ⟨_, hsince, hx'⟩
        · obtain ⟨t, ht⟩ := boundText_error h
          exact toUtc_ne_integerTooLarge t ht
        rcases bind_error hx' with h | ⟨_, htill, _⟩
        · obtain ⟨t, ht⟩ := boundText_error h
          exact toUtc_ne_integerTooLarge t ht
        obtain ⟨_, _, hok⟩ := hpage ⟨boundText_inRange hsince, boundText_inRange htill⟩
        rw [hx] at hok
        cases hok
    | artifacts evidenceId runId =>
      obtain ⟨_, _, hok⟩ := hpage
      exact map_page_ne hok he
    | promotions strategyId strategyVersion =>
      obtain ⟨_, _, hok⟩ := hpage
      exact map_page_ne hok he
    | health strategyId strategyVersion =>
      obtain ⟨_, _, hok⟩ := hpage
      exact map_page_ne hok he

/-- **The integers the endpoints admit fit the database** just where the offset of a list does. -/
theorem admitted_integers_fit_iff (s : Service) (reached : Reachable s.store.env s.stores.db) (c : ApiCall)
    (admitted : c.Admitted) : c.Fits s ↔ c.OffsetFits := by
  constructor
  · intro h
    cases c with
    | list l limit offset =>
      have hoffset := (h.integers offset (.offset l limit offset)).2
      show offset < 2 ^ 63
      omega
    | write req => trivial
    | register post => trivial
  · intro h
    cases c with
    | list l limit offset => exact list_fits reached.wellFormed admitted.1 admitted.2.1 admitted.2.2 h
    | write req => exact write_fits reached.wellFormed
    | register post => exact register_fits reached.wellFormed admitted

end calls

/-! ## The first offset that does not fit -/

def sampleService : Service := ⟨sampleStore, sampleUuid5, sampleDraw, 1048576, ⟨.empty, false, .empty⟩⟩

/-- A request to each list endpoint. -/
def sampleLists : List ListRequest :=
  [.evidence ⟨none, none, none, none, none, none, none⟩, .artifacts none none,
    .promotions none none, .health none none]

/-- Every list endpoint admits the offset 2^63 and answers it with 500. -/
theorem large_offset_overflows :
    (sampleLists.map fun l => l.run sampleService 100 (2 ^ 63)) = List.replicate 4 (.error integerTooLarge) ∧
      answerStatus integerTooLarge = 500 ∧ (ApiCall.list (.artifacts none none) 100 (2 ^ 63)).Admitted ∧
      ¬ (ApiCall.list (.artifacts none none) 100 (2 ^ 63)).Fits sampleService := by
  refine ⟨rfl, rfl, ⟨by decide, by decide, by decide⟩, fun h => h.noOverflow ?_⟩
  show (ListRequest.artifacts none none).run sampleService 100 (2 ^ 63) = .error integerTooLarge
  rfl

/-- A page far past the end is an empty one. -/
theorem sample_page_fits : (ApiCall.list (.artifacts none none) 100 (2 ^ 63 - 1)).Fits sampleService :=
  (admitted_integers_fit_iff sampleService (.refl _) (.list (.artifacts none none) 100 (2 ^ 63 - 1))
    ⟨by decide, by decide, by decide⟩).2 (by show (2 ^ 63 - 1 : Int) < 2 ^ 63; decide)

end Cer.Api
