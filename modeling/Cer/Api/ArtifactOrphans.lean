import Cer.Api.ArtifactConsistency
import Cer.Metadata.Insertion

/-!
# Artifacts that no row knows

A registration writes the sidecar before the row, and `register_artifact` may still refuse
the record.  `served_is_registered`: where no record is refused after its bytes were put,
what the store serves between requests is what the metadata store knows; and
`refused_artifact_is_served` is a request for an unknown run.
-/

namespace Cer.Api

open Py

section owned
variable {C : Type} {store : FsStore} {σ τ : PostState C}

/-- The run and the evidence record exist, and no row is bound to the key. -/
structure Registrable (db : Database) (u : Upload) (record : ArtifactRecord) : Prop where
  run : ∀ i ∈ record.runId, db.hasRun i
  evidence : ∀ i ∈ record.evidenceId, db.hasEvidence i
  key : ∀ p k, u.scope = some (p, k) → ∀ row ∈ db.artifacts, row.key ≠ some (p, k)

/-- No store fails, and neither the process nor a request stops. -/
def Unfailing : PostEvent C → Prop
  | .stop => False
  | .crash _ => False
  | .lose => False
  | .restore => False
  | _ => True

/-- A record that has no row is registrable when it is registered. -/
def Accepting (σ : PostState C) (e : PostEvent C) : Prop :=
  Unfailing e ∧ ∀ c draw, e = .call c draw → ∀ post u record, σ.posts c = some (post, .registering u record) →
    (∀ row ∈ σ.db.artifacts, row.artifactId ≠ record.artifactId) → Registrable σ.db u record

theorem Accepting.of_unfailing {e : PostEvent C} (h : Unfailing e) (hne : ∀ c draw, e ≠ .call c draw) :
    Accepting σ e :=
  ⟨h, fun c draw he => absurd he (hne c draw)⟩

theorem Unfailing.undisturbed {e : PostEvent C} (h : Unfailing e) : Undisturbed σ e := by
  cases e with
  | lose => exact h.elim
  | restore => exact h.elim
  | _ => trivial

/-- No request is in flight. -/
def PostState.Quiet (σ : PostState C) : Prop := ∀ c post stage, σ.posts c = some (post, stage) →
    stage.result ≠ none

/-- A request that was answered with this identity. -/
def PostState.Answered (σ : PostState C) (id : String) : Prop :=
  ∃ c post a, σ.posts c = some (post, .answered (.ok a)) ∧ a.artifactId = id

/-- Every sidecar has a row or a request about to insert it, and every row a request that was told of it. -/
structure Owned (σ : PostState C) : Prop where
  sidecars : ∀ id y, σ.volume.sidecar id = some y → (∃ row ∈ σ.db.artifacts, row.artifactId = id) ∨
    ∃ c post u record, σ.posts c = some (post, .registering u record) ∧ record.artifactId = id
  rows : ∀ row ∈ σ.db.artifacts, σ.Answered row.artifactId

theorem Owned.start : Owned (.start C) where
  sidecars id y h := by cases h
  rows row h := by cases h

/-- What one event may do to what is owned. -/
theorem Owned.next (h : Owned σ) (hlater : σ.Later τ)
    (hside : ∀ id y, τ.volume.sidecar id = some y → σ.volume.sidecar id = some y ∨
      ∃ c post u record, τ.posts c = some (post, .registering u record) ∧ record.artifactId = id)
    (hrows : ∀ row ∈ τ.db.artifacts, (∃ old ∈ σ.db.artifacts, old.artifactId = row.artifactId) ∨
      τ.Answered row.artifactId)
    (hanswered : ∀ c post a, σ.posts c = some (post, .answered (.ok a)) →
      τ.posts c = some (post, .answered (.ok a)))
    (hregistering : ∀ c post u record, σ.posts c = some (post, .registering u record) →
      τ.posts c = some (post, .registering u record) ∨
      ∃ row ∈ τ.db.artifacts, row.artifactId = record.artifactId) :
    Owned τ := by
  constructor
  · intro id y hy
    rcases hside id y hy with hy | hnew
    · rcases h.sidecars id y hy with ⟨row, hrow, hid⟩ | ⟨c, post, u, record, hc, hid⟩
      · obtain ⟨row', hrow', hid', _⟩ := hlater.row hrow
        exact Or.inl ⟨row', hrow', hid'.trans hid⟩
      · rcases hregistering c post u record hc with hc | ⟨row, hrow, hid'⟩
        · exact Or.inr ⟨c, post, u, record, hc, hid⟩
        · exact Or.inl ⟨row, hrow, hid'.trans hid⟩
    · exact Or.inr hnew
  · intro row hrow
    rcases hrows row hrow with ⟨old, hold, hid⟩ | hnew
    · obtain ⟨c, post, a, hc, ha⟩ := h.rows old hold
      exact ⟨c, post, a, hanswered c post a hc, ha.trans hid⟩
    · exact hnew

/-- Events that move no request on. -/
theorem Owned.keep (h : Owned σ) (hlater : σ.Later τ)
    (hside : ∀ id y, τ.volume.sidecar id = some y → σ.volume.sidecar id = some y)
    (hrows : ∀ row ∈ τ.db.artifacts, ∃ old ∈ σ.db.artifacts, old.artifactId = row.artifactId)
    (hposts : ∀ c x, σ.posts c = some x → τ.posts c = some x) : Owned τ :=
  h.next hlater (fun id y hy => Or.inl (hside id y hy)) (fun row hrow => Or.inl (hrows row hrow))
    (fun c _ _ hc => hposts c _ hc) fun c _ _ _ hc => Or.inl (hposts c _ hc)

section call
variable {c : C} {draw : Draw} {post : ArtifactPost} {stage : PostStage} {i : Bool}

/-- What is registrable is registered. -/
theorem PostInv.registers (hinv : PostInv store σ) {u : Upload} {record : ArtifactRecord}
    (pending : σ.posts c = some (post, .registering u record)) (good : Registrable σ.db u record)
    (hid : ∀ row ∈ σ.db.artifacts, row.artifactId ≠ record.artifactId) :
    registerArtifact store.env σ.db record (u.scope.map Prod.snd) (u.scope.map Prod.fst) = .ok (record, { σ.db with
      artifacts :=
        σ.db.artifacts ++ [record.toRow store.env (u.scope.map Prod.snd) (u.scope.map Prod.fst)] }) := by
  obtain ⟨_, hlen, hprep, hfrom⟩ := hinv.posts c post _ pending
  have hprepared := prepare_ok hprep
  apply registerArtifact_new good.run good.evidence
  · cases hs : u.scope with
    | none => rfl
    | some pk =>
      obtain ⟨p, k⟩ := pk
      exact requireScope_of (hprepared.keyed p k hs).2.2.1
  · rcases hfrom with ⟨r, hk, rfl⟩ | ⟨row, hrow, hrowid⟩
    · have hsize : (u.attached r).sizeBytes = post.data.length := by
        rw [← hprepared.data, ← hk.stored.size]
        unfold Upload.attached
        split
        · rfl
        · rfl
      rw [hsize]
      simp only [Sql.fitsInt64, Bool.and_eq_true, decide_eq_true_eq]
      omega
    · exact absurd hrowid (hid row hrow)
  · intro p k hp hk
    cases hs : u.scope with
    | none =>
      rw [hs] at hp
      cases hp
    | some pk =>
      rw [hs] at hp hk
      cases hp
      cases hk
      exact good.key pk.1 pk.2 hs
  · exact hid

variable [DecidableEq C]

/-- The other requests stay where they are. -/
theorem posts_update {posts : C → Option (ArtifactPost × PostStage)}
    {x y z : Option (ArtifactPost × PostStage)} {d : C}
    (hx : posts c = x) (hd : posts d = y) (hne : x ≠ y) : Function.update posts c z d = y := by
  have hdc : d ≠ c := by
    rintro rfl
    exact hne (hx.symm.trans hd)
  rw [Function.update_of_ne hdc]
  exact hd

/-- One request's call. -/
theorem Owned.called (h : Owned σ) (hinv : PostInv store σ) (pending : σ.posts c = some (post, stage))
    (unanswered : stage.result = none)
    (hside : ∀ id y, (σ.called store c post stage i draw).volume.sidecar id = some y →
      σ.volume.sidecar id = some y ∨
      ∃ u record, (stage.next store draw (σ.stores i)).1 = .registering u record ∧ record.artifactId = id)
    (hrows : ∀ row ∈ (σ.called store c post stage i draw).db.artifacts,
      (∃ old ∈ σ.db.artifacts, old.artifactId = row.artifactId) ∨
        ∃ a, (stage.next store draw (σ.stores i)).1 = .answered (.ok a) ∧ a.artifactId = row.artifactId)
    (hreg : ∀ u record, stage = .registering u record →
      ∃ row ∈ (σ.called store c post stage i draw).db.artifacts, row.artifactId = record.artifactId) :
    Owned (σ.called store c post stage i draw) := by
  have hlater := hinv.called_later c post stage i draw
  have hself : (σ.called store c post stage i draw).posts c =
    some (post, (stage.next store draw (σ.stores i)).1) :=
    Function.update_self ..
  have hother : ∀ {d}, d ≠ c → (σ.called store c post stage i draw).posts d = σ.posts d := fun hd =>
    Function.update_of_ne hd _ _
  apply h.next hlater
  · intro id y hy
    rcases hside id y hy with hy | ⟨u, record, hnext, hid⟩
    · exact Or.inl hy
    · exact Or.inr ⟨c, post, u, record, by rw [hself, hnext], hid⟩
  · intro row hrow
    rcases hrows row hrow with hold | ⟨a, hnext, hid⟩
    · exact Or.inl hold
    · exact Or.inr ⟨c, post, a, by rw [hself, hnext], hid⟩
  · intro d q a hd
    by_cases hdc : d = c
    · rw [hdc, pending] at hd
      cases hd
      cases unanswered
    · rw [hother hdc]
      exact hd
  · intro d q u record hd
    by_cases hdc : d = c
    · rw [hdc, pending] at hd
      cases hd
      exact Or.inr (hreg u record rfl)
    · rw [hother hdc]
      exact Or.inl hd

theorem Owned.look (h : Owned σ) (hinv : PostInv store σ) {u : Upload} {p k : String}
    (pending : σ.posts c = some (post, .looking u p k)) :
    Owned (σ.called store c post (.looking u p k) i draw) := by
  have hsame : (σ.called store c post (.looking u p k) i draw).volume = σ.volume ∧
      (σ.called store c post (.looking u p k) i draw).db = σ.db := by
    obtain ⟨next, he, _⟩ := next_looking store draw (σ.stores i) u p k
    rw [called_same he rfl]
    exact ⟨rfl, rfl⟩
  apply h.called hinv pending rfl
  · intro id y hy
    rw [hsame.1] at hy
    exact Or.inl hy
  · intro row hrow
    rw [hsame.2] at hrow
    exact Or.inl ⟨row, hrow, rfl⟩
  · intro v record hn
    cases hn

theorem Owned.storing (h : Owned σ) (hinv : PostInv store σ) {u : Upload}
    (pending : σ.posts c = some (post, .storing u))
    (fresh : newArtifactId draw.uuid4 ∉ σ.used) : Owned (σ.called store c post (.storing u) i draw) := by
  rcases hput : store.put σ.volume i u.args draw.uuid4 draw.now with ⟨res, w, j⟩
  have hkeeps := put_keeps hput (hinv.sidecar_fresh fresh)
  apply h.called hinv pending rfl
  · intro id y hy
    cases res with
    | error e =>
      rw [called_put_error hput] at hy
      exact Or.inl ((put_raises hput).2.1 id ▸ hy)
    | ok r =>
      rw [called_put hput] at hy
      rcases hkeeps.sidecar id y hy with hy | hid
      · exact Or.inl hy
      · obtain ⟨_, hr, _⟩ := FsStore.put_ok hput
        have hnext : (PostStage.storing u).next store draw (σ.stores i) =
          (.registering u (u.attached r), ⟨w, j, σ.db⟩) :=
          next_storing_ok hput
        refine Or.inr ⟨u, u.attached r, by rw [hnext], ?_⟩
        rw [u.attached_artifactId, hid, hr]
        rfl
  · intro row hrow
    have hdb : (σ.called store c post (.storing u) i draw).db = σ.db := by
      cases res with
      | error e => rw [called_put_error hput]
      | ok r => rw [called_put hput]
    rw [hdb] at hrow
    exact Or.inl ⟨row, hrow, rfl⟩
  · intro v record hn
    cases hn

theorem Owned.registering (h : Owned σ) (hinv : PostInv store σ) {u : Upload} {record : ArtifactRecord}
    (pending : σ.posts c = some (post, .registering u record))
    (good : (∀ row ∈ σ.db.artifacts, row.artifactId ≠ record.artifactId) → Registrable σ.db u record) :
    Owned (σ.called store c post (.registering u record) i draw) := by
  by_cases hid : ∃ row ∈ σ.db.artifacts, row.artifactId = record.artifactId
  · -- a record laid over another: nothing is written
    have hsame : ((PostStage.registering u record).next store draw (σ.stores i)).2 = σ.stores i :=
      register_again hid
    have hvolume : (σ.called store c post (.registering u record) i draw).volume = σ.volume :=
      congrArg Stores.volume hsame
    have hdb : (σ.called store c post (.registering u record) i draw).db = σ.db := congrArg Stores.db hsame
    apply h.called hinv pending rfl
    · intro id y hy
      rw [hvolume] at hy
      exact Or.inl hy
    · intro row hrow
      rw [hdb] at hrow
      exact Or.inl ⟨row, hrow, rfl⟩
    · intro v r hr
      cases hr
      rw [hdb]
      exact hid
  · have hfresh : ∀ row ∈ σ.db.artifacts, row.artifactId ≠ record.artifactId :=
      fun row hrow he => hid ⟨row, hrow, he⟩
    have hreg := hinv.registers pending (good hfresh) hfresh
    have hcalled := @called_inserted C _ store σ c draw post i u record record _ hreg
    have hnext := congrArg Prod.fst (@next_registering_ok store draw (σ.stores i) u record record _ hreg)
    apply h.called hinv pending rfl
    · intro id y hy
      rw [hcalled] at hy
      exact Or.inl hy
    · intro row hrow
      rw [hcalled] at hrow
      rcases List.mem_append.1 hrow with hrow | hrow
      · exact Or.inl ⟨row, hrow, rfl⟩
      · rw [List.mem_singleton.1 hrow]
        exact Or.inr ⟨record, hnext, rfl⟩
    · intro v r hr
      cases hr
      rw [hcalled]
      exact ⟨_, List.mem_append_right _ (List.mem_singleton_self _), rfl⟩

end call

theorem Owned.step [DecidableEq C] {e : PostEvent C} (h : Owned σ) (hinv : PostInv store σ)
    (good : Accepting σ e) (step : PostStep store σ e τ) : Owned τ := by
  have hlater := step.later hinv
  have hrefl : ∀ row ∈ σ.db.artifacts, ∃ old ∈ σ.db.artifacts, old.artifactId = row.artifactId := fun row hrow =>
    ⟨row, hrow, rfl⟩
  cases step with
  | stop => exact good.1.elim
  | crash => exact good.1.elim
  | lose => exact good.1.elim
  | restore => exact good.1.elim
  | health i running => exact h.keep hlater (fun _ _ => id) hrefl fun _ _ => id
  | write w i running valid other rep db run =>
    refine h.keep hlater (fun _ _ => id) (fun row hrow => ?_) fun _ _ => id
    obtain ⟨old, hold, _, _, rfl⟩ := (artifacts_of_effect (effect_of_run run) other).1 row hrow
    exact ⟨old, hold, rfl⟩
  | start failure now stopped =>
    refine h.keep hlater (fun id y hy => ?_) hrefl fun _ _ => id
    by_cases hp : σ.volume.backingPresent = true
    · rw [start_present hp] at hy
      exact hy
    · rw [start_absent (Bool.eq_false_iff.2 hp)] at hy
      revert hy
      cases metadataHoldsArtifactRecords (failure.elim (queryArtifacts σ.db none none 1 0) .error) with
      | none => exact fun hy => hy
      | some held => cases held with
        | true => exact fun hy => hy
        | false => exact fun hy => ((initialise_files σ.volume now).2.2 id).symm.trans hy
  | arrive c post i running idle bytes =>
    refine h.keep hlater (fun _ _ => id) hrefl fun d x hd => ?_
    exact posts_update idle hd (by simp)
  | call c draw post stage i running pending unanswered fresh =>
    cases stage with
    | looking u p k => exact h.look hinv pending
    | storing u => exact h.storing hinv pending fresh
    | registering u record => exact h.registering hinv pending (good.2 c draw rfl post u record pending)
    | answered result => cases unanswered

theorem PostRun.owned [DecidableEq C] (run : PostRun store Accepting (.start C) σ) :
    PostInv store σ ∧ σ.lost = .empty ∧ Owned σ := by
  induction run with
  | refl => exact ⟨.start, rfl, .start⟩
  | step _ good step ih =>
    obtain ⟨hinv, hlost, hown⟩ := ih
    exact ⟨hinv.step (hinv.sane hlost _) step, (PostStep.lost_empty good.1.undisturbed step).trans hlost,
      hown.step hinv good step⟩

/-- **Nothing refused is left to be served.**  In a run where nothing fails and every record that is
registered for the first time is registrable, whenever no request is in flight the store serves just
the artifacts that have a row, and every sidecar is that of a request that was answered with it. -/
theorem served_is_registered [DecidableEq C] (run : PostRun store Accepting (.start C) σ)
    (quiet : σ.Quiet) (id : String) (initialised : Bool) :
    ((∃ r, store.stat σ.volume initialised id = .ok r) ↔ ∃ row ∈ σ.db.artifacts, row.artifactId = id) ∧
      ((∃ data, store.get σ.volume initialised id = .ok data) ↔ ∃ row ∈ σ.db.artifacts, row.artifactId = id) ∧
      ∀ y, σ.volume.sidecar id = some y → σ.Answered id := by
  obtain ⟨hinv, hlost, hown⟩ := run.owned
  have hserved : ∀ y, σ.volume.sidecar id = some y → ∃ row ∈ σ.db.artifacts, row.artifactId = id := by
    intro y hy
    rcases hown.sidecars id y hy with hrow | ⟨c, post, u, record, hc, _⟩
    · exact hrow
    · exact absurd rfl (quiet c post _ hc)
  have hheld : ∀ row ∈ σ.db.artifacts, ∃ post r, Held store σ.volume row post r := fun row hrow => by
    obtain ⟨post, r, _, _, hr⟩ := hinv.held hlost hrow
    exact ⟨post, r, hr⟩
  refine ⟨⟨?_, ?_⟩, ⟨?_, ?_⟩, ?_⟩
  · rintro ⟨r, hr⟩
    obtain ⟨y, hy, _⟩ := FsStore.stat_ok hr
    exact hserved y hy
  · rintro ⟨row, hrow, rfl⟩
    obtain ⟨post, r, hr⟩ := hheld row hrow
    exact ⟨r, hr.stat initialised⟩
  · rintro ⟨data, hdata⟩
    obtain ⟨y, _, hy, _⟩ := FsStore.get_ok hdata
    exact hserved y hy
  · rintro ⟨row, hrow, rfl⟩
    obtain ⟨post, r, hr⟩ := hheld row hrow
    exact ⟨post.data, hr.get initialised⟩
  · intro y hy
    obtain ⟨row, hrow, rfl⟩ := hserved y hy
    exact hown.rows row hrow

end owned

/-! ## A request for an unknown run -/

theorem plain_accepting {σ : PostState Bool} {c : Bool} {draw : Draw}
    (h : ∀ post u record, σ.posts c = some (post, .registering u record) → u = plainUpload ∧
      record = plainRecord) :
    Accepting σ (.call c draw) := by
  refine ⟨trivial, fun d draw' hd post u record hpost _ => ?_⟩
  cases hd
  obtain ⟨rfl, rfl⟩ := h post u record hpost
  constructor
  · intro i hi
    cases hi
  · intro i hi
    cases hi
  · intro p k hs
    cases hs

/-- A request whose checksum is not that of its bytes. -/
def corruptPost : ArtifactPost := { plainPost with declaredSha256 := some "00" }

def corruptUpload : Upload := corruptPost.upload "orders.csv" none

theorem corruptPut_raises (v : Volume) (draw : Draw) :
    ∃ e, sampleStore.put v true corruptUpload.args draw.uuid4 draw.now = (.error e, v, true) := by
  have hcheck : sampleStore.checkPut corruptUpload.args ≠ .ok () := by decide +kernel
  cases h : sampleStore.checkPut corruptUpload.args with
  | ok u => exact absurd h hcheck
  | error e =>
    refine ⟨e, ?_⟩
    unfold FsStore.put
    rw [h]

/-- After the registered request another is refused by `put`: the artifact is served, what the other
would have been called is not. -/
theorem sample_registration_is_served : ∃ (σ : PostState Bool) (e : Exc), σ.db = plainDb ∧
    σ.posts true = some (corruptPost, .answered (.error e)) ∧
    (∃ r, sampleStore.stat σ.volume true plainRow.artifactId = .ok r) ∧
    ¬ ∃ r, sampleStore.stat σ.volume true (newArtifactId laterDraw.uuid4) = .ok r := by
  obtain ⟨σ, r1, h⟩ : ∃ σ, PostRun sampleStore Accepting (.start Bool) σ ∧ PlainRegistered σ :=
    sample_registration (fun _ => .of_unfailing trivial fun _ _ he => by cases he)
      (fun _ _ => .of_unfailing trivial fun _ _ he => by cases he) fun _ _ _ h => plain_accepting h
  obtain ⟨τ, hτ⟩ : ∃ τ, τ = { σ with
    posts := Function.update σ.posts true (some (corruptPost, .storing corruptUpload))
    arrived := corruptPost :: σ.arrived } := ⟨_, rfl⟩
  have r2 : PostRun sampleStore Accepting (.start Bool) τ := by
    rw [hτ]
    exact .step r1
      (.of_unfailing (show Unfailing (.arrive true corruptPost) from trivial) fun _ _ he => by cases he)
      (.arrive σ true corruptPost true h.process h.idle (by decide))
  have hpending : τ.posts true = some (corruptPost, .storing corruptUpload) := by
    rw [hτ]
    exact Function.update_self true (some (corruptPost, PostStage.storing corruptUpload)) σ.posts
  have hanswered : τ.posts false = some (plainPost, .answered (.ok plainRecord)) := by
    rw [hτ]
    exact (Function.update_of_ne Bool.false_ne_true
      (some (corruptPost, PostStage.storing corruptUpload)) σ.posts).trans
      h.answered
  have hprocess : τ.process = some true := by
    rw [hτ]
    exact h.process
  have hdb : τ.db = plainDb := by
    rw [hτ]
    exact h.db
  have hfresh : newArtifactId laterDraw.uuid4 ∉ τ.used := by
    rw [hτ]
    show _ ∉ σ.used
    rw [h.used]
    exact laterDraw_fresh
  obtain ⟨e, hput⟩ := corruptPut_raises τ.volume laterDraw
  have good : Accepting τ (.call true laterDraw) := by
    refine ⟨trivial, fun c draw hc post u record hpost _ => ?_⟩
    cases hc
    cases hpost.symm.trans hpending
  have r3 := PostRun.step r2 good (.call τ true laterDraw _ _ true hprocess hpending rfl hfresh)
  rw [called_put_error hput] at r3
  have hposts : ∀ x, Function.update τ.posts true x true = x ∧
    Function.update τ.posts true x false = τ.posts false :=
    fun x => ⟨Function.update_self .., Function.update_of_ne Bool.false_ne_true _ _⟩
  refine ⟨{ τ with
    process := some true, used := newArtifactId laterDraw.uuid4 :: τ.used
    posts := Function.update τ.posts true (some (corruptPost, .answered (.error e))) }, e, hdb, (hposts _).1, ?_⟩
  have hserved := fun quiet id => (served_is_registered r3 quiet id true).1
  have hquiet : ∀ c post stage, Function.update τ.posts true (some (corruptPost, .answered (.error e))) c =
      some (post, stage) → stage.result ≠ none := by
    intro c post stage hc
    cases c with
    | true =>
      rw [(hposts _).1] at hc
      cases hc
      exact nofun
    | false =>
      rw [(hposts _).2, hanswered] at hc
      cases hc
      exact nofun
  constructor
  · refine (hserved hquiet plainRow.artifactId).2 ⟨plainRow, ?_, rfl⟩
    show plainRow ∈ τ.db.artifacts
    rw [hdb]
    exact List.mem_singleton_self _
  · intro hstat
    obtain ⟨row, hrow, hid⟩ := (hserved hquiet (newArtifactId laterDraw.uuid4)).1 hstat
    have hrow : row ∈ τ.db.artifacts := hrow
    rw [hdb] at hrow
    rw [List.mem_singleton.1 hrow] at hid
    exact absurd hid (by decide)

/-- A request that names a run nobody created. -/
def strayPost : ArtifactPost := { plainPost with runId := some "run_01" }

def strayUpload : Upload := strayPost.upload "orders.csv" none

/-- It is refused, and what it put is served. -/
theorem refused_artifact_is_served : ∃ (σ : PostState Bool) (m : String),
    PostRun sampleStore (fun _ => Unfailing) (.start Bool) σ ∧ σ.Quiet ∧
    σ.posts false = some (strayPost, .answered (.error (notFound m))) ∧ σ.db.artifacts = [] ∧
    sampleStore.stat σ.volume true plainRecord.artifactId = .ok plainRecord := by
  have r1 : PostRun sampleStore (fun _ => Unfailing) (.start Bool) _ :=
    .step (.refl _) (by exact trivial) (PostStep.deploy sampleStore sampleTime)
  have r2 : PostRun sampleStore (fun _ => Unfailing) (.start Bool) _ :=
    .step r1 (by exact trivial) (.arrive _ false strayPost true rfl rfl (by decide))
  obtain ⟨hpresent, _⟩ := initialise_files .empty sampleTime
  obtain ⟨w, hput⟩ := @put_new sampleStore
    (initialise .empty sampleTime) strayUpload.args true plain_checked (Or.inl hpresent)
    (fun y hy => by cases hy) sampleDraw.uuid4 sampleDraw.now
  have r3 : PostRun sampleStore (fun _ => Unfailing) (.start Bool) _ := .step r2 (by exact trivial)
    (.call _ false sampleDraw strayPost (.storing strayUpload) true rfl rfl rfl List.not_mem_nil)
  rw [called_put hput] at r3
  have r4 : PostRun sampleStore (fun _ => Unfailing) (.start Bool) _ := .step r3 (by exact trivial)
    (.call _ false laterDraw strayPost
      (.registering strayUpload (strayUpload.attached plainRecord)) true rfl rfl rfl
      laterDraw_fresh)
  obtain ⟨m, hreg⟩ : ∃ m, registerArtifact sampleStore.env .empty (strayUpload.attached plainRecord) none none =
      .error (notFound m) := ⟨_, rfl⟩
  rw [called_same (next_registering_error hreg) rfl] at r4
  have hleaves : PutLeaves sampleStore (initialise .empty sampleTime) w
    [newArtifactId sampleDraw.uuid4] strayUpload.args
      plainRecord := put_leaves hput rfl List.mem_cons_self
  refine ⟨_, m, r4, fun c post stage hc => ?_, rfl, rfl, hleaves.stored.stat true⟩
  cases c with
  | true =>
    have hc : (none : Option (ArtifactPost × PostStage)) = some (post, stage) := hc
    cases hc
  | false =>
    have hc : some (strayPost, PostStage.answered (.error (notFound m))) = some (post, stage) := hc
    cases hc
    exact nofun

end Cer.Api
