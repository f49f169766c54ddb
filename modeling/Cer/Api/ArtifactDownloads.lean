import Cer.Api.ArtifactLookup
import Cer.Api.ArtifactRaces

/-!
# What is registered is what is downloaded

A registration that succeeds answers with a record, its own or that of an earlier request
with its key.  `registered_is_served`: from then on, whatever happens to the stores, the
record's identity is that of a row that says the same, and `/download` serves the very
bytes of the request, under its content type and filename, or fails as a store whose
volume is missing.
-/

namespace Cer

open Py

/-- The row's part of what a fingerprint under a key covers. -/
def ArtifactRow.content (row : ArtifactRow) : String × Int × String × String :=
  (row.sha256, row.sizeBytes, row.contentType, row.filename)

namespace Api

section owed
variable {C : Type} (store : FsStore)

/-- A row of the answer's identity has the content of the request. -/
def Given (db : Database) (post : ArtifactPost) (a : ArtifactRecord) : Prop :=
  a.content = post.content store.env ∧
    ∃ row ∈ db.artifacts, row.artifactId = a.artifactId ∧ row.content = post.content store.env

/-- A record on its way has the content of its request, and so has every row of its identity unless
its key is taken. -/
def Owed (σ : PostState C) (post : ArtifactPost) : PostStage → Prop
  | .registering u record => record.content = post.content store.env ∧
      ((∃ p k, u.scope = some (p, k) ∧ KeyTaken p k σ.db) ∨
        ∀ row ∈ σ.db.artifacts, row.artifactId = record.artifactId → row.content = record.content)
  | .answered (.ok a) => Given store σ.db post a
  | _ => True

def Answers (σ : PostState C) : Prop := ∀ c post stage, σ.posts c = some (post, stage) → Owed store σ post stage

variable {store} {σ τ : PostState C} {post : ArtifactPost} {u : Upload}

/-! ## Rows and records -/

/-- The record of an identity that was put is in its sidecar. -/
theorem Kept.unique {v : Volume} {used : List String} {post' : ArtifactPost} {u' : Upload} {r r' : ArtifactRecord}
    (h : Kept store v used post u r) (h' : Kept store v used post' u' r')
    (hid : r.artifactId = r'.artifactId) : r = r' := by
  have hsidecar := h.stored.sidecar
  rw [hid, h'.stored.sidecar] at hsidecar
  have hdecode := congrArg store.decode (Option.some.inj hsidecar)
  rw [store.decode_encode r' h'.stored.valid, store.decode_encode r h.stored.valid] at hdecode
  exact (Option.some.inj hdecode).symm

/-- A row keeps its identity and its content. -/
theorem Given.later {a : ArtifactRecord} (h : Given store σ.db post a) (hlater : σ.Later τ) :
    Given store τ.db post a := by
  obtain ⟨hcontent, row, hrow, hid, hrowContent⟩ := h
  obtain ⟨row', hrow', hsame, _⟩ := hlater.db.artifacts.mem hrow
  refine ⟨hcontent, row', hrow', ?_, ?_⟩
  · rw [hsame]
    exact hid
  · rw [hsame]
    exact hrowContent

theorem PostInv.row_content (hinv : PostInv store σ) {row : ArtifactRow} (hrow : row ∈ σ.db.artifacts) :
    ∃ first ∈ σ.arrived, (row.artifactId, first) ∈ σ.created ∧ row.content = first.content store.env := by
  obtain ⟨first, v, r, e, l, hcreated, hkept, rfl⟩ := hinv.rows row hrow
  exact ⟨first, (hinv.created _ hcreated).1, hcreated, hkept.content⟩

/-- A row whose fingerprint under the key is the record's has the record's content. -/
theorem PostInv.content_of_fingerprint (hinv : PostInv store σ) (hcol : CollisionFree store σ.arrived)
    (arrived : post ∈ σ.arrived) {record : ArtifactRecord} (hcontent : record.content = post.content store.env)
    {row : ArtifactRow} (hrow : row ∈ σ.db.artifacts)
    (hfp : row.idempotencyFingerprint = some (record.idemFp store.env)) :
    row.content = record.content := by
  have hdb := hinv.reached.wellFormed
  obtain ⟨first, hfirst, _, hrowContent⟩ := hinv.row_content hrow
  obtain ⟨a, k', p', _, horigin, hread⟩ := (hdb.artifacts.origin row hrow).read
  have ha : a.content = first.content store.env := (read_row hdb hrow hread).1.trans hrowContent
  have hdigest : a.idemFp store.env = record.idemFp store.env := by
    rw [horigin] at hfp
    cases k' with
    | none => cases hfp
    | some k => exact Option.some.inj hfp
  have hsame :=
    (ArtifactRecord.idemFp_eq_iff (hcol.texts first hfirst post arrived a record ha hcontent)).1 hdigest
  exact (hrowContent.trans ha.symm).trans hsame

/-- **What a registration answers** is of the request's content, and so is a row of its identity. -/
theorem Owed.registered (hinv : PostInv store σ) (hcol : CollisionFree store σ.arrived)
    (arrived : post ∈ σ.arrived)
    {record a : ArtifactRecord} {db : Database} (h : Owed store σ post (.registering u record))
    (hreg : registerArtifact store.env σ.db record (u.scope.map Prod.snd) (u.scope.map Prod.fst) = .ok (a, db)) :
    Given store db post a := by
  obtain ⟨hcontent, hrows⟩ := h
  have hdb := hinv.reached.wellFormed
  have hread : ∀ {row}, row ∈ σ.db.artifacts → rowToArtifact row = .ok a → row.content = record.content →
      Given store σ.db post a := by
    intro row hrow hread hrowContent
    refine ⟨?_, row, hrow, artifactId_of_read hread, hrowContent.trans hcontent⟩
    exact (read_row hdb hrow hread).1.trans (hrowContent.trans hcontent)
  obtain ⟨_, _, hrun⟩ := bind_ok hreg
  obtain ⟨_, _, hrun⟩ := bind_ok hrun
  obtain ⟨_, _, hrun⟩ := bind_ok hrun
  rcases Submission.run_ok hrun with ⟨row, hby, hfp, hreplay, rfl⟩ | ⟨row, hby, hid, hexisting, rfl⟩ |
    ⟨_, _, hins, rfl⟩
  · have hrow := (Submission.byKey_mem hby).1
    exact hread hrow hreplay (hinv.content_of_fingerprint hcol arrived hcontent hrow hfp)
  · have hrow : row ∈ σ.db.artifacts := List.mem_of_find?_eq_some hid
    have hsame : row.artifactId = record.artifactId := beq_iff_eq.1 (@List.find?_some _ _ row σ.db.artifacts hid)
    have hexisting : (if row.contentFingerprint ≠ record.fp store.env then _
      else rowToArtifact row) = .ok a := hexisting
    by_cases hfp : row.contentFingerprint ≠ record.fp store.env
    · rw [if_pos hfp] at hexisting
      cases hexisting
    · rw [if_neg hfp] at hexisting
      rcases hrows with ⟨p, k, hscope, row', hrow', hkey'⟩ | hrows
      · -- a taken key would have been found
        have hkey : (artifactSubmission store.env record (u.scope.map Prod.snd)
          (u.scope.map Prod.fst)).key = some (p, k) := by
          rw [hscope]
          rfl
        unfold Submission.byKey at hby
        rw [hkey] at hby
        exact absurd (beq_iff_eq.2 hkey') (List.find?_eq_none.1 hby row' hrow')
      · exact hread hrow hexisting (hrows row hrow hsame)
  · rw [Table.insert_ok hins]
    refine ⟨hcontent, _, List.mem_append_right _ (List.mem_singleton_self _), rfl, hcontent⟩

/-! ## Every event -/

/-- What one event may do: a request moves on, and the only new row is one that was registered. -/
theorem Answers.next (h : Answers store σ) (hinv : PostInv store σ) (hlater : σ.Later τ)
    (hrows : ∀ row ∈ τ.db.artifacts,
      (∃ old ∈ σ.db.artifacts, old.artifactId = row.artifactId ∧ old.content = row.content) ∨
      ∃ d post u record, σ.posts d = some (post, .registering u record) ∧ row.artifactId = record.artifactId ∧
        row.content = record.content ∧ ∀ old ∈ σ.db.artifacts, old.artifactId ≠ record.artifactId)
    (hposts : ∀ d post stage, τ.posts d = some (post, stage) → σ.posts d = some (post, stage) ∨
      Owed store τ post stage) :
    Answers store τ := by
  intro d post stage hd
  rcases hposts d post stage hd with hd' | howed
  case inr => exact howed
  have hold := h d post stage hd'
  cases stage with
  | looking u p k => trivial
  | storing u => trivial
  | answered result =>
    cases result with
    | error e => trivial
    | ok a => exact Given.later hold hlater
  | registering u record =>
    obtain ⟨hcontent, hfree⟩ := hold
    refine ⟨hcontent, ?_⟩
    rcases hfree with ⟨p, k, hscope, htaken⟩ | hfree
    · exact Or.inl ⟨p, k, hscope, htaken.later hlater⟩
    right
    intro row hrow hid
    rcases hrows row hrow with ⟨old, hold, hoid, hocontent⟩ | ⟨e, post', u', record', he, hrid, hrcontent, hfresh⟩
    · rw [← hocontent]
      exact hfree old hold (hoid.trans hid)
    · -- two records of one identity that no row had: both are the one that was put
      have hids : record'.artifactId = record.artifactId := hrid.symm.trans hid
      rcases (hinv.posts d post _ hd').2.2.2 with ⟨r, hkept, rfl⟩ | ⟨old, hold, hoid⟩
      · rcases (hinv.posts e post' _ he).2.2.2 with ⟨r', hkept', rfl⟩ | ⟨old, hold, hoid⟩
        · rw [u.attached_artifactId, u'.attached_artifactId] at hids
          rw [hrcontent, content_attached, content_attached, hkept'.unique hkept hids]
        · exact absurd hoid (hfresh old hold)
      · exact absurd (hoid.trans hids.symm) (hfresh old hold)

section call
variable [DecidableEq C] {c : C} {draw : Draw} {i : Bool}

/-- A request's call: what it comes to is owed to it. -/
theorem Answers.called (h : Answers store σ) (hinv : PostInv store σ) {stage : PostStage}
    (hrows : ∀ row ∈ (σ.called store c post stage i draw).db.artifacts,
      (∃ old ∈ σ.db.artifacts, old.artifactId = row.artifactId ∧ old.content = row.content) ∨
      ∃ d post u record, σ.posts d = some (post, .registering u record) ∧ row.artifactId = record.artifactId ∧
        row.content = record.content ∧ ∀ old ∈ σ.db.artifacts, old.artifactId ≠ record.artifactId)
    (hstage : Owed store (σ.called store c post stage i draw) post (stage.next store draw (σ.stores i)).1) :
    Answers store (σ.called store c post stage i draw) := by
  apply h.next hinv (hinv.called_later c post stage i draw) hrows
  intro d q s hd
  by_cases hdc : d = c
  · have hself : (σ.called store c post stage i draw).posts c =
      some (post, (stage.next store draw (σ.stores i)).1) :=
      Function.update_self ..
    rw [hdc, hself] at hd
    cases hd
    exact Or.inr hstage
  · have hother : (σ.called store c post stage i draw).posts d = σ.posts d := Function.update_of_ne hdc _ _
    rw [hother] at hd
    exact Or.inl hd

theorem Answers.call (h : Answers store σ) (hinv : PostInv store σ) (hcol : CollisionFree store σ.arrived)
    {stage : PostStage} (pending : σ.posts c = some (post, stage)) (unanswered : stage.result = none)
    (fresh : newArtifactId draw.uuid4 ∉ σ.used) : Answers store (σ.called store c post stage i draw) := by
  obtain ⟨harr, _, hok⟩ := hinv.posts c post _ pending
  have hrefl : ∀ row ∈ σ.db.artifacts,
      (∃ old ∈ σ.db.artifacts, old.artifactId = row.artifactId ∧ old.content = row.content) ∨
      ∃ d post u record, σ.posts d = some (post, .registering u record) ∧ row.artifactId = record.artifactId ∧
        row.content = record.content ∧ ∀ old ∈ σ.db.artifacts, old.artifactId ≠ record.artifactId :=
    fun row hrow => Or.inl ⟨row, hrow, rfl, rfl⟩
  cases stage with
  | answered result => cases unanswered
  | looking u p k =>
    obtain ⟨hprep, hscope⟩ := hok
    obtain ⟨next, he, hlook⟩ := next_looking store draw (σ.stores i) u p k
    have hcalled := @called_same C _ store σ c draw post i _ _ he rfl
    apply h.called hinv
    · rw [hcalled]
      exact hrefl
    · rw [hcalled, he]
      cases hlook with
      | fails => trivial
      | free => trivial
      | refused => trivial
      | bound row hrow hkey prior hread candidate ho =>
        rw [overlay_candidate ho]
        exact ⟨(prepare_ok hprep).content, Or.inl ⟨p, k, hscope, row, hrow, hkey⟩⟩
  | storing u =>
    rcases hput : store.put σ.volume i u.args draw.uuid4 draw.now with ⟨res, w, j⟩
    cases res with
    | error e =>
      have hcalled := @called_put_error C _ store σ c draw post i u e w j hput
      have hnext := congrArg Prod.fst (@next_storing_error store draw (σ.stores i) u e w j hput)
      apply h.called hinv
      · rw [hcalled]
        exact hrefl
      · rw [hcalled, hnext]
        trivial
    | ok r =>
      obtain ⟨_, hr, _⟩ := FsStore.put_ok hput
      have hcalled := @called_put C _ store σ c draw post i u r w j hput
      have hnext := congrArg Prod.fst (@next_storing_ok store draw (σ.stores i) u r w j hput)
      apply h.called hinv
      · rw [hcalled]
        exact hrefl
      · rw [hcalled, hnext]
        refine ⟨?_, Or.inr fun row hrow hid => ?_⟩
        · rw [content_attached, hr]
          exact (prepare_ok hok).content
        · -- its identity was never minted before
          have hused := hinv.row_used hrow
          rw [hid, u.attached_artifactId, hr] at hused
          exact absurd hused fresh
  | registering u record =>
    have howed := h c post _ pending
    cases hreg : registerArtifact store.env σ.db record (u.scope.map Prod.snd) (u.scope.map Prod.fst) with
    | error e =>
      have he : (PostStage.registering u record).next store draw (σ.stores i) =
        (.answered (.error e), σ.stores i) :=
        next_registering_error hreg
      have hcalled := @called_same C _ store σ c draw post i _ _ he rfl
      apply h.called hinv
      · rw [hcalled]
        exact hrefl
      · rw [hcalled, he]
        trivial
    | ok x =>
      obtain ⟨a, db⟩ := x
      have hgiven := Owed.registered hinv hcol harr howed hreg
      rcases registerArtifact_ok hreg with rfl | ⟨rfl, _, _, hfresh⟩
      · have he : (PostStage.registering u record).next store draw (σ.stores i) =
          (.answered (.ok a), σ.stores i) :=
          next_registering_ok hreg
        have hcalled := @called_same C _ store σ c draw post i _ _ he rfl
        apply h.called hinv
        · rw [hcalled]
          exact hrefl
        · rw [hcalled, he]
          exact hgiven
      · have he := congrArg Prod.fst (@next_registering_ok store draw (σ.stores i) u record a _ hreg)
        have hcalled := @called_inserted C _ store σ c draw post i u record a _ hreg
        apply h.called hinv
        · rw [hcalled]
          intro row hrow
          rcases List.mem_append.1 hrow with hrow | hrow
          · exact hrefl row hrow
          · rw [List.mem_singleton.1 hrow]
            exact Or.inr ⟨c, post, u, record, pending, rfl, rfl, hfresh⟩
        · rw [hcalled, he]
          exact hgiven

theorem Answers.step {e : PostEvent C} (h : Answers store σ) (hinv : PostInv store σ)
    (hcol : CollisionFree store σ.arrived)
    (step : PostStep store σ e τ) : Answers store τ := by
  have hlater := step.later hinv
  have hrefl : ∀ row ∈ σ.db.artifacts,
      (∃ old ∈ σ.db.artifacts, old.artifactId = row.artifactId ∧ old.content = row.content) ∨
      ∃ d post u record, σ.posts d = some (post, .registering u record) ∧ row.artifactId = record.artifactId ∧
        row.content = record.content ∧ ∀ old ∈ σ.db.artifacts, old.artifactId ≠ record.artifactId :=
    fun row hrow => Or.inl ⟨row, hrow, rfl, rfl⟩
  have hended : ∀ {x : Option (ArtifactPost × PostStage)} {q s}, endPost x = some (q, s) → x = some (q, s) := by
    intro x q s hx
    exact (endPost_some hx).1
  cases step with
  | start => exact h.next hinv hlater hrefl fun _ _ _ hd => Or.inl hd
  | health => exact h.next hinv hlater hrefl fun _ _ _ hd => Or.inl hd
  | lose => exact h.next hinv hlater hrefl fun _ _ _ hd => Or.inl hd
  | restore => exact h.next hinv hlater hrefl fun _ _ _ hd => Or.inl hd
  | stop => exact h.next hinv hlater hrefl fun d _ _ hd => Or.inl (hended hd)
  | crash c =>
    refine h.next hinv hlater hrefl fun d q s hd => Or.inl ?_
    by_cases hdc : d = c
    · have hself : Function.update σ.posts c (endPost (σ.posts c)) d = endPost (σ.posts d) := by
        rw [hdc]
        exact Function.update_self ..
      exact hended (hself.symm.trans hd)
    · have hother : Function.update σ.posts c (endPost (σ.posts c)) d = σ.posts d := Function.update_of_ne hdc _ _
      exact hother.symm.trans hd
  | write w i running valid other rep db run =>
    refine h.next hinv hlater (fun row hrow => ?_) fun _ _ _ hd => Or.inl hd
    obtain ⟨old, hold, _, _, rfl⟩ := (artifacts_of_effect (effect_of_run run) other).1 row hrow
    exact Or.inl ⟨old, hold, rfl, rfl⟩
  | arrive c post i running idle bytes =>
    refine h.next hinv hlater hrefl fun d q s hd => ?_
    by_cases hdc : d = c
    · have hself : Function.update σ.posts c (some (post, post.arrive store.maxBytes)) d =
          some (post, post.arrive store.maxBytes) := by
        rw [hdc]
        exact Function.update_self ..
      have hd := hself.symm.trans hd
      cases hd
      right
      -- it has been refused, or its first call is to come
      unfold ArtifactPost.arrive
      split
      · trivial
      · split
        · trivial
        · trivial
    · have hother : Function.update σ.posts c (some (post, post.arrive store.maxBytes)) d = σ.posts d :=
        Function.update_of_ne hdc _ _
      exact Or.inl (hother.symm.trans hd)
  | call c draw post stage i running pending unanswered fresh => exact h.call hinv hcol pending unanswered fresh

theorem PostRun.answers (run : PostRun store Sane (.start C) σ) :
    PostInv store σ ∧ (CollisionFree store σ.arrived → Answers store σ) := by
  induction run with
  | refl => exact ⟨.start, fun _ c post stage hc => by cases hc⟩
  | step _ good step ih =>
    obtain ⟨hinv, hanswers⟩ := ih
    refine ⟨hinv.step good step, fun hcol => ?_⟩
    have hcol := hcol.mono (step.later hinv).arrived
    exact (hanswers hcol).step hinv hcol step

theorem PostRun.mono {ok ok' : PostState C → PostEvent C → Prop} (run : PostRun store ok σ τ)
    (h : ∀ σ e, ok σ e → ok' σ e) : PostRun store ok' σ τ := by
  induction run with
  | refl => exact .refl _
  | step _ good step ih => exact .step ih (h _ _ good) step

end call

/-! ## Downloads -/

/-- The response that has the request's bytes, its content type and its filename. -/
def ArtifactPost.response (post : ArtifactPost) : RawResponse :=
  ⟨post.data, resolveArtifactContentType post.contentType post.contentTypeDeclared,
    "attachment; filename=\"" ++ post.filename.getD "" ++ "\""⟩

/-- The response that has the bytes, under the row's content type and filename. -/
def ArtifactRow.response (row : ArtifactRow) (data : Bytes) : RawResponse :=
  ⟨data, row.contentType, "attachment; filename=\"" ++ row.filename ++ "\""⟩

/-- A row whose volume is there is served with the bytes of the request that made it. -/
theorem PostInv.served {row : ArtifactRow} (hinv : PostInv store σ) (present : σ.volume.backingPresent = true)
    (hrow : row ∈ σ.db.artifacts) (i : Bool) : ∃ post ∈ σ.arrived, (row.artifactId, post) ∈ σ.created ∧
      store.env.sha256 post.data = row.sha256 ∧
      downloadArtifact store σ.volume i row.artifactId = .ok (ArtifactRow.response row post.data) := by
  obtain ⟨post, r, hcreated, hheld⟩ := (hinv.rows row hrow).held
  rw [contents_present present] at hheld
  refine ⟨post, (hinv.created _ hcreated).1, hcreated, hheld.sha256_eq, ?_⟩
  unfold downloadArtifact ArtifactRow.response
  rw [hheld.stat i, ok_bind, hheld.get i, ok_bind, hheld.describes.contentType, hheld.describes.filename]
  rfl

/-- A row whose volume is missing is a failure of the store. -/
theorem PostInv.unserved {row : ArtifactRow} {i : Bool} (hinv : PostInv store σ)
    (absent : σ.volume.backingPresent = false)
    (running : σ.process = some i) (hrow : row ∈ σ.db.artifacts) :
    StoreFailure (downloadArtifact store σ.volume i row.artifactId) := by
  have hmissing : σ.volume.sidecar row.artifactId = none := by
    rw [hinv.gone absent]
    rfl
  obtain ⟨e, hstat, hfailure⟩ := @stat_gone store ⟨σ.volume, i⟩ absent (hinv.flag_of_rows running hrow) _
    (hinv.rows row hrow).isArtHex hmissing
  refine ⟨e, ?_, hfailure⟩
  unfold downloadArtifact
  rw [show store.stat σ.volume i row.artifactId = .error e from hstat]
  rfl

section given
variable {a : ArtifactRecord} {i : Bool} (h : Given store σ.db post a) (hinv : PostInv store σ)

include h hinv

theorem Given.described :
    ∃ b, getArtifactMetadata σ.db a.artifactId = .ok b ∧ b.Valid ∧ b.artifactId = a.artifactId ∧
    b.content = a.content := by
  obtain ⟨hcontent, row, hrow, hid, hrowContent⟩ := h
  have hdb := hinv.reached.wellFormed
  obtain ⟨b, k, p, hvalid, horigin, hread⟩ := (hdb.artifacts.origin row hrow).read
  refine ⟨b, ?_, hvalid, (artifactId_of_read hread).symm.trans hid, ?_⟩
  · rw [← hid]
    unfold getArtifactMetadata getArtifact
    rw [hdb.find_artifact hrow]
    exact hread
  · exact (read_row hdb hrow hread).1.trans (hrowContent.trans hcontent.symm)

theorem Given.downloaded (collisionFree : CollisionFree store σ.arrived) (arrived : post ∈ σ.arrived)
    (present : σ.volume.backingPresent = true) : downloadArtifact store σ.volume i a.artifactId =
      .ok post.response := by
  obtain ⟨_, row, hrow, hid, hrowContent⟩ := h
  obtain ⟨first, hfirst, _, hdigest, hserved⟩ := hinv.served present hrow i
  obtain ⟨hsha, hrest⟩ := Prod.mk.inj hrowContent
  obtain ⟨_, hrest⟩ := Prod.mk.inj hrest
  obtain ⟨htype, hname⟩ := Prod.mk.inj hrest
  -- one digest, one content
  have hdata : first.data = post.data := collisionFree.bytes first hfirst post arrived (hdigest.trans hsha)
  rw [← hid, hserved, hdata]
  unfold ArtifactRow.response
  rw [htype, hname]
  rfl

theorem Given.unavailable (absent : σ.volume.backingPresent = false) (running : σ.process = some i) :
    StoreFailure (downloadArtifact store σ.volume i a.artifactId) := by
  obtain ⟨_, row, hrow, hid, _⟩ := h
  rw [← hid]
  exact hinv.unserved absent running hrow

end given

variable [DecidableEq C] {c : C}

/-- **What is registered is what is downloaded.**  However registrations interleave and wherever
they stop, each one that was answered with a record is described and served under the record's
identity, by the very bytes it sent, for as long as the volume is there; where it is missing, the
artifact store says so. -/
theorem registered_is_served (run : PostRun store Sane (.start C) σ)
    (collisionFree : CollisionFree store σ.arrived)
    {post : ArtifactPost} {a : ArtifactRecord} (answered : σ.posts c = some (post, .answered (.ok a))) :
    a.content = post.content store.env ∧
    (∃ b, getArtifactMetadata σ.db a.artifactId = .ok b ∧ b.artifactId = a.artifactId ∧ b.content = a.content) ∧
    (σ.volume.backingPresent = true → ∀ i, downloadArtifact store σ.volume i a.artifactId = .ok post.response) ∧
    (σ.volume.backingPresent = false → ∀ i, σ.process = some i →
      StoreFailure (downloadArtifact store σ.volume i a.artifactId)) := by
  obtain ⟨hinv, hanswers⟩ := run.answers
  have harr := (hinv.posts c post _ answered).1
  have hgiven : Given store σ.db post a := hanswers collisionFree c post _ answered
  obtain ⟨b, hb, _, hid, hcontent⟩ := hgiven.described hinv
  refine ⟨hgiven.1, ⟨b, hb, hid, hcontent⟩, fun present i => ?_, fun absent i running => ?_⟩
  · exact hgiven.downloaded hinv collisionFree harr present
  · exact hgiven.unavailable hinv absent running

end owed

/-- A keyed registration in a run that never lost its volume. -/
theorem samplePost_undisturbed : ∃ σ : PostState Bool, PostRun sampleStore Sane (.start Bool) σ ∧
    KeyedRegistered σ ∧
    σ.volume.backingPresent = true ∧ CollisionFree sampleStore σ.arrived := by
  obtain ⟨σ, run, h⟩ : ∃ σ, PostRun sampleStore (fun σ e => Sane σ e ∧ Undisturbed σ e)
    (.start Bool) σ ∧ KeyedRegistered σ :=
    sample_keyed_registration (fun _ => ⟨trivial, trivial⟩) (fun _ _ => ⟨trivial, trivial⟩) fun _ _ _ =>
      ⟨trivial, trivial⟩
  obtain ⟨hinv, hlost, _⟩ := (run.mono fun _ _ => And.right).undisturbed .start rfl
  refine ⟨σ, run.mono fun _ _ => And.left, h, ?_, ?_⟩
  · -- a layout that is missing had no rows
    by_contra absent
    have hnone := hinv.no_rows hlost (Bool.eq_false_iff.2 absent)
    rw [h.db] at hnone
    cases hnone
  · rw [h.arrived]
    constructor
    · intro q hq q' hq' _
      rw [List.mem_singleton.1 hq, List.mem_singleton.1 hq']
    · intro q hq q' hq' r r' hr hr' _
      rw [List.mem_singleton.1 hq] at hr
      rw [List.mem_singleton.1 hq'] at hr'
      exact ArtifactRecord.canonical_of_content (hr.trans hr'.symm)

/-- The bytes of one registration, downloaded. -/
theorem samplePost_is_served : ∃ σ : PostState Bool,
    σ.posts false = some (samplePost, .answered (.ok samplePosted)) ∧
    downloadArtifact sampleStore σ.volume true samplePosted.artifactId = .ok samplePost.response := by
  obtain ⟨σ, run, h, present, hcol⟩ := samplePost_undisturbed
  exact ⟨σ, h.answered, (registered_is_served run hcol h.answered).2.2.1 present true⟩

end Api

end Cer
