import Cer.Api.ArtifactInvariant

/-!
# What the two stores agree on

The metadata store and the artifact volume share no transaction.  `stores_agree`: as long as
the volume is left alone, every row has its sidecar and its blob, and the bytes served are
those of the request that made it.  `volume_is_not_remade`: where the volume comes and goes,
a store that calls itself healthy still holds every artifact that has a row, and one that
does not is never taken for one that never knew the artifact, unless a process started
without an answer from the metadata store over a volume that was lost.
-/

namespace Cer.Api

open Py

/-! ## A row and its files -/

/-- The row and the record say the same of the artifact. -/
structure Describes (row : ArtifactRow) (r : ArtifactRecord) : Prop where
  artifactId : row.artifactId = r.artifactId
  sha256 : row.sha256 = r.sha256
  sizeBytes : row.sizeBytes = r.sizeBytes
  contentType : row.contentType = r.contentType
  filename : row.filename = r.filename
  uri : row.uri = r.uri
  registeredAt : row.registeredAt = dtToStr r.registeredAt

/-- The record of the row and the bytes of the request are on the volume, and are served. -/
structure Held (store : FsStore) (v : Volume) (row : ArtifactRow) (post : ArtifactPost)
    (r : ArtifactRecord) : Prop where
  describes : Describes row r
  sidecar : ∃ y, v.sidecar row.artifactId = some y ∧ store.decode y = some r
  blob : v.blob row.sha256 = some post.data
  stat : ∀ initialised, store.stat v initialised row.artifactId = .ok r
  get : ∀ initialised, store.get v initialised row.artifactId = .ok post.data

section agreement
variable {C : Type} {store : FsStore} {σ τ : PostState C}

theorem Kept.held {v : Volume} {used : List String} {post : ArtifactPost} {u : Upload} {r : ArtifactRecord}
    (h : Kept store v used post u r) (k p e l : Option String) :
    Held store v ((r.toRow store.env k p).linked e l) post r := by
  have hdata := (prepare_ok h.prepared).data
  refine ⟨⟨rfl, rfl, rfl, rfl, rfl, rfl, rfl⟩, ⟨_, h.stored.sidecar, store.decode_encode r h.stored.valid⟩, ?_,
    h.stored.stat, fun i => ?_⟩
  · rw [← hdata]
    exact h.stored.blob
  · rw [← hdata]
    exact h.stored.get i

theorem RowKept.held {row : ArtifactRow} (h : RowKept store σ row) :
    ∃ post r, (row.artifactId, post) ∈ σ.created ∧ Held store σ.contents row post r := by
  obtain ⟨post, u, r, e, l, hcreated, hkept, rfl⟩ := h
  exact ⟨post, r, hcreated, hkept.held _ _ e l⟩

theorem RowKept.isArtHex {row : ArtifactRow} (h : RowKept store σ row) : IsArtHex row.artifactId := by
  obtain ⟨post, u, r, e, l, _, hkept, rfl⟩ := h
  obtain ⟨x, hx⟩ := hkept.stored.minted
  show IsArtHex r.artifactId
  rw [hx]
  exact isArtHex_new x

/-! ## A volume that comes and goes -/

/-- What is healthy holds every artifact that has a row; what is not there is a failure of the store. -/
structure NotRemade (store : FsStore) (σ : PostState C) : Prop where
  health : ∀ i, σ.process = some i → (store.health σ.volume i).1 = .ok () → ∀ row ∈ σ.db.artifacts,
    (∃ r, Describes row r ∧ ∃ y, σ.volume.sidecar row.artifactId = some y ∧ store.decode y = some r) ∧
      ∃ data, σ.volume.blob row.sha256 = some data ∧ store.env.sha256 data = row.sha256
  stat : ∀ i, σ.process = some i → ∀ row ∈ σ.db.artifacts,
    (∃ r, store.stat σ.volume i row.artifactId = .ok r ∧ Describes row r) ∨
      StoreFailure (store.stat σ.volume i row.artifactId)
  get : ∀ i, σ.process = some i → ∀ row ∈ σ.db.artifacts,
    (∃ data, store.get σ.volume i row.artifactId = .ok data ∧ store.env.sha256 data = row.sha256) ∨
      StoreFailure (store.get σ.volume i row.artifactId)

/-- A process knows of a layout that is missing while there are rows. -/
theorem PostInv.flag_of_rows (h : PostInv store σ) {i : Bool} (running : σ.process = some i) {row : ArtifactRow}
    (hrow : row ∈ σ.db.artifacts) : i = true := by
  cases i with
  | true => rfl
  | false =>
    rw [(h.flag running).1] at hrow
    cases hrow

theorem Held.sha256_eq {v : Volume} {row : ArtifactRow} {post : ArtifactPost} {r : ArtifactRecord}
    (h : Held store v row post r) : store.env.sha256 post.data = row.sha256 := by
  obtain ⟨y, r', hy, hdec, _, hsha⟩ := FsStore.get_ok (h.get true)
  obtain ⟨y', hy', hdec'⟩ := h.sidecar
  obtain rfl := Option.some.inj (hy.symm.trans hy')
  obtain rfl := Option.some.inj (hdec.symm.trans hdec')
  exact hsha.trans h.describes.sha256.symm

theorem PostInv.notRemade (h : PostInv store σ) : NotRemade store σ := by
  have hheld : σ.volume.backingPresent = true → ∀ row ∈ σ.db.artifacts, ∃ post r,
    Held store σ.volume row post r := by
    intro hp row hrow
    obtain ⟨post, r, _, hr⟩ := (h.rows row hrow).held
    rw [contents_present hp] at hr
    exact ⟨post, r, hr⟩
  -- where the layout is missing, so are the sidecars, and the process knows
  have hgone : σ.volume.backingPresent = false → ∀ i, σ.process = some i → ∀ row ∈ σ.db.artifacts,
      StoreFailure (store.stat σ.volume i row.artifactId) := by
    intro hp i hi row hrow
    have hmissing : σ.volume.sidecar row.artifactId = none := by
      rw [h.gone hp]
      rfl
    exact @stat_gone store ⟨σ.volume, i⟩ hp (h.flag_of_rows hi hrow) _ (h.rows row hrow).isArtHex hmissing
  constructor
  · intro i hi hhealth row hrow
    have hp : σ.volume.backingPresent = true := by
      by_contra hn
      unfold FsStore.health at hhealth
      rw [if_neg hn] at hhealth
      cases hhealth
    obtain ⟨post, r, hr⟩ := hheld hp row hrow
    exact ⟨⟨r, hr.describes, hr.sidecar⟩, post.data, hr.blob, hr.sha256_eq⟩
  · intro i hi row hrow
    by_cases hp : σ.volume.backingPresent = true
    · obtain ⟨post, r, hr⟩ := hheld hp row hrow
      exact Or.inl ⟨r, hr.stat i, hr.describes⟩
    · exact Or.inr (hgone (Bool.eq_false_iff.2 hp) i hi row hrow)
  · intro i hi row hrow
    by_cases hp : σ.volume.backingPresent = true
    · obtain ⟨post, r, hr⟩ := hheld hp row hrow
      exact Or.inl ⟨post.data, hr.get i, hr.sha256_eq⟩
    · right
      obtain ⟨e, hstat, he⟩ := hgone (Bool.eq_false_iff.2 hp) i hi row hrow
      refine ⟨e, ?_, he⟩
      unfold FsStore.get
      rw [hstat]
      rfl

/-- **A lost volume is not remade** in any run that never starts a process, unable to query the metadata store,
while the layout is missing and an artifact has a row. -/
theorem volume_is_not_remade [DecidableEq C] (run : PostRun store Sane (.start C) σ) : NotRemade store σ :=
  (run.inv .start fun _ _ _ => id).notRemade

/-! ## A volume that is left alone -/

/-- Nobody takes the volume away or puts one there. -/
def Undisturbed : PostState C → PostEvent C → Prop
  | _, .lose => False
  | _, .restore => False
  | _, _ => True

theorem PostStep.lost_empty [DecidableEq C] {e : PostEvent C} (good : Undisturbed σ e)
    (step : PostStep store σ e τ) :
    τ.lost = σ.lost := by
  cases step with
  | lose => exact good.elim
  | restore => exact good.elim
  | _ => rfl

/-- Rows have their files, so that a layout that is missing never was. -/
theorem PostInv.no_rows (h : PostInv store σ) (hlost : σ.lost = .empty)
    (absent : σ.volume.backingPresent = false) :
    σ.db.artifacts = [] := by
  refine List.eq_nil_iff_forall_not_mem.2 fun row hrow => ?_
  obtain ⟨post, r, _, hr⟩ := (h.rows row hrow).held
  have hblob := hr.blob
  rw [contents_absent absent, hlost] at hblob
  cases hblob

theorem PostInv.sane (h : PostInv store σ) (hlost : σ.lost = .empty) (e : PostEvent C) : Sane σ e := by
  cases e with
  | start failure now =>
    cases failure with
    | none => trivial
    | some x => exact h.no_rows hlost
  | _ => trivial

theorem PostRun.undisturbed [DecidableEq C] (run : PostRun store Undisturbed σ τ) (h : PostInv store σ)
    (hlost : σ.lost = .empty) : PostInv store τ ∧ τ.lost = .empty ∧ σ.Later τ := by
  induction run with
  | refl => exact ⟨h, hlost, .refl _⟩
  | step _ good step ih =>
    obtain ⟨hinv, hl, hlater⟩ := ih
    exact ⟨hinv.step (hinv.sane hl _) step, (PostStep.lost_empty good step).trans hl,
      hlater.trans (step.later hinv)⟩

/-- The files of every row are on the volume. -/
theorem PostInv.held (h : PostInv store σ) (hlost : σ.lost = .empty) {row : ArtifactRow}
    (hrow : row ∈ σ.db.artifacts) :
    ∃ post r, (row.artifactId, post) ∈ σ.created ∧
      (∀ post', (row.artifactId, post') ∈ σ.created → post' = post) ∧ Held store σ.volume row post r := by
  obtain ⟨post, r, hcreated, hheld⟩ := (h.rows row hrow).held
  have hp : σ.volume.backingPresent = true := by
    by_contra hn
    have hblob := hheld.blob
    rw [contents_absent (Bool.eq_false_iff.2 hn), hlost] at hblob
    cases hblob
  rw [contents_present hp] at hheld
  refine ⟨post, r, hcreated, fun post' hcreated' => ?_, hheld⟩
  exact congrArg Prod.snd (List.inj_on_of_nodup_map h.distinct hcreated' hcreated rfl)

/-- What is laid over a record is never inserted. -/
def OverlayIsNotInserted [DecidableEq C] (store : FsStore) (σ : PostState C) : Prop :=
  ∀ u p k draw i candidate, ((PostStage.looking u p k).next store draw (σ.stores i)).1 = .registering u candidate →
    ∀ τ, PostRun store Undisturbed σ τ → ∀ draw' i',
      ((PostStage.registering u candidate).next store draw' (τ.stores i')).2 = τ.stores i'

/-- Registering what has a row's identity writes nothing. -/
theorem register_again {s : Stores} {u : Upload} {record : ArtifactRecord} {draw : Draw}
    (h : ∃ row ∈ s.db.artifacts, row.artifactId = record.artifactId) :
    ((PostStage.registering u record).next store draw s).2 = s := by
  cases hreg : registerArtifact store.env s.db record (u.scope.map Prod.snd) (u.scope.map Prod.fst) with
  | error e => rw [next_registering_error hreg]
  | ok x =>
    obtain ⟨a, db⟩ := x
    rw [next_registering_ok hreg]
    rcases registerArtifact_ok hreg with rfl | ⟨_, _, _, hfresh⟩
    · rfl
    · obtain ⟨row, hrow, hid⟩ := h
      exact absurd hid (hfresh row hrow)

theorem PostInv.overlay [DecidableEq C] (h : PostInv store σ) (hlost : σ.lost = .empty) :
    OverlayIsNotInserted store σ := by
  intro u p k draw i candidate hnext τ run draw' i'
  obtain ⟨_, _, hlater⟩ := run.undisturbed h hlost
  apply register_again
  obtain ⟨next, he, hlook⟩ := next_looking store draw (σ.stores i) u p k
  rw [he] at hnext
  have hnext : next = .registering u candidate := hnext
  rw [hnext] at hlook
  cases hlook with
  | bound row hrow hkey prior hread _ ho =>
    obtain ⟨row', hrow', hid, _⟩ := hlater.row hrow
    exact ⟨row', hrow', hid.trans (overlay_row hread ho)⟩

/-- **The two stores agree.**  However registrations and attachments interleave and wherever they
stop, as long as the volume is left alone every row has its sidecar, which says the same, and its
blob; the bytes served are those of the one request that inserted it; and no record laid over an
earlier one is inserted. -/
theorem stores_agree [DecidableEq C] (run : PostRun store Undisturbed (.start C) σ) :
    (∀ row ∈ σ.db.artifacts, ∃ post r, (row.artifactId, post) ∈ σ.created ∧
      (∀ post', (row.artifactId, post') ∈ σ.created → post' = post) ∧ Held store σ.volume row post r) ∧
      OverlayIsNotInserted store σ := by
  obtain ⟨h, hlost, _⟩ := run.undisturbed .start rfl
  exact ⟨fun row hrow => h.held hlost hrow, h.overlay hlost⟩

end agreement

/-! ## One registration, and a volume lost after it -/

/-- A request without a key. -/
def plainPost : ArtifactPost := { samplePost with idempotencyKey := none }

def plainUpload : Upload := plainPost.upload "orders.csv" none

def plainRecord : ArtifactRecord := sampleStore.newRecord plainUpload.args sampleDraw.uuid4 sampleDraw.now

def plainRow : ArtifactRow := plainRecord.toRow .reference none none

def plainDb : Database := { Database.empty with artifacts := [] ++ [plainRow] }

def laterDraw : Draw := ⟨⟨"fedcba9876543210fedcba9876543210", by decide, by decide⟩, sampleTime⟩

theorem plain_checked : sampleStore.checkPut plainUpload.args = .ok () := by decide +kernel

theorem plain_registered : registerArtifact sampleStore.env .empty plainRecord none none =
    .ok (plainRecord, plainDb) := rfl

/-- The state after one registration. -/
structure PlainRegistered (σ : PostState Bool) : Prop where
  present : σ.volume.backingPresent = true
  process : σ.process = some true
  db : σ.db = plainDb
  used : σ.used = [newArtifactId sampleDraw.uuid4]
  idle : σ.posts true = none
  answered : σ.posts false = some (plainPost, .answered (.ok plainRecord))

theorem laterDraw_fresh : newArtifactId laterDraw.uuid4 ∉ [newArtifactId sampleDraw.uuid4] := by decide

/-- A process starts, one request arrives and is registered, in a run of any kind that lets it. -/
theorem sample_registration {ok : PostState Bool → PostEvent Bool → Prop}
    (start : ∀ now, ok (.start Bool) (.start none now))
    (arrive : ∀ σ c, ok σ (.arrive c plainPost))
    (call : ∀ σ c draw, (∀ post u record, σ.posts c = some (post, .registering u record) →
      u = plainUpload ∧ record = plainRecord) → ok σ (.call c draw)) :
    ∃ σ, PostRun sampleStore ok (.start Bool) σ ∧ PlainRegistered σ := by
  have r1 : PostRun sampleStore ok (.start Bool) _ :=
    .step (.refl _) (start sampleTime) (PostStep.deploy sampleStore sampleTime)
  have r2 : PostRun sampleStore ok (.start Bool) _ :=
    .step r1 (arrive _ false) (.arrive _ false plainPost true rfl rfl (by decide))
  obtain ⟨hpresent, _⟩ := initialise_files .empty sampleTime
  obtain ⟨w, hput⟩ := @put_new sampleStore
    (initialise .empty sampleTime) plainUpload.args true plain_checked (Or.inl hpresent)
    (fun y hy => by cases hy) sampleDraw.uuid4 sampleDraw.now
  have hstoring : ∀ {post u record}, some (plainPost, PostStage.storing plainUpload) =
    some (post, .registering u record) →
      u = plainUpload ∧ record = plainRecord := fun h => by cases h
  have hregistering : ∀ {post u record}, some (plainPost, PostStage.registering plainUpload plainRecord) =
      some (post, .registering u record) → u = plainUpload ∧ record = plainRecord := by
    intro post u record h
    cases h
    exact ⟨rfl, rfl⟩
  have r3 : PostRun sampleStore ok (.start Bool) _ := .step r2 (call _ false sampleDraw fun _ _ _ h => hstoring h)
    (.call _ false sampleDraw plainPost (.storing plainUpload) true rfl rfl rfl List.not_mem_nil)
  rw [called_put hput] at r3
  have r4 : PostRun sampleStore ok (.start Bool) _ :=
    .step r3 (call _ false laterDraw fun _ _ _ h => hregistering h)
    (.call _ false laterDraw plainPost (.registering plainUpload plainRecord) true rfl rfl rfl laterDraw_fresh)
  rw [called_inserted plain_registered] at r4
  have hleaves : PutLeaves sampleStore (initialise .empty sampleTime) w
    [newArtifactId sampleDraw.uuid4] plainUpload.args
      plainRecord := put_leaves hput rfl List.mem_cons_self
  exact ⟨_, r4, hleaves.present, rfl, rfl, rfl, rfl, rfl⟩

/-- The stores agree on the one artifact. -/
theorem sample_registration_agrees : ∃ (σ : PostState Bool) (post : ArtifactPost) (r : ArtifactRecord),
    σ.db = plainDb ∧ (plainRow.artifactId, post) ∈ σ.created ∧ Held sampleStore σ.volume plainRow post r := by
  obtain ⟨σ, run, h⟩ : ∃ σ, PostRun sampleStore Undisturbed (.start Bool) σ ∧ PlainRegistered σ :=
    sample_registration (fun _ => trivial) (fun _ _ => trivial) fun _ _ _ _ => trivial
  have hrow : plainRow ∈ σ.db.artifacts := by
    rw [h.db]
    exact List.mem_singleton_self _
  obtain ⟨post, r, hcreated, _, hheld⟩ := (stores_agree run).1 plainRow hrow
  exact ⟨σ, post, r, h.db, hcreated, hheld⟩

/-- The volume is lost between two processes; the second, which could ask, says that the artifact's
file is missing. -/
theorem sample_loss_is_not_remade : ∃ σ : PostState Bool, PostRun sampleStore Sane (.start Bool) σ ∧
    σ.volume.backingPresent = false ∧ σ.process = some true ∧ plainRow ∈ σ.db.artifacts ∧
    StoreFailure (sampleStore.stat σ.volume true plainRow.artifactId) := by
  obtain ⟨σ, r1, h⟩ : ∃ σ, PostRun sampleStore Sane (.start Bool) σ ∧ PlainRegistered σ :=
    sample_registration (fun _ => trivial) (fun _ _ => trivial) fun _ _ _ _ => trivial
  have hrow : plainRow ∈ σ.db.artifacts := by
    rw [h.db]
    exact List.mem_singleton_self _
  have hdb : WellFormed sampleStore.env σ.db := (r1.inv .start fun _ _ _ => id).reached.wellFormed
  have hstart : initialiseArtifactStoreIfSafe sampleStore (queryArtifacts σ.db none none 1 0) .empty sampleTime =
      ⟨.empty, true⟩ := by
    rw [start_absent rfl, holds_of_query hdb, h.db]
    rfl
  have r2 : PostRun sampleStore Sane (.start Bool) _ := .step r1 (show Sane σ .stop from trivial) (.stop σ)
  have r3 : PostRun sampleStore Sane (.start Bool)
      { σ with volume := .empty, lost := σ.volume, process := none, posts := fun c => endPost (σ.posts c) } :=
    .step r2 (show Sane _ .lose from trivial) (.lose _ h.present)
  have hstep := @PostStep.start Bool _ sampleStore
    { σ with volume := .empty, lost := σ.volume, process := none, posts := fun c => endPost (σ.posts c) }
    none sampleTime rfl
  dsimp only [Option.elim_none] at hstep
  rw [hstart] at hstep
  have r4 : PostRun sampleStore Sane (.start Bool) _ :=
    .step r3 (show Sane _ (.start none sampleTime) from trivial) hstep
  refine ⟨_, r4, rfl, rfl, hrow, ?_⟩
  rcases (volume_is_not_remade r4).stat true rfl plainRow hrow with ⟨r, hr, _⟩ | hfailure
  · obtain ⟨y, hy, _⟩ := FsStore.stat_ok hr
    cases hy
  · exact hfailure

/-- The volume is lost while no process runs, the next one cannot ask, and its first put makes a
volume that is healthy and does not know the artifact. -/
theorem lost_volume_is_remade : ∃ σ : PostState Bool, PostRun sampleStore (fun _ _ => True) (.start Bool) σ ∧
    σ.process = some true ∧ (sampleStore.health σ.volume true).1 = .ok () ∧ plainRow ∈ σ.db.artifacts ∧
    σ.volume.sidecar plainRow.artifactId = none ∧
    ∃ m, sampleStore.stat σ.volume true plainRow.artifactId = .error (ErrorClass.notFound.exc m) := by
  obtain ⟨σ, r1, h⟩ : ∃ σ, PostRun sampleStore (fun _ _ => True) (.start Bool) σ ∧ PlainRegistered σ :=
    sample_registration (fun _ => trivial) (fun _ _ => trivial) fun _ _ _ _ => trivial
  have r2 : PostRun sampleStore (fun _ _ => True) (.start Bool) _ := .step r1 trivial (.stop σ)
  have r3 : PostRun sampleStore (fun _ _ => True) (.start Bool) _ := .step r2 trivial (.lose _ h.present)
  have r4 : PostRun sampleStore (fun _ _ => True) (.start Bool)
      { σ with volume := .empty, lost := σ.volume, process := some false,
               posts := fun c => endPost (σ.posts c) } := by
    have hstep := @PostStep.start Bool _ sampleStore
      { σ with volume := .empty, lost := σ.volume, process := none, posts := fun c => endPost (σ.posts c) }
      (some (.operationalError "disk I/O error")) sampleTime rfl
    exact .step r3 trivial hstep
  have hidle : endPost (σ.posts true) = none := by
    rw [h.idle]
    rfl
  have r5 : PostRun sampleStore (fun _ _ => True) (.start Bool) _ :=
    .step r4 trivial (.arrive _ true plainPost false rfl hidle (by decide))
  obtain ⟨w, hput⟩ := @put_new sampleStore .empty plainUpload.args false plain_checked
    (Or.inr rfl) (fun y hy => by cases hy)
    laterDraw.uuid4 laterDraw.now
  have hfresh : newArtifactId laterDraw.uuid4 ∉ σ.used := by
    rw [h.used]
    exact laterDraw_fresh
  have r6 : PostRun sampleStore (fun _ _ => True) (.start Bool) _ :=
    .step r5 trivial (.call _ true laterDraw plainPost (.storing plainUpload) false rfl rfl rfl hfresh)
  rw [called_put hput] at r6
  have hleaves : PutLeaves sampleStore .empty w [newArtifactId laterDraw.uuid4] plainUpload.args
      (sampleStore.newRecord plainUpload.args laterDraw.uuid4 laterDraw.now) :=
        put_leaves hput rfl List.mem_cons_self
  have hmissing : w.sidecar plainRow.artifactId = none := by
    cases hs : w.sidecar plainRow.artifactId with
    | none => rfl
    | some y =>
      rcases hleaves.sidecar _ y hs with hs | hs
      · cases hs
      · have hid : newArtifactId sampleDraw.uuid4 = newArtifactId laterDraw.uuid4 := hs
        exact absurd (List.mem_singleton.2 hid.symm) laterDraw_fresh
  refine ⟨_, r6, rfl, ?_, ?_, hmissing, stat_unknown hleaves.present true hmissing⟩
  · show (sampleStore.health w true).1 = .ok ()
    unfold FsStore.health
    rw [if_pos hleaves.present]
  · show plainRow ∈ σ.db.artifacts
    rw [h.db]
    exact List.mem_singleton_self _

end Cer.Api
