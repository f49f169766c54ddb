import Cer.Api.ArtifactRuns
import Cer.Artifacts.PutFiles

/-!
# What holds in every state of the artifact registry

`PostInv` is kept by every event but one: a process that starts over a lost volume while
the metadata store cannot tell it that artifacts were registered.
-/

namespace Cer.Api

open Py

/-! ## What holds in every state -/

/-- The artifact files, in the volume or where it was lost. -/
def PostState.contents {C : Type} (σ : PostState C) : Volume :=
  if σ.volume.backingPresent then σ.volume else σ.lost

theorem contents_present {C : Type} {σ : PostState C} (h : σ.volume.backingPresent = true) :
    σ.contents = σ.volume := if_pos h

theorem contents_absent {C : Type} {σ : PostState C} (h : σ.volume.backingPresent = false) : σ.contents = σ.lost :=
  if_neg (by rw [h]; exact Bool.false_ne_true)

/-- The record was put for a request that came to `u`, and its files are there. -/
structure Kept (store : FsStore) (v : Volume) (used : List String) (post : ArtifactPost) (u : Upload)
    (r : ArtifactRecord) : Prop where
  prepared : post.prepare store.maxBytes = .ok u
  made : ∃ x now, r = store.newRecord u.args x now
  stored : Stored store v used u.args r

theorem Kept.mono {store : FsStore} {v w : Volume} {used used' : List String} {post : ArtifactPost} {u : Upload}
    {r : ArtifactRecord} (h : Kept store v used post u r) (grows : v.Grows w) (hu : ∀ id ∈ used, id ∈ used') :
    Kept store w used' post u r :=
  ⟨h.prepared, h.made, { h.stored with
    used := hu _ h.stored.used, blob := grows.blobs _ _ h.stored.blob,
    sidecar := grows.sidecars _ _ h.stored.sidecar }⟩

section invariant
variable {C : Type} (store : FsStore)

/-- The row is that of a record put for the request that inserted it, whatever it has been linked to. -/
def RowKept (σ : PostState C) (row : ArtifactRow) : Prop :=
  ∃ post u r e l, (row.artifactId, post) ∈ σ.created ∧ Kept store σ.contents σ.used post u r ∧
    row = (r.toRow store.env (u.scope.map Prod.snd) (u.scope.map Prod.fst)).linked e l

/-- What is to be registered was put by the request, or has a row's identity. -/
def StageOk (σ : PostState C) (post : ArtifactPost) : PostStage → Prop
  | .looking u p k => post.prepare store.maxBytes = .ok u ∧ u.scope = some (p, k)
  | .storing u => post.prepare store.maxBytes = .ok u
  | .registering u record => post.prepare store.maxBytes = .ok u ∧
      ((∃ r, Kept store σ.contents σ.used post u r ∧ record = u.attached r) ∨
        ∃ row ∈ σ.db.artifacts, row.artifactId = record.artifactId)
  | .answered _ => True

/-- No row, and nothing on its way to one. -/
def PostState.Unwritten (σ : PostState C) : Prop :=
  σ.db.artifacts = [] ∧ ∀ c post u record, σ.posts c ≠ some (post, .registering u record)

structure PostInv (σ : PostState C) : Prop where
  reached : Reachable store.env σ.db
  gone : σ.volume.backingPresent = false → σ.volume = .empty
  away : σ.lost.backingPresent = false → σ.lost = .empty
  sidecars : ∀ id y, σ.contents.sidecar id = some y → id ∈ σ.used
  blobs : ∀ sha y, σ.contents.blob sha = some y → sha = store.env.sha256 y ∧ ∃ post ∈ σ.arrived, post.data = y
  rows : ∀ row ∈ σ.db.artifacts, RowKept store σ row
  distinct : (σ.created.map Prod.fst).Nodup
  created : ∀ x ∈ σ.created, x.2 ∈ σ.arrived ∧ ∃ row ∈ σ.db.artifacts, row.artifactId = x.1
  posts : ∀ c post stage, σ.posts c = some (post, stage) →
    post ∈ σ.arrived ∧ post.data.length < 2 ^ 63 ∧ StageOk store σ post stage
  live : ∀ c post stage, σ.posts c = some (post, stage) → stage.result = none → σ.process ≠ none
  flag : σ.process = some false → σ.Unwritten

/-- A process is not started, unable to ask the metadata store, over a lost volume while rows are there. -/
def Sane (σ : PostState C) : PostEvent C → Prop
  | .start (some _) _ => σ.volume.backingPresent = false → σ.db.artifacts = []
  | _ => True

variable {store} {σ τ : PostState C}

theorem PostInv.start : PostInv store (.start C) where
  reached := .refl _
  gone _ := rfl
  away _ := rfl
  sidecars id y h := by cases h
  blobs sha y h := by cases h
  rows row h := by cases h
  distinct := List.nodup_nil
  created x h := by cases h
  posts c post stage h := by cases h
  live c post stage h := by cases h
  flag h := by cases h

/-- The files, the identities and the rows of `σ` are still there in `τ`, or `σ` had none that count. -/
structure Carries (σ τ : PostState C) : Prop where
  files : σ.Unwritten ∨ σ.contents.Grows τ.contents
  used : ∀ id ∈ σ.used, id ∈ τ.used
  created : ∀ x ∈ σ.created, x ∈ τ.created
  rows : ∀ row ∈ σ.db.artifacts, ∃ row' ∈ τ.db.artifacts, row'.artifactId = row.artifactId

theorem Carries.row (h : Carries σ τ) {row : ArtifactRow} (hmem : row ∈ σ.db.artifacts)
    (hrow : RowKept store σ row) :
    RowKept store τ row := by
  obtain ⟨post, u, r, e, l, hc, hk, he⟩ := hrow
  rcases h.files with ⟨hnone, _⟩ | hg
  · rw [hnone] at hmem
    cases hmem
  · exact ⟨post, u, r, e, l, h.created _ hc, hk.mono hg h.used, he⟩

theorem Carries.stage (h : Carries σ τ) {c : C} {post : ArtifactPost} {stage : PostStage}
    (hpost : σ.posts c = some (post, stage)) (hs : StageOk store σ post stage) : StageOk store τ post stage := by
  cases stage with
  | looking u p k => exact hs
  | storing u => exact hs
  | answered result => trivial
  | registering u record =>
    refine ⟨hs.1, ?_⟩
    rcases hs.2 with ⟨r, hk, he⟩ | ⟨row, hmem, hid⟩
    · rcases h.files with ⟨_, hnone⟩ | hg
      · exact absurd hpost (hnone c post u record)
      · exact Or.inl ⟨r, hk.mono hg h.used, he⟩
    · obtain ⟨row', hmem', hid'⟩ := h.rows row hmem
      exact Or.inr ⟨row', hmem', hid'.trans hid⟩

theorem Upload.attached_artifactId (u : Upload) (r : ArtifactRecord) :
    (u.attached r).artifactId = r.artifactId := by
  unfold Upload.attached
  split
  · rfl
  · rfl

/-- The links a request names are the only difference between the record put and the record registered. -/
theorem Upload.toRow_attached (u : Upload) (env : Env) (r : ArtifactRecord) (k p : Option String) :
    ∃ e l, (u.attached r).toRow env k p = (r.toRow env k p).linked e l := by
  unfold Upload.attached
  split
  · exact ⟨u.evidenceId, u.runId, rfl⟩
  · exact ⟨r.evidenceId, r.runId, rfl⟩

theorem overlay_artifactId {env : Env} {u : Upload} {prior candidate : ArtifactRecord}
    (h : u.overlay env prior = .ok candidate) : prior.artifactId = candidate.artifactId := by
  unfold Upload.overlay at h
  dsimp only at h
  split at h
  · cases h
  · cases h
    rfl

theorem artifactId_of_read {row : ArtifactRow} {r : ArtifactRecord} (h : rowToArtifact row = .ok r) :
    row.artifactId = r.artifactId := by
  unfold rowToArtifact at h
  obtain ⟨_, _, h⟩ := bind_ok h
  obtain ⟨_, rfl⟩ := runChecks_then_eq_ok.1 h
  rfl

/-- What the lookup hands back is read from a row of the key. -/
theorem findArtifact_some {db : Database} {p k : String} {r : ArtifactRecord}
    (h : findArtifactByIdempotencyKey db (some p) k = .ok (some r)) :
    ∃ row ∈ db.artifacts, row.key = some (p, k) ∧ rowToArtifact row = .ok r := by
  unfold findArtifactByIdempotencyKey at h
  obtain ⟨q, hq, h⟩ := bind_ok h
  obtain rfl : p = q := by
    unfold Cer.requireProducerForKey at hq
    dsimp only at hq
    split at hq
    · cases hq
    · cases hq
      rfl
  split at h
  · cases h
  · next row hf =>
    obtain ⟨r', hread, h⟩ := bind_ok h
    cases h
    have hkey := List.find?_some hf
    exact ⟨row, List.mem_of_find?_eq_some hf, beq_iff_eq.1 hkey, hread⟩

/-- What a lookup leads to. -/
inductive Looked (env : Env) (db : Database) (u : Upload) (p k : String) : PostStage → Prop
  | fails (e : Exc) (find : findArtifactByIdempotencyKey db (some p) k = .error e) :
      Looked env db u p k (.answered (.error e))
  | free : Looked env db u p k (.storing u)
  | refused (prior : ArtifactRecord) (e : Exc) (overlay : u.overlay env prior = .error e) :
    Looked env db u p k (.answered (.error e))
  | bound (row : ArtifactRow) (mem : row ∈ db.artifacts) (key : row.key = some (p, k)) (prior : ArtifactRecord)
    (read : rowToArtifact row = .ok prior) (candidate : ArtifactRecord)
    (overlay : u.overlay env prior = .ok candidate) :
    Looked env db u p k (.registering u candidate)

/-- A lookup writes nothing. -/
theorem next_looking (store : FsStore) (draw : Draw) (σ : Stores) (u : Upload) (p k : String) :
    ∃ next, (PostStage.looking u p k).next store draw σ = (next, σ) ∧ Looked store.env σ.db u p k next := by
  unfold PostStage.next
  dsimp only
  cases hf : findArtifactByIdempotencyKey σ.db (some p) k with
  | error e => exact ⟨_, rfl, .fails e hf⟩
  | ok found =>
    cases found with
    | none => exact ⟨_, rfl, .free⟩
    | some prior =>
      obtain ⟨row, hrow, hkey, hread⟩ := findArtifact_some hf
      cases ho : u.overlay store.env prior with
      | error e => exact ⟨_, by dsimp only; rw [ho], .refused prior e ho⟩
      | ok candidate => exact ⟨_, by dsimp only; rw [ho], .bound row hrow hkey prior hread candidate ho⟩

/-- The record laid over has the identity of the row it was read from. -/
theorem overlay_row {env : Env} {u : Upload} {row : ArtifactRow} {prior candidate : ArtifactRecord}
    (hread : rowToArtifact row = .ok prior) (ho : u.overlay env prior = .ok candidate) :
    row.artifactId = candidate.artifactId := (artifactId_of_read hread).trans (overlay_artifactId ho)

/-! What an event changes, one part of the state at a time. -/

/-- Other files and another process: nothing that counts is lost. -/
theorem PostInv.setFiles (h : PostInv store σ) {w l : Volume} {p : Option Bool} {used : List String}
    (gone : w.backingPresent = false → w = .empty) (away : l.backingPresent = false → l = .empty)
    (hfiles : σ.Unwritten ∨ σ.contents.Grows { σ with volume := w, lost := l }.contents)
    (hused : ∀ id ∈ σ.used, id ∈ used)
    (hside : ∀ id y, { σ with volume := w, lost := l }.contents.sidecar id = some y → id ∈ used)
    (hblob : ∀ sha y, { σ with volume := w, lost := l }.contents.blob sha = some y →
      sha = store.env.sha256 y ∧ ∃ post ∈ σ.arrived, post.data = y)
    (hlive : ∀ c post stage, σ.posts c = some (post, stage) → stage.result = none → p ≠ none)
    (hflag : p = some false → σ.Unwritten) :
    PostInv store { σ with volume := w, lost := l, process := p, used := used } := by
  have hc : Carries σ { σ with volume := w, lost := l, process := p, used := used } :=
    ⟨hfiles, hused, fun _ => id, fun row hrow => ⟨row, hrow, rfl⟩⟩
  exact { h with
    gone := gone, away := away, sidecars := hside, blobs := hblob, live := hlive, flag := hflag
    rows := fun row hrow => hc.row hrow (h.rows row hrow)
    posts := fun c post stage hp => ⟨(h.posts c post stage hp).1, (h.posts c post stage hp).2.1,
      hc.stage hp (h.posts c post stage hp).2.2⟩ }

/-- The same files, here or away. -/
theorem PostInv.setPlace (h : PostInv store σ) {w l : Volume} (gone : w.backingPresent = false → w = .empty)
    (away : l.backingPresent = false → l = .empty)
    (same : { σ with volume := w, lost := l }.contents = σ.contents) :
    PostInv store { σ with volume := w, lost := l } := by
  apply h.setFiles gone away
  · rw [same]
    exact Or.inr (.refl _)
  · exact fun _ => id
  · rw [same]
    exact h.sidecars
  · rw [same]
    exact h.blobs
  · exact h.live
  · exact h.flag

/-- Another process over the same files. -/
theorem PostInv.setProcess (h : PostInv store σ) {i : Bool} (hflag : i = false → σ.Unwritten) :
    PostInv store { σ with process := some i } :=
  h.setFiles h.gone h.away (Or.inr (.refl _)) (fun _ => id) h.sidecars h.blobs
    (fun _ _ _ _ _ hn => by cases hn) fun hi =>
    hflag (Option.some.inj hi)

/-- Another set of requests, each as one of the old ones. -/
theorem PostInv.setPosts [DecidableEq C] (h : PostInv store σ) (c : C) {x : Option (ArtifactPost × PostStage)}
    (hx : ∀ post stage, x = some (post, stage) → post ∈ σ.arrived ∧ post.data.length < 2 ^ 63 ∧
      StageOk store σ post stage ∧
      (stage.result = none → σ.process ≠ none))
    (hflag : σ.process = some false → ∀ post u record, x ≠ some (post, .registering u record)) :
    PostInv store { σ with posts := Function.update σ.posts c x } := by
  have hcase : ∀ {d y}, Function.update σ.posts c x d = y → d = c ∧ x = y ∨ d ≠ c ∧ σ.posts d = y := by
    intro d y hd
    by_cases hdc : d = c
    · rw [hdc, Function.update_self] at hd
      exact Or.inl ⟨hdc, hd⟩
    · rw [Function.update_of_ne hdc] at hd
      exact Or.inr ⟨hdc, hd⟩
  refine { h with posts := fun d post stage hd => ?_, live := fun d post stage hd hr => ?_, flag := fun hp => ?_ }
  · rcases hcase hd with ⟨_, he⟩ | ⟨_, he⟩
    · obtain ⟨h1, h2, h3, _⟩ := hx post stage he
      exact ⟨h1, h2, h3⟩
    · exact h.posts d post stage he
  · rcases hcase hd with ⟨_, he⟩ | ⟨_, he⟩
    · exact (hx post stage he).2.2.2 hr
    · exact h.live d post stage he hr
  · obtain ⟨hrows, hnone⟩ := h.flag hp
    refine ⟨hrows, fun d post u record hd => ?_⟩
    rcases hcase hd with ⟨_, he⟩ | ⟨_, he⟩
    · exact hflag hp post u record he
    · exact hnone d post u record he

theorem PostInv.arrived (h : PostInv store σ) (post : ArtifactPost) :
    PostInv store { σ with arrived := post :: σ.arrived } :=
  { h with
    blobs := fun sha y hy =>
      ⟨(h.blobs sha y hy).1, (h.blobs sha y hy).2.imp fun _ hp => ⟨List.mem_cons_of_mem _ hp.1, hp.2⟩⟩
    created := fun x hx => ⟨List.mem_cons_of_mem _ (h.created x hx).1, (h.created x hx).2⟩
    posts := fun c p stage hp => ⟨List.mem_cons_of_mem _ (h.posts c p stage hp).1, (h.posts c p stage hp).2⟩ }

/-- A committed write that keeps the artifacts' rows but for their links. -/
theorem PostInv.setDb (h : PostInv store σ) {db : Database} (hr : Reachable store.env db)
    (hrows : ∀ row ∈ db.artifacts, ∃ old ∈ σ.db.artifacts, ∃ e l, row = old.linked e l)
    (hkeep : ∀ row ∈ σ.db.artifacts, ∃ row' ∈ db.artifacts, row'.artifactId = row.artifactId) :
    PostInv store { σ with db := db } := by
  have hc : Carries σ { σ with db := db } := ⟨Or.inr (.refl _), fun _ => id, fun _ => id, hkeep⟩
  refine { h with
    reached := hr, rows := fun row hrow => ?_, created := fun x hx => ?_, flag := fun hp => ?_
    posts := fun c post stage hp => ⟨(h.posts c post stage hp).1, (h.posts c post stage hp).2.1,
      hc.stage hp (h.posts c post stage hp).2.2⟩ }
  · obtain ⟨old, hold, e, l, rfl⟩ := hrows row hrow
    obtain ⟨post, u, r, e', l', hcr, hk, rfl⟩ := h.rows old hold
    exact ⟨post, u, r, e, l, hcr, hk, rfl⟩
  · obtain ⟨harr, row, hrow, hid⟩ := h.created x hx
    obtain ⟨row', hrow', hid'⟩ := hkeep row hrow
    exact ⟨harr, row', hrow', hid'.trans hid⟩
  · obtain ⟨hnone, hposts⟩ := h.flag hp
    refine ⟨List.eq_nil_iff_forall_not_mem.2 fun row hrow => ?_, hposts⟩
    obtain ⟨old, hold, _⟩ := hrows row hrow
    rw [hnone] at hold
    cases hold

/-- A row inserted for a request whose record was put. -/
theorem PostInv.insert (h : PostInv store σ) {c : C} {post : ArtifactPost} {u : Upload} {record : ArtifactRecord}
    {db : Database} (hr : Reachable store.env db) (hpost : σ.posts c = some (post, .registering u record))
    (hrows : db.artifacts = σ.db.artifacts ++
      [record.toRow store.env (u.scope.map Prod.snd) (u.scope.map Prod.fst)])
    (hfresh : ∀ row ∈ σ.db.artifacts, row.artifactId ≠ record.artifactId) :
    PostInv store { σ with db := db, created := (record.artifactId, post) :: σ.created } := by
  have hold : ∀ {row}, row ∈ σ.db.artifacts → row ∈ db.artifacts := fun hrow => by
    rw [hrows]
    exact List.mem_append_left _ hrow
  have hc : Carries σ { σ with db := db, created := (record.artifactId, post) :: σ.created } :=
    ⟨Or.inr (.refl _), fun _ => id, fun _ hx => List.mem_cons_of_mem _ hx, fun row hrow => ⟨row, hold hrow, rfl⟩⟩
  obtain ⟨harr, _, _, hfrom⟩ := h.posts c post _ hpost
  have hkept : ∃ r, Kept store σ.contents σ.used post u r ∧ record = u.attached r := by
    rcases hfrom with hk | ⟨row, hrow, hid⟩
    · exact hk
    · exact absurd hid (hfresh row hrow)
  refine { h with
    reached := hr, rows := fun row hrow => ?_, distinct := ?_, created := fun x hx => ?_, flag := fun hp => ?_
    posts := fun d p stage hp => ⟨(h.posts d p stage hp).1, (h.posts d p stage hp).2.1,
      hc.stage hp (h.posts d p stage hp).2.2⟩ }
  · rw [hrows] at hrow
    rcases List.mem_append.1 hrow with hrow | hrow
    · exact hc.row hrow (h.rows row hrow)
    · obtain rfl := List.mem_singleton.1 hrow
      obtain ⟨r, hk, rfl⟩ := hkept
      obtain ⟨e, l, hlinked⟩ := u.toRow_attached store.env r (u.scope.map Prod.snd) (u.scope.map Prod.fst)
      refine ⟨post, u, r, e, l, ?_, hk, hlinked⟩
      exact List.mem_cons_self
  · refine List.nodup_cons.2 ⟨fun hmem => ?_, h.distinct⟩
    obtain ⟨x, hx, hid⟩ := List.mem_map.1 hmem
    obtain ⟨_, row, hrow, hrid⟩ := h.created x hx
    exact hfresh row hrow (hrid.trans hid)
  · rcases List.mem_cons.1 hx with rfl | hx
    · exact ⟨harr, _, by rw [hrows]; exact List.mem_append_right _ (List.mem_singleton_self _), rfl⟩
    · obtain ⟨hxarr, row, hrow, hid⟩ := h.created x hx
      exact ⟨hxarr, row, hold hrow, hid⟩
  · exact absurd hpost ((h.flag hp).2 c post u record)

/-- A registration that answers: nothing is written, or the row of the record, which is new. -/
theorem registerArtifact_ok {env : Env} {db db' : Database} {a x : ArtifactRecord} {k p : Option String}
    (h : registerArtifact env db a k p = .ok (x, db')) : db' = db ∨
      db' = { db with artifacts := db.artifacts ++ [a.toRow env k p] } ∧ (∀ i ∈ a.runId, db.hasRun i) ∧
        (∀ i ∈ a.evidenceId, db.hasEvidence i) ∧ ∀ row ∈ db.artifacts, row.artifactId ≠ a.artifactId := by
  have hrun : (Write.registerArtifact a k p).run env db = .ok (.artifact x, db') := by
    show asReply Reply.artifact (registerArtifact env db a k p) = _
    rw [h]
    rfl
  have heffect := effect_of_run hrun
  generalize hw : Write.registerArtifact a k p = w at heffect
  cases heffect with
  | unchanged => exact Or.inl rfl
  | artifact a' k' p' hr he _ hfresh =>
    cases hw
    exact Or.inr ⟨rfl, hr, he, hfresh.id⟩
  | _ => cases hw

/-- The volume of a state has no sidecar of an identity that was never minted. -/
theorem PostInv.sidecar_fresh (h : PostInv store σ) {id : String} (fresh : id ∉ σ.used) :
    σ.volume.sidecar id = none := by
  by_cases hp : σ.volume.backingPresent = true
  · cases hs : σ.volume.sidecar id with
    | none => rfl
    | some y =>
      rw [← contents_present hp] at hs
      exact absurd (h.sidecars id y hs) fresh
  · rw [h.gone (Bool.eq_false_iff.2 hp)]
    rfl

section call
variable {c : C} {draw : Draw} {post : ArtifactPost} {i : Bool}

/-- The files after a put. -/
theorem PostInv.put (h : PostInv store σ) {u : Upload} {w : Volume} {j : Bool} {res : Except Exc ArtifactRecord}
    (running : σ.process = some i) (hput : store.put σ.volume i u.args draw.uuid4 draw.now = (res, w, j))
    (fresh : newArtifactId draw.uuid4 ∉ σ.used) (data : ∃ q ∈ σ.arrived, q.data = u.args.data) :
    PostInv store { σ with volume := w, process := some j, used := newArtifactId draw.uuid4 :: σ.used } := by
  obtain ⟨hlayout, hgrows, hblob, hside⟩ := put_keeps hput (h.sidecar_fresh fresh)
  have hfalse : i = false → σ.Unwritten := fun hi => h.flag (by rw [running, hi])
  have hgone : w.backingPresent = false → w = .empty ∧ w = σ.volume := by
    intro hw
    rcases hlayout with ⟨rfl, _⟩ | ⟨hp, _⟩
    · exact ⟨h.gone hw, rfl⟩
    · rw [hw] at hp
      cases hp
  -- what is in the contents afterwards was there before, or is the put's
  have hfrom : σ.Unwritten ∧ σ.volume = .empty ∧ { σ with volume := w }.contents = w ∨
      σ.contents.Grows { σ with volume := w }.contents ∧
        ({ σ with volume := w }.contents = σ.contents ∨ σ.contents = σ.volume ∧
          { σ with volume := w }.contents = w) := by
    rcases hlayout with ⟨rfl, _⟩ | ⟨hp, _, hv | hi⟩
    · exact Or.inr ⟨.refl _, Or.inl rfl⟩
    · right
      have hw : { σ with volume := w }.contents = w := if_pos hp
      rw [contents_present hv, hw]
      exact ⟨hgrows, Or.inr ⟨rfl, rfl⟩⟩
    · have hw : { σ with volume := w }.contents = w := if_pos hp
      by_cases hv : σ.volume.backingPresent = true
      · rw [contents_present hv, hw]
        exact Or.inr ⟨hgrows, Or.inr ⟨rfl, rfl⟩⟩
      · exact Or.inl ⟨hfalse hi, h.gone (Bool.eq_false_iff.2 hv), hw⟩
  refine h.setFiles (fun hw => (hgone hw).1) h.away ?_ (fun id hid => List.mem_cons_of_mem _ hid)
    (fun id y hy => ?_)
    (fun sha y hy => ?_) (fun _ _ _ _ _ hn => by cases hn) fun hj => ?_
  · rcases hfrom with ⟨hu, _⟩ | ⟨hg, _⟩
    · exact Or.inl hu
    · exact Or.inr hg
  · have hold : ∀ {y}, σ.contents.sidecar id = some y → id ∈ newArtifactId draw.uuid4 :: σ.used := fun hs =>
      List.mem_cons_of_mem _ (h.sidecars id _ hs)
    rcases hfrom with ⟨_, he, hw⟩ | ⟨_, hw | ⟨hv, hw⟩⟩ <;> rw [hw] at hy
    · rcases hside id y hy with hs | rfl
      · rw [he] at hs
        cases hs
      · exact List.mem_cons_self
    · exact hold hy
    · rcases hside id y hy with hs | rfl
      · rw [← hv] at hs
        exact hold hs
      · exact List.mem_cons_self
  · have hnew : sha = store.env.sha256 u.args.data ∧ y = u.args.data →
        sha = store.env.sha256 y ∧ ∃ q ∈ σ.arrived, q.data = y := by
      rintro ⟨rfl, rfl⟩
      exact ⟨rfl, data⟩
    rcases hfrom with ⟨_, he, hw⟩ | ⟨_, hw | ⟨hv, hw⟩⟩ <;> rw [hw] at hy
    · rcases hblob sha y hy with hb | hb
      · rw [he] at hb
        cases hb
      · exact hnew hb
    · exact h.blobs sha y hy
    · rcases hblob sha y hy with hb | hb
      · rw [← hv] at hb
        exact h.blobs sha y hb
      · exact hnew hb
  · rcases hlayout with ⟨_, rfl⟩ | ⟨_, rfl, _⟩
    · exact hfalse (Option.some.inj hj)
    · cases hj

/-- The links of a record that was put name rows. -/
theorem valid_attached {u : Upload} {r : ArtifactRecord} (h : r.Valid) (hdb : WellFormed store.env σ.db)
    (hrun : ∀ j ∈ (u.attached r).runId, σ.db.hasRun j)
    (hevidence : ∀ j ∈ (u.attached r).evidenceId, σ.db.hasEvidence j) :
    (u.attached r).Valid := by
  unfold Upload.attached at hrun hevidence ⊢
  split
  · next hlinks =>
    rw [if_pos hlinks] at hrun hevidence
    exact h.linked (fun j hj => validateEvidenceId_of_row hdb (hevidence j hj)) fun j hj =>
      validateRunId_of_row hdb (hrun j hj)
  · exact h

variable [DecidableEq C]

/-- The request has moved on to `stage`, the stores as they were. -/
theorem PostInv.moved (h : PostInv store σ) {old stage : PostStage} (running : σ.process = some i)
    (pending : σ.posts c = some (post, old)) (hstage : StageOk store σ post stage)
    (hreg : i = false → ∀ u record, stage ≠ .registering u record) :
    PostInv store { σ with process := some i, posts := Function.update σ.posts c (some (post, stage)) } := by
  obtain ⟨harr, hlen, _⟩ := h.posts c post old pending
  have hp : { σ with process := some i, posts := Function.update σ.posts c (some (post, stage)) } =
      { σ with posts := Function.update σ.posts c (some (post, stage)) } := by rw [← running]
  rw [hp]
  apply h.setPosts c
  · intro q s hq
    cases hq
    exact ⟨harr, hlen, hstage, fun _ hn => by rw [running] at hn; cases hn⟩
  · intro hfalse q v record hq
    cases hq
    exact hreg (Option.some.inj (running.symm.trans hfalse)) v record rfl

/-- The lookup of the key writes nothing. -/
theorem PostInv.look (h : PostInv store σ) {u : Upload} {p k : String} (running : σ.process = some i)
    (pending : σ.posts c = some (post, .looking u p k)) :
    PostInv store (σ.called store c post (.looking u p k) i draw) := by
  obtain ⟨harr, hlen, hprep, _⟩ := h.posts c post _ pending
  obtain ⟨next, he, hlook⟩ := next_looking store draw (σ.stores i) u p k
  rw [called_same he rfl]
  cases hlook with
  | fails => exact h.moved running pending trivial fun _ _ _ hs => by cases hs
  | free => exact h.moved running pending hprep fun _ _ _ hs => by cases hs
  | refused => exact h.moved running pending trivial fun _ _ _ hs => by cases hs
  | bound row hrow hkey prior hread candidate ho =>
    refine h.moved running pending ⟨hprep, Or.inr ⟨row, hrow, overlay_row hread ho⟩⟩ fun hi _ _ _ => ?_
    have hrow' : row ∈ σ.db.artifacts := hrow
    rw [(h.flag (by rw [running, hi])).1] at hrow'
    cases hrow'

/-- The put of the bytes. -/
theorem PostInv.storing (h : PostInv store σ) {u : Upload} (running : σ.process = some i)
    (pending : σ.posts c = some (post, .storing u)) (fresh : newArtifactId draw.uuid4 ∉ σ.used) :
    PostInv store (σ.called store c post (.storing u) i draw) := by
  obtain ⟨harr, hlen, hprep⟩ := h.posts c post _ pending
  rcases hput : store.put σ.volume i u.args draw.uuid4 draw.now with ⟨res, w, j⟩
  have hinv := h.put running hput fresh ⟨post, harr, (prepare_ok hprep).data.symm⟩
  have hpending : { σ with volume := w, process := some j, used := newArtifactId draw.uuid4 :: σ.used }.posts c =
      some (post, .storing u) := pending
  cases res with
  | error e =>
    rw [called_put_error hput]
    exact hinv.moved rfl hpending trivial fun _ _ _ hs => by cases hs
  | ok r =>
    obtain ⟨_, hr, hj, _⟩ := FsStore.put_ok hput
    have hleaves : PutLeaves store σ.volume w (newArtifactId draw.uuid4 :: σ.used) u.args r :=
      put_leaves hput (h.sidecar_fresh fresh) List.mem_cons_self
    rw [called_put hput]
    refine hinv.moved rfl hpending ⟨hprep, Or.inl ⟨r, ⟨hprep, ⟨_, _, hr⟩, ?_⟩, rfl⟩⟩ fun hfalse _ _ _ => ?_
    · rw [contents_present hleaves.present]
      exact hleaves.stored
    · rw [hj] at hfalse
      cases hfalse

/-- The registration of the record. -/
theorem PostInv.registering (h : PostInv store σ) {u : Upload} {record : ArtifactRecord}
    (running : σ.process = some i)
    (pending : σ.posts c = some (post, .registering u record)) :
    PostInv store (σ.called store c post (.registering u record) i draw) := by
  obtain ⟨harr, hlen, hprep, hfrom⟩ := h.posts c post _ pending
  cases hreg : registerArtifact store.env σ.db record (u.scope.map Prod.snd) (u.scope.map Prod.fst) with
  | error e =>
    have hnext : (PostStage.registering u record).next store draw (σ.stores i) =
      (.answered (.error e), σ.stores i) :=
      next_registering_error hreg
    rw [called_same hnext rfl]
    exact h.moved running pending trivial fun _ _ _ hs => by cases hs
  | ok x =>
    obtain ⟨a, db⟩ := x
    rcases registerArtifact_ok hreg with rfl | ⟨rfl, hrun, hevidence, hfresh⟩
    · have hnext : (PostStage.registering u record).next store draw (σ.stores i) =
        (.answered (.ok a), σ.stores i) :=
        next_registering_ok hreg
      rw [called_same hnext rfl]
      exact h.moved running pending trivial fun _ _ _ hs => by cases hs
    · have hvalid : record.Valid := by
        rcases hfrom with ⟨r, hk, rfl⟩ | ⟨row, hrow, hid⟩
        · exact valid_attached hk.stored.valid h.reached.wellFormed hrun hevidence
        · exact absurd hid (hfresh row hrow)
      have hvalid' : (Write.registerArtifact record (u.scope.map Prod.snd) (u.scope.map Prod.fst)).Valid := hvalid
      have hcommit : (Write.registerArtifact record (u.scope.map Prod.snd)
        (u.scope.map Prod.fst)).run store.env σ.db =
          .ok (.artifact a, { σ.db with artifacts := σ.db.artifacts ++
            [record.toRow store.env (u.scope.map Prod.snd) (u.scope.map Prod.fst)] }) := by
        show asReply Reply.artifact (registerArtifact store.env σ.db record _ _) = _
        rw [hreg]
        rfl
      have hinv := h.insert (.commit h.reached hvalid' hcommit) pending rfl hfresh
      rw [called_inserted hreg]
      exact hinv.moved running pending trivial fun _ _ _ hs => by cases hs

end call

/-! ## Every event -/

theorem PostInv.started (h : PostInv store σ) {failure : Option Exc} {now : DateTime} (stopped : σ.process = none)
    (sane : Sane σ (.start failure now)) {o : FsObject}
    (ho : initialiseArtifactStoreIfSafe store
      (failure.elim (queryArtifacts σ.db none none 1 0) .error) σ.volume now = o) :
    PostInv store { σ with volume := o.volume, process := some o.initialised } := by
  by_cases hp : σ.volume.backingPresent = true
  · rw [start_present hp] at ho
    rw [← ho]
    exact h.setProcess fun hn => by cases hn
  · have hp := Bool.eq_false_iff.2 hp
    rw [start_absent hp] at ho
    -- nothing runs, so that nothing is on its way to a row
    have hunwritten : σ.db.artifacts = [] → σ.Unwritten := fun hnone =>
      ⟨hnone, fun c post u record hc => h.live c post _ hc rfl stopped⟩
    cases failure with
    | some e =>
      have ho : (⟨σ.volume, false⟩ : FsObject) = o := ho
      rw [← ho]
      exact h.setProcess fun _ => hunwritten (sane hp)
    | none =>
      dsimp only [Option.elim_none] at ho
      rw [holds_of_query h.reached.wellFormed] at ho
      cases hrows : σ.db.artifacts with
      | cons row rows =>
        rw [hrows] at ho
        have ho : (⟨σ.volume, true⟩ : FsObject) = o := ho
        rw [← ho]
        exact h.setProcess fun hn => by cases hn
      | nil =>
        rw [hrows] at ho
        have ho : (⟨initialise σ.volume now, true⟩ : FsObject) = o := ho
        rw [← ho]
        obtain ⟨hpresent, hblob, hside⟩ := initialise_files σ.volume now
        have hcontents : { σ with volume := initialise σ.volume now }.contents =
          initialise σ.volume now := if_pos hpresent
        have hempty := h.gone hp
        apply h.setFiles (fun hn => by rw [hpresent] at hn; cases hn) h.away
          (Or.inl (hunwritten hrows)) fun _ => id
        · intro id y hy
          rw [hcontents, hside, hempty] at hy
          cases hy
        · intro sha y hy
          rw [hcontents, hblob, hempty] at hy
          cases hy
        · intro c post stage _ _ hn
          cases hn
        · intro hn
          cases hn

theorem endPost_some {x : Option (ArtifactPost × PostStage)} {post : ArtifactPost} {stage : PostStage}
    (h : endPost x = some (post, stage)) : x = some (post, stage) ∧ ∃ result, stage = .answered result := by
  unfold endPost at h
  split at h
  · cases h
    exact ⟨rfl, _, rfl⟩
  · cases h

theorem PostInv.stopped (h : PostInv store σ) :
    PostInv store { σ with process := none, posts := fun c => endPost (σ.posts c) } := by
  refine { h with posts := fun c post stage hc => ?_, live := fun c post stage hc hr => ?_,
                  flag := fun hn => by cases hn }
  · exact h.posts c post stage (endPost_some hc).1
  · obtain ⟨_, result, rfl⟩ := endPost_some hc
    cases hr

theorem PostInv.crashed [DecidableEq C] (h : PostInv store σ) (c : C) :
    PostInv store { σ with posts := Function.update σ.posts c (endPost (σ.posts c)) } := by
  apply h.setPosts c
  · intro post stage hc
    obtain ⟨hc, result, rfl⟩ := endPost_some hc
    obtain ⟨harr, hlen, hok⟩ := h.posts c post _ hc
    exact ⟨harr, hlen, hok, fun hn => by cases hn⟩
  · intro _ post u record hc
    obtain ⟨_, result, hn⟩ := endPost_some hc
    cases hn

/-- A request is let in with what its handler makes of it. -/
theorem arrive_stage (post : ArtifactPost) : StageOk store σ post (post.arrive store.maxBytes) ∧
    ∀ u record, post.arrive store.maxBytes ≠ .registering u record := by
  unfold ArtifactPost.arrive
  split
  · exact ⟨trivial, fun _ _ hn => by cases hn⟩
  · next u hu =>
    split
    · next hs => exact ⟨⟨hu, hs⟩, fun _ _ hn => by cases hn⟩
    · exact ⟨hu, fun _ _ hn => by cases hn⟩

theorem PostInv.letIn [DecidableEq C] (h : PostInv store σ) {i : Bool} (c : C) (post : ArtifactPost)
    (running : σ.process = some i) (bytes : post.data.length < 2 ^ 63) :
    PostInv store { σ with
      posts := Function.update σ.posts c (some (post, post.arrive store.maxBytes)),
      arrived := post :: σ.arrived } := by
  apply (h.arrived post).setPosts c
  · intro q stage hq
    cases hq
    exact ⟨List.mem_cons_self, bytes, (arrive_stage post).1, fun _ hn => by rw [running] at hn; cases hn⟩
  · intro _ q u record hq
    have hstage := congrArg Prod.snd (Option.some.inj hq)
    exact (@arrive_stage C store σ post).2 u record hstage

/-- Writes of other requests keep the artifacts' rows but for their links. -/
theorem artifacts_of_effect {env : Env} {db db' : Database} {w : Write} (h : Effect env db w db')
    (other : ∀ a k p, w ≠ .registerArtifact a k p) :
    (∀ row ∈ db'.artifacts, ∃ old ∈ db.artifacts, ∃ e l, row = old.linked e l) ∧
      ∀ row ∈ db.artifacts, ∃ row' ∈ db'.artifacts, row'.artifactId = row.artifactId := by
  have hsame : ∀ row ∈ db.artifacts, ∃ old ∈ db.artifacts, ∃ e l, row = old.linked e l := fun row hrow =>
    ⟨row, hrow, row.evidenceId, row.runId, rfl⟩
  have hkeep : ∀ row ∈ db.artifacts, ∃ row' ∈ db.artifacts, row'.artifactId = row.artifactId := fun row hrow =>
    ⟨row, hrow, rfl⟩
  cases h with
  | artifact a k p => exact absurd rfl (other a k p)
  | attach i e r e' r' =>
    constructor
    · intro row hrow
      obtain ⟨old, hold, rfl⟩ := List.mem_map.1 hrow
      by_cases hi : (old.artifactId == i) = true
      · rw [if_pos hi]
        exact ⟨old, hold, e', r', rfl⟩
      · rw [if_neg hi]
        exact hsame old hold
    · intro row hrow
      refine ⟨_, List.mem_map_of_mem hrow, ?_⟩
      by_cases hi : (row.artifactId == i) = true
      · rw [if_pos hi]
        rfl
      · rw [if_neg hi]
  | _ => exact ⟨hsame, hkeep⟩

theorem PostInv.written (h : PostInv store σ) {w : Write} {rep : Reply} {db : Database} (valid : w.Valid)
    (other : ∀ a k p, w ≠ .registerArtifact a k p) (run : w.run store.env σ.db = .ok (rep, db)) :
    PostInv store { σ with db := db } := by
  obtain ⟨hrows, hkeep⟩ := artifacts_of_effect (effect_of_run run) other
  exact h.setDb (.commit h.reached valid run) hrows hkeep

theorem PostInv.probed (h : PostInv store σ) {i : Bool} (running : σ.process = some i) :
    PostInv store { σ with process := some (store.health σ.volume i).2 } := by
  apply h.setProcess
  unfold FsStore.health
  by_cases hp : σ.volume.backingPresent = true
  · rw [if_pos hp]
    intro hn
    cases hn
  · rw [if_neg hp]
    intro hi
    exact h.flag (by rw [running]; exact congrArg some hi)

theorem PostInv.lost_ (h : PostInv store σ) (present : σ.volume.backingPresent = true) :
    PostInv store { σ with volume := .empty, lost := σ.volume } := by
  apply h.setPlace
  · exact fun _ => rfl
  · intro hn
    rw [present] at hn
    cases hn
  · exact (contents_present present).symm

theorem PostInv.restored (h : PostInv store σ) (absent : σ.volume.backingPresent = false) :
    PostInv store { σ with volume := σ.lost } := by
  apply h.setPlace h.away h.away
  rw [contents_absent absent]
  unfold PostState.contents
  exact ite_self _

/-- **One event keeps what holds**, unless it is a start that cannot ask over a lost volume. -/
theorem PostInv.step [DecidableEq C] {e : PostEvent C} (h : PostInv store σ) (sane : Sane σ e)
    (step : PostStep store σ e τ) :
    PostInv store τ := by
  cases step with
  | start failure now stopped => exact h.started stopped sane rfl
  | stop => exact h.stopped
  | arrive c post i running idle bytes => exact h.letIn c post running bytes
  | call c draw post stage i running pending unanswered fresh =>
    cases stage with
    | looking u p k => exact h.look running pending
    | storing u => exact h.storing running pending fresh
    | registering u record => exact h.registering running pending
    | answered result => cases unanswered
  | crash c => exact h.crashed c
  | write w i running valid other rep db run => exact h.written valid other run
  | health i running => exact h.probed running
  | lose present => exact h.lost_ present
  | restore absent => exact h.restored absent

theorem PostRun.inv [DecidableEq C] {ok : PostState C → PostEvent C → Prop}
    (run : PostRun store ok σ τ) (h : PostInv store σ)
    (sane : ∀ υ e, PostInv store υ → ok υ e → Sane υ e) : PostInv store τ := by
  induction run with
  | refl => exact h
  | step _ good step ih => exact ih.step (sane _ _ ih good) step

/-! ## What only grows -/

/-- Nothing that was recorded is forgotten. -/
structure PostState.Later (σ τ : PostState C) : Prop where
  db : σ.db.Extends τ.db
  used : ∀ id ∈ σ.used, id ∈ τ.used
  arrived : ∀ post ∈ σ.arrived, post ∈ τ.arrived
  created : ∀ x ∈ σ.created, x ∈ τ.created

theorem PostState.Later.refl (σ : PostState C) : σ.Later σ := ⟨.refl _, fun _ => id, fun _ => id, fun _ => id⟩

theorem PostState.Later.trans {υ : PostState C} (h : σ.Later τ) (h' : τ.Later υ) : σ.Later υ :=
  ⟨h.db.trans h'.db, fun _ hx => h'.used _ (h.used _ hx), fun _ hx => h'.arrived _ (h.arrived _ hx),
    fun _ hx => h'.created _ (h.created _ hx)⟩

/-- A row keeps its identity and its key. -/
theorem PostState.Later.row (h : σ.Later τ) {row : ArtifactRow} (hrow : row ∈ σ.db.artifacts) :
    ∃ row' ∈ τ.db.artifacts, row'.artifactId = row.artifactId ∧ row'.key = row.key := by
  obtain ⟨row', hrow', hsame, _⟩ := h.db.artifacts.mem hrow
  refine ⟨row', hrow', ?_, ?_⟩
  · rw [hsame]
  · rw [hsame]
    rfl

/-- What a call of the metadata store leaves of it. -/
theorem next_extends {stage : PostStage} {draw : Draw} {s : Stores} (h : WellFormed store.env s.db) :
    s.db.Extends (stage.next store draw s).2.db := by
  cases stage with
  | answered result => exact .refl _
  | looking u p k =>
    obtain ⟨next, he, _⟩ := next_looking store draw s u p k
    rw [he]
    exact .refl _
  | storing u =>
    rcases hput : store.put s.volume s.initialised u.args draw.uuid4 draw.now with ⟨res, w, j⟩
    cases res with
    | error e =>
      rw [next_storing_error hput]
      exact .refl _
    | ok r =>
      rw [next_storing_ok hput]
      exact .refl _
  | registering u record =>
    cases hreg : registerArtifact store.env s.db record (u.scope.map Prod.snd) (u.scope.map Prod.fst) with
    | error e =>
      rw [next_registering_error hreg]
      exact .refl _
    | ok x =>
      obtain ⟨a, db⟩ := x
      rw [next_registering_ok hreg]
      have hrun : (Write.registerArtifact record (u.scope.map Prod.snd)
        (u.scope.map Prod.fst)).run store.env s.db =
          .ok (.artifact a, db) := by
        show asReply Reply.artifact (registerArtifact store.env s.db record _ _) = _
        rw [hreg]
        rfl
      exact h.extends (effect_of_run hrun)

theorem PostInv.called_later [DecidableEq C] (h : PostInv store σ) (c : C) (post : ArtifactPost)
    (stage : PostStage) (i : Bool)
    (draw : Draw) : σ.Later (σ.called store c post stage i draw) :=
  ⟨@next_extends store stage draw (σ.stores i) h.reached.wellFormed,
    fun _ hx => List.mem_append_right _ hx, fun _ => id,
    fun _ hx => List.mem_append_right _ hx⟩

theorem PostStep.later [DecidableEq C] {e : PostEvent C} (h : PostInv store σ)
    (step : PostStep store σ e τ) : σ.Later τ := by
  have hrefl := PostState.Later.refl σ
  cases step with
  | start | stop | crash | health | lose | restore => exact { hrefl with }
  | arrive c post => exact { hrefl with arrived := fun _ hx => List.mem_cons_of_mem _ hx }
  | write w i _ valid other rep db run =>
    exact { hrefl with db := h.reached.wellFormed.extends (effect_of_run run) }
  | call c draw post stage i => exact h.called_later c post stage i draw

end invariant

end Cer.Api
