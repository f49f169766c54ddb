import Cer.Api.ArtifactOrphans

/-!
# Registrations that race for one key

Between the lookup of a key and the registration under it, any number of other requests may
register.  `registrations_agree`: whoever is first, the requests under one key agree on his
row; the ones of the same content are answered with its identity, the others with a conflict.
-/

namespace Cer.Api

open Py

/-! ## The requests of one key -/

/-- What the fingerprint of the key will cover. -/
def ArtifactPost.content (env : Env) (post : ArtifactPost) : String × Int × String × String :=
  (env.sha256 post.data, post.data.length, resolveArtifactContentType post.contentType post.contentTypeDeclared,
    post.filename.getD "")

structure ArtifactPost.Under (p k : String) (post : ArtifactPost) : Prop where
  producer : post.producer = some p
  key : post.idempotencyKey = some k

/-- The handler and `put` have nothing against the request itself. -/
structure ArtifactPost.Proper (store : FsStore) (post : ArtifactPost) : Prop where
  filename : ∃ f, post.filename = some f ∧ strip f ≠ ""
  size : post.data.length ≤ store.maxBytes
  declared : ∀ d ∈ post.declaredSha256, lower d = store.env.sha256 post.data

/-- The run and the evidence record the request names exist. -/
structure ArtifactPost.Linkable (db : Database) (post : ArtifactPost) : Prop where
  run : ∀ i ∈ post.runId, db.hasRun i
  evidence : ∀ i ∈ post.evidenceId, db.hasEvidence i

/-- No store fails and nothing stops, and the requests of the key are proper and name what exists. -/
def Racing {C : Type} (store : FsStore) (p k : String) (σ : PostState C) (e : PostEvent C) : Prop :=
  Unfailing e ∧ ∀ c post, e = .arrive c post → post.Under p k → post.Proper store ∧ post.Linkable σ.db

theorem Racing.of_unfailing {C : Type} {store : FsStore} {p k : String} {σ : PostState C} {e : PostEvent C}
    (h : Unfailing e) (hne : ∀ c post, e ≠ .arrive c post) : Racing store p k σ e :=
      ⟨h, fun c post he => absurd he (hne c post)⟩

/-- The digest tells the bytes of these requests apart, and the texts under their keys' fingerprints. -/
structure CollisionFree (store : FsStore) (posts : List ArtifactPost) : Prop where
  bytes : ∀ q ∈ posts, ∀ q' ∈ posts, store.env.sha256 q.data = store.env.sha256 q'.data → q.data = q'.data
  texts : ∀ q ∈ posts, ∀ q' ∈ posts, ∀ r r' : ArtifactRecord, r.content = q.content store.env →
    r'.content = q'.content store.env → store.env.NoCollision (canonical store.env r.dump artifactIdemFpExclude)
      (canonical store.env r'.dump artifactIdemFpExclude)

theorem CollisionFree.mono {store : FsStore} {posts posts' : List ArtifactPost} (h : CollisionFree store posts')
    (hsub : ∀ q ∈ posts, q ∈ posts') : CollisionFree store posts :=
  ⟨fun q hq q' hq' => h.bytes q (hsub q hq) q' (hsub q' hq'),
    fun q hq q' hq' => h.texts q (hsub q hq) q' (hsub q' hq')⟩

/-! ## Contents -/

section content
variable {store : FsStore} {post : ArtifactPost} {u : Upload} {p k : String}

theorem resolveArtifactContentType_not_blank (transport declared : Option String) :
    strip (resolveArtifactContentType transport declared) ≠ "" := by
  unfold resolveArtifactContentType
  cases h : ([declared, transport].filterMap id).find? fun c => !isBlank c && !isFormEncodedMediaType c with
  | none =>
    dsimp only
    rw [h]
    show strip defaultArtifactContentType ≠ ""
    decide
  | some c =>
    dsimp only
    rw [h]
    have hc := List.find?_some h
    intro he
    simp [isBlank] at hc
    exact hc.1.2 he

theorem Prepared.scope (h : Prepared store.maxBytes post u) (under : post.Under p k) (given : k ≠ "") :
    u.scope = some (p, k) := by
  cases hs : u.scope with
  | none =>
    have hk := h.unkeyed hs
    rw [under.key, truthy_some given] at hk
    cases hk
  | some pk =>
    obtain ⟨hp, hk, _⟩ := h.keyed pk.1 pk.2 hs
    rw [under.producer] at hp
    rw [under.key] at hk
    obtain rfl := Option.some.inj hp
    obtain rfl := Option.some.inj hk
    rfl

/-- A request under the key comes to an upload under it. -/
theorem Prepared.under (h : Prepared store.maxBytes post u) (hs : u.scope = some (p, k)) : post.Under p k := by
  obtain ⟨hp, hk, _⟩ := h.keyed p k hs
  exact ⟨hp, hk⟩

theorem Prepared.content (h : Prepared store.maxBytes post u) :
    (store.env.sha256 u.args.data, (u.args.data.length : Int), u.args.contentType, u.args.filename) =
      post.content store.env := by
  obtain ⟨f, hf, _, hu⟩ := h.upload
  unfold ArtifactPost.content
  rw [hu, hf]
  rfl

theorem prepare_proper (proper : post.Proper store) (under : post.Under p k) (given : k ≠ "")
    (named : strip p ≠ "") :
    ∃ u, post.prepare store.maxBytes = .ok u := by
  obtain ⟨f, hf, hblank⟩ := proper.filename
  refine ⟨_, prepare_keyed hf ?_ proper.size under.producer under.key given named⟩
  rintro rfl
  exact hblank strip_empty

/-- `put` accepts what a proper request has come to. -/
theorem checkPut_proper (h : Prepared store.maxBytes post u) (proper : post.Proper store) :
    store.checkPut u.args = .ok () := by
  obtain ⟨f, hf, _, hu⟩ := h.upload
  obtain ⟨f', hf', hblank⟩ := proper.filename
  obtain rfl := Option.some.inj (hf.symm.trans hf')
  have hsize := proper.size
  have htype := resolveArtifactContentType_not_blank post.contentType post.contentTypeDeclared
  rw [hu]
  unfold FsStore.checkPut ArtifactPost.upload
  dsimp only
  rw [if_neg (by simpa using htype), if_neg (by simpa using hblank), if_neg (by omega)]
  cases hd : post.declaredSha256 with
  | none => rfl
  | some d => exact if_neg (not_not_intro (proper.declared d hd))

theorem not_digestDiffers (h : Prepared store.maxBytes post u) (proper : post.Proper store) :
    ¬ DigestDiffers store.env u.args := by
  obtain ⟨f, _, _, hu⟩ := h.upload
  rintro ⟨d, hd, hne⟩
  rw [hu] at hd hne
  exact hne (proper.declared d hd)

theorem content_attached (r : ArtifactRecord) : (u.attached r).content = r.content := by
  unfold Upload.attached
  split
  · rfl
  · rfl

/-- The links of what was put are those the request names. -/
theorem Prepared.links (h : Prepared store.maxBytes post u) (x : UuidHex) (now : DateTime) :
    (∀ i ∈ (u.attached (store.newRecord u.args x now)).runId, i ∈ post.runId) ∧
      ∀ i ∈ (u.attached (store.newRecord u.args x now)).evidenceId, i ∈ post.evidenceId := by
  obtain ⟨f, _, _, hu⟩ := h.upload
  unfold Upload.attached
  split
  · rw [hu]
    exact ⟨fun _ => id, fun _ => id⟩
  · constructor
    · intro i hi
      cases hi
    · intro i hi
      cases hi

theorem Kept.content {v : Volume} {used : List String} {r : ArtifactRecord} (h : Kept store v used post u r) :
    r.content = post.content store.env := by
  obtain ⟨x, now, rfl⟩ := h.made
  exact (prepare_ok h.prepared).content

/-- What is read from a row has the row's content and its links. -/
theorem read_row {db : Database} (hdb : WellFormed store.env db) {row : ArtifactRow} (hrow : row ∈ db.artifacts)
    {r : ArtifactRecord} (h : rowToArtifact row = .ok r) :
    r.content = (row.sha256, row.sizeBytes, row.contentType, row.filename) ∧ r.runId = row.runId ∧
      r.evidenceId = row.evidenceId := by
  obtain ⟨a, l, q, _, rfl, hread⟩ := (hdb.artifacts.origin row hrow).read
  obtain rfl := Except.ok.inj (h.symm.trans hread)
  exact ⟨rfl, rfl, rfl⟩

/-- The lookup answers under a producer that is not blank. -/
theorem findArtifact_total {db : Database} (hdb : WellFormed store.env db) (named : strip p ≠ "") :
    ∃ found, findArtifactByIdempotencyKey db (some p) k = .ok found := by
  have hb : (strip p == "") = false := by simpa using named
  unfold findArtifactByIdempotencyKey Cer.requireProducerForKey
  simp only [hb, Bool.false_eq_true, if_false, ok_bind]
  cases hf : db.artifacts.find? fun row => row.key == some (p, k) with
  | none => exact ⟨none, rfl⟩
  | some row =>
    obtain ⟨a, _, _, _, _, hread⟩ := (hdb.artifacts.origin row (List.mem_of_find?_eq_some hf)).read
    refine ⟨some a, ?_⟩
    dsimp only
    rw [hread]
    rfl

theorem overlay_candidate {prior candidate : ArtifactRecord} (h : u.overlay store.env prior = .ok candidate) :
    candidate = u.candidate store.env prior := by
  unfold Upload.overlay at h
  dsimp only at h
  split at h
  · cases h
  · exact (Except.ok.inj h).symm

end content

/-! ## What holds in a race -/

section race
variable {C : Type} (store : FsStore) (p k : String)

def KeyTaken (db : Database) : Prop := ∃ row ∈ db.artifacts, row.key = some (p, k)

/-- What a request of the key is owed once a row is bound to it. -/
def Settled (σ : PostState C) (post : ArtifactPost) (result : Except Exc ArtifactRecord) : Prop :=
  ∃ row ∈ σ.db.artifacts, row.key = some (p, k) ∧ ∃ first, (row.artifactId, first) ∈ σ.created ∧
    (post.content store.env = first.content store.env → ∃ a, result = .ok a ∧ a.artifactId = row.artifactId) ∧
      (post.content store.env ≠ first.content store.env → ∃ m, result = .error (idempotencyConflict m))

/-- A record on its way has the request's content, and either the key is taken or its identity is free. -/
def RaceStage (σ : PostState C) (post : ArtifactPost) : PostStage → Prop
  | .registering _ record => record.content = post.content store.env ∧ (∀ i ∈ record.runId, σ.db.hasRun i) ∧
      (∀ i ∈ record.evidenceId, σ.db.hasEvidence i) ∧
        (KeyTaken p k σ.db ∨ ∀ row ∈ σ.db.artifacts, row.artifactId ≠ record.artifactId)
  | .answered result => Settled store p k σ post result
  | _ => True

structure Race (σ : PostState C) : Prop where
  ready : σ.process = some true → σ.volume.backingPresent = true
  apart : ∀ c d post post' u u' record record', σ.posts c = some (post, .registering u record) →
    σ.posts d = some (post', .registering u' record') → record.artifactId = record'.artifactId →
      c = d ∨ ∃ row ∈ σ.db.artifacts, row.artifactId = record.artifactId
  asked : ∀ c post stage, σ.posts c = some (post, stage) → post.Under p k →
    post.Proper store ∧ post.Linkable σ.db ∧ RaceStage store p k σ post stage

variable {store p k} {σ τ : PostState C}

theorem Race.start : Race store p k (.start C) where
  ready h := by cases h
  apart c d post post' u u' record record' h := by cases h
  asked c post stage h := by cases h

theorem KeyTaken.later (h : KeyTaken p k σ.db) (hlater : σ.Later τ) : KeyTaken p k τ.db := by
  obtain ⟨row, hrow, hkey⟩ := h
  obtain ⟨row', hrow', _, hkey'⟩ := hlater.row hrow
  exact ⟨row', hrow', hkey'.trans hkey⟩

theorem Settled.later {post : ArtifactPost} {result : Except Exc ArtifactRecord}
    (h : Settled store p k σ post result)
    (hlater : σ.Later τ) : Settled store p k τ post result := by
  obtain ⟨row, hrow, hkey, first, hcreated, hsame, hother⟩ := h
  obtain ⟨row', hrow', hid, hkey'⟩ := hlater.row hrow
  refine ⟨row', hrow', hkey'.trans hkey, first, ?_, ?_, hother⟩
  · rw [hid]
    exact hlater.created _ hcreated
  · rw [hid]
    exact hsame

theorem ArtifactPost.Linkable.later {post : ArtifactPost} (h : post.Linkable σ.db) (hlater : σ.Later τ) :
    post.Linkable τ.db :=
  ⟨fun i hi => hlater.db.hasRun (h.run i hi), fun i hi => hlater.db.hasEvidence (h.evidence i hi)⟩

theorem PostInv.row_used (h : PostInv store σ) {row : ArtifactRow} (hrow : row ∈ σ.db.artifacts) :
    row.artifactId ∈ σ.used := by
  obtain ⟨post, u, r, e, l, _, hkept, rfl⟩ := h.rows row hrow
  exact hkept.stored.used

theorem PostInv.registering_used (h : PostInv store σ) {c : C} {post : ArtifactPost}
    {u : Upload} {record : ArtifactRecord}
    (hc : σ.posts c = some (post, .registering u record)) : record.artifactId ∈ σ.used := by
  rcases (h.posts c post _ hc).2.2.2 with ⟨r, hkept, rfl⟩ | ⟨row, hrow, hid⟩
  · rw [u.attached_artifactId]
    exact hkept.stored.used
  · rw [← hid]
    exact h.row_used hrow

/-- What one event may do to a race: one request moves on, and the only new row is the one that it registered. -/
theorem Race.next (h : Race store p k σ) (hinv : PostInv store σ) (hlater : σ.Later τ) (c : Option C)
    (hready : τ.process = some true → τ.volume.backingPresent = true)
    (hids : ∀ row ∈ τ.db.artifacts, (∃ old ∈ σ.db.artifacts, old.artifactId = row.artifactId) ∨
      ∃ d post u record, c = some d ∧ σ.posts d = some (post, .registering u record) ∧
      record.artifactId = row.artifactId)
    (hposts : ∀ d post stage, τ.posts d = some (post, stage) → c ≠ some d ∧ σ.posts d = some (post, stage) ∨
      c = some d ∧ (post.Under p k → post.Proper store ∧ post.Linkable τ.db ∧ RaceStage store p k τ post stage) ∧
        ∀ u record, stage = .registering u record →
          (∃ row ∈ τ.db.artifacts, row.artifactId = record.artifactId) ∨ record.artifactId ∉ σ.used) :
    Race store p k τ := by
  have hrowLater : ∀ {id}, (∃ row ∈ σ.db.artifacts, row.artifactId = id) →
    ∃ row ∈ τ.db.artifacts, row.artifactId = id := by
    rintro id ⟨row, hrow, rfl⟩
    obtain ⟨row', hrow', hid, _⟩ := hlater.row hrow
    exact ⟨row', hrow', hid⟩
  refine ⟨hready, fun d e post post' u u' record record' hd he hid => ?_, fun d post stage hd under => ?_⟩
  · rcases hposts d post _ hd with ⟨_, hd'⟩ | ⟨hcd, _, hnewd⟩
    · rcases hposts e post' _ he with ⟨_, he'⟩ | ⟨hce, _, hnewe⟩
      · exact (h.apart d e post post' u u' record record' hd' he' hid).imp id hrowLater
      · rcases hnewe u' record' rfl with hrow | hfresh
        · rw [hid]
          exact Or.inr hrow
        · exact absurd (hid ▸ hinv.registering_used hd') hfresh
    · rcases hposts e post' _ he with ⟨_, he'⟩ | ⟨hce, _, hnewe⟩
      · rcases hnewd u record rfl with hrow | hfresh
        · exact Or.inr hrow
        · exact absurd (hid ▸ hinv.registering_used he') hfresh
      · exact Or.inl (Option.some.inj (hcd.symm.trans hce))
  · rcases hposts d post stage hd with ⟨hcd, hd'⟩ | ⟨_, hnew, _⟩
    · obtain ⟨hproper, hlink, hstage⟩ := h.asked d post stage hd' under
      refine ⟨hproper, hlink.later hlater, ?_⟩
      cases stage with
      | looking u p k => trivial
      | storing u => trivial
      | answered result => exact hstage.later hlater
      | registering u record =>
        obtain ⟨hcontent, hrun, hevidence, hfree⟩ := hstage
        refine ⟨hcontent, fun i hi => hlater.db.hasRun (hrun i hi),
          fun i hi => hlater.db.hasEvidence (hevidence i hi), ?_⟩
        rcases hfree with htaken | hfree
        · exact Or.inl (htaken.later hlater)
        · right
          intro row hrow hid
          rcases hids row hrow with ⟨old, hold, hoid⟩ | ⟨e, post', u', record', hce, he, hrid⟩
          · exact hfree old hold (hoid.trans hid)
          · -- two records of one identity: one request, or a row that was there
            rcases h.apart d e post post' u u' record record' hd' he (hrid.trans hid).symm with rfl |
              ⟨old, hold, hoid⟩
            · exact hcd hce
            · exact hfree old hold hoid
    · exact hnew under

/-- Under a key that is taken, the content of its first request decides. -/
theorem PostInv.decides (hinv : PostInv store σ) (hcol : CollisionFree store σ.arrived) (named : strip p ≠ "")
    {post : ArtifactPost} {record : ArtifactRecord} (arrived : post ∈ σ.arrived)
    (hcontent : record.content = post.content store.env) (hrun : ∀ j ∈ record.runId, σ.db.hasRun j)
    (hevidence : ∀ j ∈ record.evidenceId, σ.db.hasEvidence j)
    (taken : KeyTaken p k σ.db) :
    ∃ row ∈ σ.db.artifacts, row.key = some (p, k) ∧ ∃ first, (row.artifactId, first) ∈ σ.created ∧
      (post.content store.env = first.content store.env ∧
          (∃ a, registerArtifact store.env σ.db record (some k) (some p) = .ok (a, σ.db) ∧
            a.artifactId = row.artifactId) ∨
        post.content store.env ≠ first.content store.env ∧
          ∃ m, registerArtifact store.env σ.db record (some k) (some p) = .error (idempotencyConflict m)) := by
  obtain ⟨row, hrow, hkey⟩ := taken
  have hdb := hinv.reached.wellFormed
  obtain ⟨first, u, r, e, l, hcreated, hkept, hrowKept⟩ := hinv.rows row hrow
  obtain ⟨a, k', p', _, horigin, hread⟩ := (hdb.artifacts.origin row hrow).read
  refine ⟨row, hrow, hkey, first, hcreated, ?_⟩
  have hfirst : a.content = first.content store.env := by
    rw [(read_row hdb hrow hread).1, hrowKept]
    exact hkept.content
  have hfp : (KeyedRow.artifact row).fp = some (a.idemFp store.env) := by
    rw [horigin] at hkey ⊢
    obtain ⟨_, hsome, _⟩ := Option.bind_eq_some_iff.1 (hkey : (a.toRow store.env k' p').key = _)
    cases k' with
    | none => cases hsome
    | some l => rfl
  have hsame := ArtifactRecord.idemFp_eq_iff
    (hcol.texts first (hinv.created _ hcreated).1 post arrived a record hfirst hcontent)
  rw [hfirst, hcontent] at hsame
  have hbound := hdb.run_bound (w := .registerArtifact record (some k) (some p)) (κ := .artifacts) rfl
    (List.mem_map_of_mem hrow) hkey ⟨hrun, hevidence⟩ fun _ => named
  by_cases hc : post.content store.env = first.content store.env
  · obtain ⟨rep, hrep, hrun⟩ := hbound.1 (hfp.trans (congrArg some (hsame.2 hc.symm)))
    obtain ⟨a', ha, rfl⟩ := asReply_ok hrun
    have hrep : (rowToArtifact row).map Reply.artifact = .ok (.artifact a') := hrep
    rw [hread] at hrep
    cases hrep
    exact Or.inl ⟨hc, a, ha, (artifactId_of_read hread).symm⟩
  · obtain ⟨m, hm⟩ := hbound.2 fun he => hc (hsame.1 (Option.some.inj (hfp.symm.trans he))).symm
    have hm : asReply Reply.artifact (registerArtifact store.env σ.db record (some k) (some p)) =
        .error (idempotencyConflict m) := hm
    refine Or.inr ⟨hc, m, ?_⟩
    cases hx : registerArtifact store.env σ.db record (some k) (some p) with
    | error e =>
      rw [hx] at hm
      cases hm
      rfl
    | ok y =>
      rw [hx] at hm
      cases hm

/-- How the registration of a request of the key ends: settled by the row the key has, or as the first. -/
theorem Race.outcome (h : Race store p k σ) (hinv : PostInv store σ)
    (hcol : CollisionFree store σ.arrived) (given : k ≠ "")
    (named : strip p ≠ "") {c : C} {post : ArtifactPost} {u : Upload} {record : ArtifactRecord}
    (pending : σ.posts c = some (post, .registering u record)) (under : post.Under p k) :
    (∃ result, registerArtifact store.env σ.db record (u.scope.map Prod.snd) (u.scope.map Prod.fst) =
        result.map (fun a => (a, σ.db)) ∧ Settled store p k σ post result) ∨
      registerArtifact store.env σ.db record (u.scope.map Prod.snd) (u.scope.map Prod.fst) =
        .ok (record, { σ.db with artifacts := σ.db.artifacts ++ [record.toRow store.env (some k) (some p)] }) := by
  obtain ⟨harr, _, hprep, _⟩ := hinv.posts c post _ pending
  obtain ⟨_, _, hcontent, hrun, hevidence, hfree⟩ := h.asked c post _ pending under
  have hscope := (prepare_ok hprep).scope under given
  by_cases taken : KeyTaken p k σ.db
  · left
    rw [hscope]
    obtain ⟨row, hrow, hkey, first, hcreated, ⟨hc, a, ha, hid⟩ | ⟨hc, m, hm⟩⟩ :=
      hinv.decides hcol named harr hcontent hrun hevidence taken
    · exact ⟨.ok a, ha, row, hrow, hkey, first, hcreated, fun _ => ⟨a, rfl, hid⟩, fun hn => absurd hc hn⟩
    · exact ⟨.error _, hm, row, hrow, hkey, first, hcreated, fun he => absurd he hc, fun _ => ⟨m, rfl⟩⟩
  · have hid : ∀ row ∈ σ.db.artifacts, row.artifactId ≠ record.artifactId := by
      rcases hfree with ht | hid
      · exact absurd ht taken
      · exact hid
    have hgood : Registrable σ.db u record := by
      refine ⟨hrun, hevidence, fun p' k' hs row hrow hkey => taken ⟨row, hrow, ?_⟩⟩
      rw [hkey, ← hs, hscope]
    have hreg := hinv.registers pending hgood hid
    rw [hscope] at hreg ⊢
    exact Or.inr hreg

theorem append_ne_self {db : Database} {row : ArtifactRow} :
    db ≠ { db with artifacts := db.artifacts ++ [row] } := by
  intro h
  have hlength := congrArg (fun x => x.artifacts.length) h
  simp at hlength

section call
variable [DecidableEq C] {c : C} {draw : Draw} {post : ArtifactPost} {stage : PostStage} {i : Bool}

/-- One request's call. -/
theorem Race.called (h : Race store p k σ) (hinv : PostInv store σ) (pending : σ.posts c = some (post, stage))
    (hready : (σ.called store c post stage i draw).process = some true →
      (σ.called store c post stage i draw).volume.backingPresent = true)
    (hids : ∀ row ∈ (σ.called store c post stage i draw).db.artifacts,
      (∃ old ∈ σ.db.artifacts, old.artifactId = row.artifactId) ∨
        ∃ u record, stage = .registering u record ∧ record.artifactId = row.artifactId)
    (hstage : post.Under p k → post.Proper store → post.Linkable σ.db → RaceStage store p k σ post stage →
      RaceStage store p k (σ.called store c post stage i draw) post (stage.next store draw (σ.stores i)).1)
    (hreg : ∀ u record, (stage.next store draw (σ.stores i)).1 = .registering u record →
      (∃ row ∈ (σ.called store c post stage i draw).db.artifacts, row.artifactId = record.artifactId) ∨
        record.artifactId ∉ σ.used) :
    Race store p k (σ.called store c post stage i draw) := by
  have hlater := hinv.called_later c post stage i draw
  apply h.next hinv hlater (some c) hready
  · intro row hrow
    rcases hids row hrow with hold | ⟨u, record, hs, hid⟩
    · exact Or.inl hold
    · rw [hs] at pending
      exact Or.inr ⟨c, post, u, record, rfl, pending, hid⟩
  · intro d q s hd
    by_cases hdc : d = c
    · have hself : (σ.called store c post stage i draw).posts c =
        some (post, (stage.next store draw (σ.stores i)).1) :=
        Function.update_self ..
      rw [hdc, hself] at hd
      cases hd
      refine Or.inr ⟨by rw [hdc], fun under => ?_, hreg⟩
      obtain ⟨hproper, hlink, hold⟩ := h.asked c post stage pending under
      exact ⟨hproper, hlink.later hlater, hstage under hproper hlink hold⟩
    · have hother : (σ.called store c post stage i draw).posts d = σ.posts d := Function.update_of_ne hdc _ _
      rw [hother] at hd
      exact Or.inl ⟨fun hcd => hdc (Option.some.inj hcd).symm, hd⟩

theorem Race.look (h : Race store p k σ) (hinv : PostInv store σ) (given : k ≠ "") (named : strip p ≠ "")
    (running : σ.process = some i) {u : Upload} {p' k' : String}
    (pending : σ.posts c = some (post, .looking u p' k')) :
    Race store p k (σ.called store c post (.looking u p' k') i draw) := by
  obtain ⟨_, _, hprep, hscope⟩ := hinv.posts c post _ pending
  have hprepared := prepare_ok hprep
  obtain ⟨next, he, hlook⟩ := next_looking store draw (σ.stores i) u p' k'
  have hcalled := @called_same C _ store σ c draw post i _ _ he rfl
  apply h.called hinv pending
  · rw [hcalled]
    intro hp
    exact h.ready (running.trans hp)
  · rw [hcalled]
    exact fun row hrow => Or.inl ⟨row, hrow, rfl⟩
  · intro under hproper hlink _
    rw [he, hcalled]
    have hpair : some (p', k') = some (p, k) := hscope.symm.trans (hprepared.scope under given)
    cases hpair
    have hdb := hinv.reached.wellFormed
    cases hlook with
    | fails e hfind =>
      obtain ⟨found, hok⟩ := @findArtifact_total store p k σ.db hdb named
      have hfind : findArtifactByIdempotencyKey σ.db (some p) k = .error e := hfind
      rw [hok] at hfind
      cases hfind
    | free => trivial
    | refused prior e ho =>
      unfold Upload.overlay at ho
      dsimp only at ho
      rw [if_neg (not_digestDiffers hprepared hproper)] at ho
      cases ho
    | bound row hrow hkey prior hread candidate ho =>
      obtain ⟨_, hrun, hevidence⟩ := read_row hdb hrow hread
      rw [overlay_candidate ho]
      refine ⟨hprepared.content, fun j hj => ?_, fun j hj => ?_, Or.inl ⟨row, hrow, hkey⟩⟩
      · have hj : j ∈ prior.runId := hj
        rw [hrun] at hj
        exact hdb.artifactRun row hrow j hj
      · have hj : j ∈ prior.evidenceId := hj
        rw [hevidence] at hj
        exact hdb.artifactEvidence row hrow j hj
  · intro v record hn
    rw [he] at hn
    have hn : next = .registering v record := hn
    rw [hn] at hlook
    rw [hcalled]
    cases hlook with
    | bound row hrow hkey prior hread _ ho => exact Or.inl ⟨row, hrow, overlay_row hread ho⟩

theorem Race.storing (h : Race store p k σ) (hinv : PostInv store σ) (hcol : CollisionFree store σ.arrived)
    (running : σ.process = some i) {u : Upload} (pending : σ.posts c = some (post, .storing u))
    (fresh : newArtifactId draw.uuid4 ∉ σ.used) : Race store p k (σ.called store c post (.storing u) i draw) := by
  obtain ⟨harr, _, hprep⟩ := hinv.posts c post _ pending
  have hprepared := prepare_ok hprep
  rcases hput : store.put σ.volume i u.args draw.uuid4 draw.now with ⟨res, w, j⟩
  have hready : j = true → w.backingPresent = true := by
    rcases (put_keeps hput (hinv.sidecar_fresh fresh)).layout with ⟨rfl, rfl⟩ | ⟨hp, _⟩
    · intro hj
      exact h.ready (running.trans (congrArg some hj))
    · exact fun _ => hp
  -- a proper request's bytes go through: other bytes of their digest were never put
  have hok : post.Proper store → ∃ r, res = .ok r := by
    intro hproper
    have hlayout : σ.volume.backingPresent = true ∨ i = false := by
      cases i with
      | false => exact Or.inr rfl
      | true => exact Or.inl (h.ready running)
    have hblob : ∀ y, σ.volume.blob (store.computed u.args) = some y → y = u.args.data := by
      intro y hy
      by_cases hp : σ.volume.backingPresent = true
      · rw [← contents_present hp] at hy
        obtain ⟨hsha, q, hq, rfl⟩ := hinv.blobs _ y hy
        have hsha : store.env.sha256 u.args.data = store.env.sha256 q.data := hsha
        rw [hprepared.data] at hsha ⊢
        exact (hcol.bytes post harr q hq hsha).symm
      · rw [hinv.gone (Bool.eq_false_iff.2 hp)] at hy
        cases hy
    obtain ⟨w', hput'⟩ := put_new (checkPut_proper hprepared hproper) hlayout hblob draw.uuid4 draw.now
    rw [hput] at hput'
    exact ⟨_, congrArg Prod.fst hput'⟩
  cases res with
  | error e =>
    have hcalled := @called_put_error C _ store σ c draw post i u e w j hput
    have hnext := congrArg Prod.fst (@next_storing_error store draw (σ.stores i) u e w j hput)
    apply h.called hinv pending
    · rw [hcalled]
      exact fun hj => hready (Option.some.inj hj)
    · rw [hcalled]
      exact fun row hrow => Or.inl ⟨row, hrow, rfl⟩
    · intro _ hproper
      obtain ⟨r, hr⟩ := hok hproper
      cases hr
    · intro v record hn
      rw [hnext] at hn
      cases hn
  | ok r =>
    obtain ⟨_, hr, _⟩ := FsStore.put_ok hput
    have hcalled := @called_put C _ store σ c draw post i u r w j hput
    have hnext := congrArg Prod.fst (@next_storing_ok store draw (σ.stores i) u r w j hput)
    have hid : (u.attached r).artifactId = newArtifactId draw.uuid4 := by
      rw [u.attached_artifactId, hr]
      rfl
    apply h.called hinv pending
    · rw [hcalled]
      exact fun hj => hready (Option.some.inj hj)
    · rw [hcalled]
      exact fun row hrow => Or.inl ⟨row, hrow, rfl⟩
    · intro _ _ hlink _
      obtain ⟨hrun, hevidence⟩ := hprepared.links draw.uuid4 draw.now
      rw [hnext, hcalled]
      refine ⟨?_, fun j hj => ?_, fun j hj => ?_, Or.inr fun row hrow he => ?_⟩
      · rw [content_attached, hr]
        exact hprepared.content
      · rw [hr] at hj
        exact hlink.run j (hrun j hj)
      · rw [hr] at hj
        exact hlink.evidence j (hevidence j hj)
      · have hused := hinv.row_used hrow
        rw [he, hid] at hused
        exact fresh hused
    · intro v record hn
      rw [hnext] at hn
      cases hn
      rw [hid]
      exact Or.inr fresh

theorem Race.registering (h : Race store p k σ) (hinv : PostInv store σ) (hcol : CollisionFree store σ.arrived)
    (given : k ≠ "") (named : strip p ≠ "") (running : σ.process = some i) {u : Upload} {record : ArtifactRecord}
    (pending : σ.posts c = some (post, .registering u record)) :
    Race store p k (σ.called store c post (.registering u record) i draw) := by
  have hlater := hinv.called_later c post (.registering u record) i draw
  have hready : some i = some true → σ.volume.backingPresent = true := fun hi => h.ready (running.trans hi)
  cases hreg : registerArtifact store.env σ.db record (u.scope.map Prod.snd) (u.scope.map Prod.fst) with
  | error e =>
    have he : (PostStage.registering u record).next store draw (σ.stores i) = (.answered (.error e), σ.stores i) :=
      next_registering_error hreg
    have hcalled := @called_same C _ store σ c draw post i _ _ he rfl
    apply h.called hinv pending
    · rw [hcalled]
      exact hready
    · rw [hcalled]
      exact fun row hrow => Or.inl ⟨row, hrow, rfl⟩
    · intro under _ _ _
      rw [he]
      rcases h.outcome hinv hcol given named pending under with ⟨result, hresult, hsettled⟩ | hfirst
      · rw [hreg] at hresult
        cases result with
        | ok a => cases hresult
        | error e' =>
          cases hresult
          exact hsettled.later hlater
      · rw [hreg] at hfirst
        cases hfirst
    · intro v r hn
      rw [he] at hn
      cases hn
  | ok x =>
    obtain ⟨a, db⟩ := x
    rcases registerArtifact_ok hreg with rfl | ⟨rfl, _⟩
    · have he : (PostStage.registering u record).next store draw (σ.stores i) = (.answered (.ok a), σ.stores i) :=
        next_registering_ok hreg
      have hcalled := @called_same C _ store σ c draw post i _ _ he rfl
      apply h.called hinv pending
      · rw [hcalled]
        exact hready
      · rw [hcalled]
        exact fun row hrow => Or.inl ⟨row, hrow, rfl⟩
      · intro under _ _ _
        rw [he]
        rcases h.outcome hinv hcol given named pending under with ⟨result, hresult, hsettled⟩ | hfirst
        · rw [hreg] at hresult
          cases result with
          | error e' => cases hresult
          | ok a' =>
            obtain rfl : a = a' := congrArg Prod.fst (Except.ok.inj hresult)
            exact hsettled.later hlater
        · rw [hreg] at hfirst
          exact absurd (congrArg Prod.snd (Except.ok.inj hfirst)) append_ne_self
      · intro v r hn
        rw [he] at hn
        cases hn
    · have he := congrArg Prod.fst (@next_registering_ok store draw (σ.stores i) u record a _ hreg)
      have hcalled := @called_inserted C _ store σ c draw post i u record a _ hreg
      apply h.called hinv pending
      · rw [hcalled]
        exact hready
      · rw [hcalled]
        intro row hrow
        rcases List.mem_append.1 hrow with hrow | hrow
        · exact Or.inl ⟨row, hrow, rfl⟩
        · rw [List.mem_singleton.1 hrow]
          exact Or.inr ⟨u, record, rfl, rfl⟩
      · intro under _ _ _
        rw [he]
        rcases h.outcome hinv hcol given named pending under with ⟨result, hresult, _⟩ | hfirst
        · rw [hreg] at hresult
          cases result with
          | error e' => cases hresult
          | ok a' => exact absurd (congrArg Prod.snd (Except.ok.inj hresult)).symm append_ne_self
        · -- the first: its row is the one the key has from now on
          rw [hreg] at hfirst
          have ha : a = record := congrArg Prod.fst (Except.ok.inj hfirst)
          have hscope := (prepare_ok (hinv.posts c post _ pending).2.2.1).scope under given
          rw [hcalled, ha]
          refine ⟨_, List.mem_append_right _ (List.mem_singleton_self _), ?_, post, List.mem_cons_self,
            fun _ => ⟨record, rfl, rfl⟩, fun hn => absurd rfl hn⟩
          rw [hscope]
          rfl
      · intro v r hn
        rw [he] at hn
        cases hn

end call

/-- A process that starts knows of a layout only if it is there. -/
theorem started_ready (hinv : PostInv store σ) (hlost : σ.lost = .empty) (failure : Option Exc)
    (now : DateTime) {o : FsObject}
    (ho : initialiseArtifactStoreIfSafe store
      (failure.elim (queryArtifacts σ.db none none 1 0) .error) σ.volume now = o)
    (hknown : o.initialised = true) : o.volume.backingPresent = true := by
  by_cases hp : σ.volume.backingPresent = true
  · rw [start_present hp] at ho
    rw [← ho]
    exact hp
  · have hp := Bool.eq_false_iff.2 hp
    rw [start_absent hp] at ho
    cases failure with
    | some e =>
      have ho : (⟨σ.volume, false⟩ : FsObject) = o := ho
      rw [← ho] at hknown
      cases hknown
    | none =>
      dsimp only [Option.elim_none] at ho
      rw [holds_of_query hinv.reached.wellFormed, hinv.no_rows hlost hp] at ho
      have ho : (⟨initialise σ.volume now, true⟩ : FsObject) = o := ho
      rw [← ho]
      exact (initialise_files σ.volume now).1

theorem Race.step [DecidableEq C] {e : PostEvent C} (h : Race store p k σ) (hinv : PostInv store σ)
    (hlost : σ.lost = .empty)
    (hcol : CollisionFree store σ.arrived) (given : k ≠ "") (named : strip p ≠ "") (good : Racing store p k σ e)
    (step : PostStep store σ e τ) : Race store p k τ := by
  have hlater := step.later hinv
  have hrefl : ∀ row ∈ σ.db.artifacts, (∃ old ∈ σ.db.artifacts, old.artifactId = row.artifactId) ∨
      ∃ d post u record, none = some d ∧ σ.posts d = some (post, .registering u record) ∧
        record.artifactId = row.artifactId := fun row hrow => Or.inl ⟨row, hrow, rfl⟩
  cases step with
  | stop => exact good.1.elim
  | crash => exact good.1.elim
  | lose => exact good.1.elim
  | restore => exact good.1.elim
  | start failure now stopped =>
    apply h.next hinv hlater none _ hrefl
    · exact fun d post stage hd => Or.inl ⟨nofun, hd⟩
    · intro hp
      exact started_ready hinv hlost failure now rfl (Option.some.inj hp)
  | health i running =>
    apply h.next hinv hlater none _ hrefl
    · exact fun d post stage hd => Or.inl ⟨nofun, hd⟩
    · intro hp
      by_contra hn
      unfold FsStore.health at hp
      rw [if_neg hn] at hp
      exact hn (h.ready (running.trans hp))
  | write w i running valid other rep db run =>
    apply h.next hinv hlater none h.ready
    · intro row hrow
      obtain ⟨old, hold, _, _, rfl⟩ := (artifacts_of_effect (effect_of_run run) other).1 row hrow
      exact Or.inl ⟨old, hold, rfl⟩
    · exact fun d post stage hd => Or.inl ⟨nofun, hd⟩
  | arrive c post i running idle bytes =>
    apply h.next hinv hlater (some c) h.ready
    · exact fun row hrow => Or.inl ⟨row, hrow, rfl⟩
    · intro d q stage hd
      by_cases hdc : d = c
      · have hself : Function.update σ.posts c (some (post, post.arrive store.maxBytes)) d =
            some (post, post.arrive store.maxBytes) := by
          rw [hdc]
          exact Function.update_self ..
        have hd := hself.symm.trans hd
        cases hd
        refine Or.inr ⟨by rw [hdc], fun under => ?_, fun u record hn => ?_⟩
        · obtain ⟨hproper, hlink⟩ := good.2 c post rfl under
          refine ⟨hproper, hlink, ?_⟩
          obtain ⟨u, hu⟩ := prepare_proper hproper under given named
          unfold ArtifactPost.arrive
          rw [hu]
          dsimp only
          rw [(prepare_ok hu).scope under given]
          trivial
        · exact absurd hn ((@arrive_stage C store σ post).2 u record)
      · have hother : Function.update σ.posts c (some (post, post.arrive store.maxBytes)) d = σ.posts d :=
          Function.update_of_ne hdc _ _
        exact Or.inl ⟨fun hcd => hdc (Option.some.inj hcd).symm, hother.symm.trans hd⟩
  | call c draw post stage i running pending unanswered fresh =>
    cases stage with
    | looking u p' k' => exact h.look hinv given named running pending
    | storing u => exact h.storing hinv hcol running pending fresh
    | registering u record => exact h.registering hinv hcol given named running pending
    | answered result => cases unanswered

theorem PostRun.race [DecidableEq C] (given : k ≠ "") (named : strip p ≠ "")
    (run : PostRun store (Racing store p k) (.start C) σ) :
    PostInv store σ ∧ σ.lost = .empty ∧ (CollisionFree store σ.arrived → Race store p k σ) := by
  induction run with
  | refl => exact ⟨.start, rfl, fun _ => .start⟩
  | step _ good step ih =>
    obtain ⟨hinv, hlost, hrace⟩ := ih
    refine ⟨hinv.step (hinv.sane hlost _) step,
      (PostStep.lost_empty good.1.undisturbed step).trans hlost, fun hcol => ?_⟩
    have hcol := hcol.mono (step.later hinv).arrived
    exact (hrace hcol).step hinv hlost hcol given named good step

/-- The row of the key, the request that inserted it, and the answers of all requests of the key. -/
structure Agreed (store : FsStore) (p k : String) (σ : PostState C) (row : ArtifactRow)
    (first : ArtifactPost) : Prop where
  created : (row.artifactId, first) ∈ σ.created
  only : ∀ first', (row.artifactId, first') ∈ σ.created → first' = first
  under : first.Under p k
  identity : ∀ c post a, σ.posts c = some (post, .answered (.ok a)) → post.Under p k →
      a.artifactId = row.artifactId
  succeeds : ∀ c post result, σ.posts c = some (post, .answered result) → post.Under p k →
    ((∃ a, result = .ok a) ↔ post.content store.env = first.content store.env)
  conflicts : ∀ c post e, σ.posts c = some (post, .answered (.error e)) →
      post.Under p k → ∃ m, e = idempotencyConflict m

/-- The key of a row is that of the request that inserted it. -/
theorem under_of_key {u : Upload} {post : ArtifactPost} {r : ArtifactRecord} {e l : Option String}
    (h : Prepared store.maxBytes post u)
    (hkey : ((r.toRow store.env (u.scope.map Prod.snd) (u.scope.map Prod.fst)).linked e l).key = some (p, k)) :
    post.Under p k := by
  cases hs : u.scope with
  | none =>
    rw [hs] at hkey
    cases hkey
  | some pk =>
    rw [hs] at hkey
    have hpair : some pk = some (p, k) := hkey
    exact h.under (hs.trans hpair)

theorem Race.agreed (h : Race store p k σ) (hinv : PostInv store σ) {row : ArtifactRow}
    (hrow : row ∈ σ.db.artifacts)
    (hkey : row.key = some (p, k)) : ∃ first, Agreed store p k σ row first := by
  obtain ⟨first, u, r, e, l, hcreated, hkept, hlinked⟩ := hinv.rows row hrow
  have honly : ∀ first', (row.artifactId, first') ∈ σ.created → first' = first := fun first' hfirst' =>
    congrArg Prod.snd (List.inj_on_of_nodup_map hinv.distinct hfirst' hcreated rfl)
  -- what a request is owed, it is owed by this row
  have hsettled : ∀ {c post result}, σ.posts c = some (post, .answered result) → post.Under p k →
      (post.content store.env = first.content store.env → ∃ a, result = .ok a ∧ a.artifactId = row.artifactId) ∧
        (post.content store.env ≠ first.content store.env → ∃ m, result = .error (idempotencyConflict m)) := by
    intro c post result hc under
    obtain ⟨row', hrow', hkey', first', hcreated', hsame, hother⟩ := (h.asked c post _ hc under).2.2
    obtain rfl := hinv.reached.wellFormed.artifacts.distinct.eq_of_key hrow hrow' hkey hkey'
    obtain rfl := honly first' hcreated'
    exact ⟨hsame, hother⟩
  refine ⟨first, hcreated, honly, ?_, fun c post a hc under => ?_,
    fun c post result hc under => ⟨?_, fun hsame => ?_⟩,
    fun c post x hc under => ?_⟩
  · rw [hlinked] at hkey
    exact under_of_key (prepare_ok hkept.prepared) hkey
  · by_cases hsame : post.content store.env = first.content store.env
    · obtain ⟨a', ha, hid⟩ := (hsettled hc under).1 hsame
      cases ha
      exact hid
    · obtain ⟨m, hm⟩ := (hsettled hc under).2 hsame
      cases hm
  · rintro ⟨a, rfl⟩
    by_contra hsame
    obtain ⟨m, hm⟩ := (hsettled hc under).2 hsame
    cases hm
  · obtain ⟨a, ha, _⟩ := (hsettled hc under).1 hsame
    exact ⟨a, ha⟩
  · by_cases hsame : post.content store.env = first.content store.env
    · obtain ⟨a, ha, _⟩ := (hsettled hc under).1 hsame
      cases ha
    · obtain ⟨m, hm⟩ := (hsettled hc under).2 hsame
      exact ⟨m, Except.error.inj hm⟩

/-- **Concurrent registrations agree.**  However the requests of one key interleave with one another
and with the others, at most one row is bound to the key, and it is there once one of them is
answered: those that succeed are answered with its identity, and they are just those of the content
of the request that inserted it; the rest raise a conflict. -/
theorem registrations_agree [DecidableEq C] (given : k ≠ "") (named : strip p ≠ "")
    (run : PostRun store (Racing store p k) (.start C) σ) (collisionFree : CollisionFree store σ.arrived) :
    (∀ row ∈ σ.db.artifacts, ∀ row' ∈ σ.db.artifacts, row.key = some (p, k) →
      row'.key = some (p, k) → row = row') ∧
      (∀ row ∈ σ.db.artifacts, row.key = some (p, k) → ∃ first, Agreed store p k σ row first) ∧
      ∀ c post result, σ.posts c = some (post, .answered result) → post.Under p k → KeyTaken p k σ.db := by
  obtain ⟨hinv, _, hrace⟩ := run.race given named
  have h := hrace collisionFree
  refine ⟨fun row hrow row' hrow' => ?_, fun row hrow => h.agreed hinv hrow, fun c post result hc under => ?_⟩
  · exact hinv.reached.wellFormed.artifacts.distinct.eq_of_key hrow hrow'
  · obtain ⟨row, hrow, hkey, _⟩ := (h.asked c post _ hc under).2.2
    exact ⟨row, hrow, hkey⟩

end race

/-! ## Requests of one key -/

theorem samplePost_checked : sampleStore.checkPut sampleUpload.args = .ok () := by decide +kernel

theorem samplePost_registered : registerArtifact sampleStore.env .empty samplePosted (some "k") (some "hsa") =
    .ok (samplePosted, { Database.empty with
      artifacts := Database.empty.artifacts ++ [samplePosted.toRow .reference (some "k") (some "hsa")] }) := rfl

/-- The state after the first request. -/
structure KeyedRegistered (σ : PostState Bool) : Prop where
  process : σ.process = some true
  db : σ.db = samplePostedDb
  used : σ.used = [newArtifactId sampleDraw.uuid4]
  arrived : σ.arrived = [samplePost]
  idle : σ.posts true = none
  answered : σ.posts false = some (samplePost, .answered (.ok samplePosted))

/-- A process starts, and one request with a key arrives, looks up its key, puts its bytes and registers them. -/
theorem sample_keyed_registration {ok : PostState Bool → PostEvent Bool → Prop}
    (start : ∀ now, ok (.start Bool) (.start none now)) (arrive : ∀ σ c, ok σ (.arrive c samplePost))
    (call : ∀ σ c draw, ok σ (.call c draw)) : ∃ σ, PostRun sampleStore ok (.start Bool) σ ∧
    KeyedRegistered σ := by
  have r1 : PostRun sampleStore ok (.start Bool) _ :=
    .step (.refl _) (start sampleTime) (PostStep.deploy sampleStore sampleTime)
  have r2 : PostRun sampleStore ok (.start Bool) _ :=
    .step r1 (arrive _ false) (.arrive _ false samplePost true rfl rfl (by decide))
  have r3 : PostRun sampleStore ok (.start Bool) _ := .step r2 (call _ false sampleDraw)
    (.call _ false sampleDraw samplePost (.looking sampleUpload "hsa" "k") true rfl rfl rfl List.not_mem_nil)
  rw [@called_same Bool _ sampleStore _ false sampleDraw samplePost true _ (.storing sampleUpload) rfl rfl] at r3
  obtain ⟨hpresent, _⟩ := initialise_files .empty sampleTime
  obtain ⟨w, hput⟩ := @put_new sampleStore (initialise .empty sampleTime) sampleUpload.args true samplePost_checked
    (Or.inl hpresent) (fun y hy => by cases hy) sampleDraw.uuid4 sampleDraw.now
  have r4 : PostRun sampleStore ok (.start Bool) _ := .step r3 (call _ false sampleDraw)
    (.call _ false sampleDraw samplePost (.storing sampleUpload) true rfl rfl rfl List.not_mem_nil)
  rw [called_put hput] at r4
  have r5 : PostRun sampleStore ok (.start Bool) _ := .step r4 (call _ false laterDraw)
    (.call _ false laterDraw samplePost (.registering sampleUpload samplePosted) true rfl rfl rfl laterDraw_fresh)
  rw [called_inserted samplePost_registered] at r5
  exact ⟨_, r5, rfl, rfl, rfl, rfl, rfl, rfl⟩

section answers
variable {C : Type} [DecidableEq C] {store : FsStore} {σ : PostState C} {c : C} {draw : Draw}
    {post : ArtifactPost} {i : Bool}

/-- A registration is the last call of its request. -/
theorem called_registering (u : Upload) (record : ArtifactRecord) : ∃ result,
    (σ.called store c post (.registering u record) i draw).posts =
        Function.update σ.posts c (some (post, .answered result)) ∧
      (σ.called store c post (.registering u record) i draw).process = some i ∧
      (σ.called store c post (.registering u record) i draw).used = σ.used ∧
      (σ.called store c post (.registering u record) i draw).arrived = σ.arrived := by
  have hnext : ∃ result db, (PostStage.registering u record).next store draw (σ.stores i) =
      (.answered result, { σ.stores i with db := db }) := by
    rw [next_registering]
    cases registerArtifact store.env (σ.stores i).db record (u.scope.map Prod.snd) (u.scope.map Prod.fst) with
    | error e => exact ⟨_, _, rfl⟩
    | ok x => exact ⟨_, _, rfl⟩
  obtain ⟨result, db, hnext⟩ := hnext
  refine ⟨result, ?_⟩
  unfold PostState.called
  rw [hnext]
  exact ⟨rfl, rfl, rfl, rfl⟩

end answers

/-- Of the key of the sample, with another filename. -/
def otherPost : ArtifactPost := { samplePost with filename := some "trades.csv" }

def otherUpload : Upload := otherPost.upload "trades.csv" (some ("hsa", "k"))

theorem otherPost_checked : sampleStore.checkPut otherUpload.args = .ok () := by decide +kernel

def thirdDraw : Draw := ⟨⟨"22222222222222222222222222222222", by decide, by decide⟩, sampleTime⟩

def fourthDraw : Draw := ⟨⟨"33333333333333333333333333333333", by decide, by decide⟩, sampleTime⟩

theorem thirdDraw_fresh : newArtifactId thirdDraw.uuid4 ∉ [newArtifactId laterDraw.uuid4,
    newArtifactId sampleDraw.uuid4] := by
  decide

theorem fourthDraw_fresh : newArtifactId fourthDraw.uuid4 ∉
    [newArtifactId thirdDraw.uuid4, newArtifactId laterDraw.uuid4, newArtifactId sampleDraw.uuid4] := by
  decide

/-- The state once all have put and the first has registered. -/
structure RacingStored (σ : PostState (Fin 3)) : Prop where
  process : σ.process = some true
  used : σ.used = [newArtifactId thirdDraw.uuid4, newArtifactId laterDraw.uuid4, newArtifactId sampleDraw.uuid4]
  arrived : σ.arrived = [otherPost, samplePost, samplePost]
  first : σ.posts 0 = some (samplePost, .answered (.ok samplePosted))
  second : ∃ record, σ.posts 1 = some (samplePost, .registering sampleUpload record)
  third : ∃ record, σ.posts 2 = some (otherPost, .registering otherUpload record)

/-- Three requests of one key look it up before any of them has put its bytes; then they put them,
and one registers. -/
theorem racing_stored {ok : PostState (Fin 3) → PostEvent (Fin 3) → Prop}
    (start : ∀ now, ok (.start (Fin 3)) (.start none now))
    (arrive : ∀ σ c, ok σ (.arrive c samplePost) ∧ ok σ (.arrive c otherPost))
    (call : ∀ σ c draw, ok σ (.call c draw)) :
    ∃ σ, PostRun sampleStore ok (.start (Fin 3)) σ ∧ RacingStored σ := by
  have r1 : PostRun sampleStore ok (.start (Fin 3)) _ :=
    .step (.refl _) (start sampleTime) (PostStep.deploy sampleStore sampleTime)
  have r2 : PostRun sampleStore ok (.start (Fin 3)) _ :=
    .step r1 (arrive _ 0).1 (.arrive _ 0 samplePost true rfl rfl (by decide))
  have r3 : PostRun sampleStore ok (.start (Fin 3)) _ :=
    .step r2 (arrive _ 1).1 (.arrive _ 1 samplePost true rfl rfl (by decide))
  have r4 : PostRun sampleStore ok (.start (Fin 3)) _ :=
    .step r3 (arrive _ 2).2 (.arrive _ 2 otherPost true rfl rfl (by decide))
  -- the lookups
  have r5 : PostRun sampleStore ok (.start (Fin 3)) _ := .step r4 (call _ 0 sampleDraw)
    (.call _ 0 sampleDraw samplePost (.looking sampleUpload "hsa" "k") true rfl rfl rfl List.not_mem_nil)
  rw [@called_same (Fin 3) _ sampleStore _ 0 sampleDraw samplePost true _ (.storing sampleUpload) rfl rfl] at r5
  have r6 : PostRun sampleStore ok (.start (Fin 3)) _ := .step r5 (call _ 1 sampleDraw)
    (.call _ 1 sampleDraw samplePost (.looking sampleUpload "hsa" "k") true rfl rfl rfl List.not_mem_nil)
  rw [@called_same (Fin 3) _ sampleStore _ 1 sampleDraw samplePost true _ (.storing sampleUpload) rfl rfl] at r6
  have r7 : PostRun sampleStore ok (.start (Fin 3)) _ := .step r6 (call _ 2 sampleDraw)
    (.call _ 2 sampleDraw otherPost (.looking otherUpload "hsa" "k") true rfl rfl rfl List.not_mem_nil)
  rw [@called_same (Fin 3) _ sampleStore _ 2 sampleDraw otherPost true _ (.storing otherUpload) rfl rfl] at r7
  -- the puts
  obtain ⟨hpresent, _⟩ := initialise_files .empty sampleTime
  obtain ⟨w, hput⟩ := @put_new sampleStore (initialise .empty sampleTime) sampleUpload.args true samplePost_checked
    (Or.inl hpresent) (fun y hy => by cases hy) sampleDraw.uuid4 sampleDraw.now
  have hleaves : PutLeaves sampleStore (initialise .empty sampleTime) w
    [newArtifactId sampleDraw.uuid4] sampleUpload.args
      samplePosted := put_leaves hput rfl List.mem_cons_self
  have hblob : ∀ y, w.blob (sampleStore.computed sampleUpload.args) = some y → y = sampleUpload.args.data := by
    intro y hy
    rcases hleaves.blob _ y hy with hnone | ⟨_, hy⟩
    · cases hnone
    · exact hy
  have hfresh : ∀ draw : Draw, newArtifactId draw.uuid4 ≠ newArtifactId sampleDraw.uuid4 →
      w.sidecar (newArtifactId draw.uuid4) = none := by
    intro draw hdraw
    rw [Option.eq_none_iff_forall_not_mem]
    intro y hy
    rcases hleaves.sidecar _ y hy with hnone | hid
    · cases hnone
    · exact hdraw hid
  have r8 : PostRun sampleStore ok (.start (Fin 3)) _ := .step r7 (call _ 0 sampleDraw)
    (.call _ 0 sampleDraw samplePost (.storing sampleUpload) true rfl rfl rfl List.not_mem_nil)
  rw [called_put hput] at r8
  obtain ⟨w', hput'⟩ := @put_new sampleStore w sampleUpload.args true samplePost_checked
    (Or.inl hleaves.present) hblob laterDraw.uuid4 laterDraw.now
  have hleaves' : PutLeaves sampleStore w w' [newArtifactId laterDraw.uuid4] sampleUpload.args _ :=
    put_leaves hput' (hfresh laterDraw (by decide)) List.mem_cons_self
  have hblob' : ∀ y, w'.blob (sampleStore.computed otherUpload.args) = some y → y = otherUpload.args.data := by
    intro y hy
    rcases hleaves'.blob _ y hy with hy | ⟨_, hy⟩
    · exact hblob y hy
    · exact hy
  have r9 : PostRun sampleStore ok (.start (Fin 3)) _ := .step r8 (call _ 1 laterDraw)
    (.call _ 1 laterDraw samplePost (.storing sampleUpload) true rfl rfl rfl (by exact laterDraw_fresh))
  rw [called_put hput'] at r9
  obtain ⟨w'', hput''⟩ := @put_new sampleStore w' otherUpload.args true otherPost_checked
    (Or.inl hleaves'.present) hblob' thirdDraw.uuid4 thirdDraw.now
  have r10 : PostRun sampleStore ok (.start (Fin 3)) _ := .step r9 (call _ 2 thirdDraw)
    (.call _ 2 thirdDraw otherPost (.storing otherUpload) true rfl rfl rfl (by exact thirdDraw_fresh))
  rw [called_put hput''] at r10
  -- the registrations
  have r11 : PostRun sampleStore ok (.start (Fin 3)) _ := .step r10 (call _ 0 fourthDraw)
    (.call _ 0 fourthDraw samplePost (.registering sampleUpload samplePosted) true rfl rfl rfl
      (by exact fourthDraw_fresh))
  rw [called_inserted samplePost_registered] at r11
  exact ⟨_, r11, rfl, rfl, rfl, rfl, ⟨_, rfl⟩, _, rfl⟩

/-- Then the others do. -/
theorem racing_run {ok : PostState (Fin 3) → PostEvent (Fin 3) → Prop}
    (start : ∀ now, ok (.start (Fin 3)) (.start none now))
    (arrive : ∀ σ c, ok σ (.arrive c samplePost) ∧ ok σ (.arrive c otherPost))
    (call : ∀ σ c draw, ok σ (.call c draw)) :
    ∃ σ, PostRun sampleStore ok (.start (Fin 3)) σ ∧ σ.arrived = [otherPost, samplePost, samplePost] ∧
      σ.posts 0 = some (samplePost, .answered (.ok samplePosted)) ∧
      (∃ result, σ.posts 1 = some (samplePost, .answered result)) ∧
      ∃ result, σ.posts 2 = some (otherPost, .answered result) := by
  obtain ⟨σ, run, h⟩ := racing_stored start arrive call
  obtain ⟨r, hsecond⟩ := h.second
  obtain ⟨r', hthird⟩ := h.third
  have hfresh : newArtifactId fourthDraw.uuid4 ∉ σ.used := by
    rw [h.used]
    exact fourthDraw_fresh
  have run₁ := PostRun.step run (call _ 1 fourthDraw) (.call σ 1 fourthDraw _ _ true h.process hsecond rfl hfresh)
  obtain ⟨result, hposts, hprocess, hused, harrived⟩ :=
    @called_registering (Fin 3) _ sampleStore σ 1 fourthDraw samplePost true
    sampleUpload r
  generalize σ.called sampleStore 1 samplePost (.registering sampleUpload r) true fourthDraw = τ at *
  have hpending : τ.posts 2 = some (otherPost, .registering otherUpload r') := by
    rw [hposts, Function.update_of_ne (by decide)]
    exact hthird
  have run₂ := PostRun.step run₁ (call _ 2 fourthDraw)
    (.call τ 2 fourthDraw _ _ true hprocess hpending rfl (by rw [hused]; exact hfresh))
  obtain ⟨result', hposts', _, _, harrived'⟩ :=
    @called_registering (Fin 3) _ sampleStore τ 2 fourthDraw otherPost true
    otherUpload r'
  refine ⟨_, run₂, harrived'.trans (harrived.trans h.arrived), ?_, ⟨result, ?_⟩, result', ?_⟩
  · rw [hposts', Function.update_of_ne (by decide), hposts, Function.update_of_ne (by decide)]
    exact h.first
  · rw [hposts', Function.update_of_ne (by decide), hposts, Function.update_self]
  · rw [hposts', Function.update_self]

/-- The content of the other request is another, and SHA-256 tells the texts apart. -/
theorem otherPost_content : otherPost.content sampleStore.env ≠ samplePost.content sampleStore.env := by
  intro h
  have hname : "trades.csv" = "orders.csv" := congrArg (fun c => c.2.2.2) h
  exact absurd hname (by decide)

def otherPosted : ArtifactRecord := { samplePosted with filename := "trades.csv" }

theorem otherPosted_digest : Env.reference.digest (canonical .reference samplePosted.dump artifactIdemFpExclude) ≠
    Env.reference.digest (canonical .reference otherPosted.dump artifactIdemFpExclude) := by
  decide +kernel

theorem racing_collisionFree : CollisionFree sampleStore [otherPost, samplePost, samplePost] := by
  have hcontent : ∀ q ∈ [otherPost, samplePost, samplePost], q = otherPost ∨ q = samplePost := by
    intro q hq
    simpa using hq
  have hcanonical : ∀ {r r₀ : ArtifactRecord} {c}, r.content = c → r₀.content = c →
      canonical sampleStore.env r.dump artifactIdemFpExclude =
        canonical sampleStore.env r₀.dump artifactIdemFpExclude :=
    fun hr hr₀ => ArtifactRecord.canonical_of_content (hr.trans hr₀.symm)
  have hposted : samplePosted.content = samplePost.content sampleStore.env := rfl
  have hother : otherPosted.content = otherPost.content sampleStore.env := rfl
  constructor
  · intro q hq q' hq' _
    rcases hcontent q hq with rfl | rfl <;> rcases hcontent q' hq' with rfl | rfl <;> rfl
  · intro q hq q' hq' r r' hr hr' hdigest
    rcases hcontent q hq with rfl | rfl <;> rcases hcontent q' hq' with rfl | rfl
    · exact hcanonical hr hr'
    · rw [hcanonical hr hother, hcanonical hr' hposted] at hdigest
      exact absurd hdigest.symm otherPosted_digest
    · rw [hcanonical hr hposted, hcanonical hr' hother] at hdigest
      exact absurd hdigest otherPosted_digest
    · exact hcanonical hr hr'

/-- Of three racing requests of one key the second is answered with the first one's record, and the third, of other
content, refused. -/
theorem racing_registrations_agree : ∃ (σ : PostState (Fin 3)) (row : ArtifactRow)
    (a : ArtifactRecord) (m : String),
    row ∈ σ.db.artifacts ∧ row.key = some ("hsa", "k") ∧
    σ.posts 0 = some (samplePost, .answered (.ok samplePosted)) ∧ samplePosted.artifactId = row.artifactId ∧
    σ.posts 1 = some (samplePost, .answered (.ok a)) ∧ a.artifactId = row.artifactId ∧
    σ.posts 2 = some (otherPost, .answered (.error (idempotencyConflict m))) := by
  have hproper : samplePost.Proper sampleStore ∧ otherPost.Proper sampleStore := by
    refine ⟨⟨⟨"orders.csv", rfl, by decide +kernel⟩, Nat.zero_le _, fun d hd => ?_⟩,
      ⟨"trades.csv", rfl, by decide +kernel⟩, Nat.zero_le _, fun d hd => ?_⟩ <;> cases hd
  have hlinkable : ∀ db, samplePost.Linkable db ∧ otherPost.Linkable db := by
    intro db
    refine ⟨⟨fun i hi => ?_, fun i hi => ?_⟩, fun i hi => ?_, fun i hi => ?_⟩ <;> cases hi
  obtain ⟨σ, run, harrived, hfirst, ⟨result, hsecond⟩, result', hthird⟩ :=
    @racing_run (Racing sampleStore "hsa" "k") (fun _ => .of_unfailing trivial fun _ _ he => by cases he)
      (fun σ c => ⟨⟨trivial, fun d post he _ => by cases he; exact ⟨hproper.1, (hlinkable _).1⟩⟩, trivial,
        fun d post he _ => by cases he; exact ⟨hproper.2, (hlinkable _).2⟩⟩)
      fun _ _ _ => .of_unfailing trivial fun _ _ he => by cases he
  have hcol : CollisionFree sampleStore σ.arrived := by
    rw [harrived]
    exact racing_collisionFree
  obtain ⟨_, hagreed, htaken⟩ := registrations_agree (p := "hsa") (k := "k") (by decide) (by decide) run hcol
  obtain ⟨row, hrow, hkey⟩ := htaken 0 samplePost _ hfirst ⟨rfl, rfl⟩
  obtain ⟨first, h⟩ := hagreed row hrow hkey
  have hsame := (h.succeeds 0 samplePost _ hfirst ⟨rfl, rfl⟩).1 ⟨_, rfl⟩
  obtain ⟨a, rfl⟩ := (h.succeeds 1 samplePost result hsecond ⟨rfl, rfl⟩).2 hsame
  have hrefused : ¬ ∃ a, result' = .ok a := by
    intro hok
    exact otherPost_content (((h.succeeds 2 otherPost result' hthird ⟨rfl, rfl⟩).1 hok).trans hsame.symm)
  cases result' with
  | ok a => exact absurd ⟨a, rfl⟩ hrefused
  | error e =>
    obtain ⟨m, rfl⟩ := h.conflicts 2 otherPost e hthird ⟨rfl, rfl⟩
    exact ⟨σ, row, a, m, hrow, hkey, hfirst, h.identity 0 samplePost _ hfirst ⟨rfl, rfl⟩, hsecond,
      h.identity 1 samplePost a hsecond ⟨rfl, rfl⟩, hthird⟩

/-- The same request, with a checksum that is not that of its bytes. -/
def mismatchPost : ArtifactPost := { samplePost with declaredSha256 := some "00" }

def mismatchUpload : Upload := mismatchPost.upload "orders.csv" (some ("hsa", "k"))

theorem mismatch_looked {s : Stores} (h : s.db = samplePostedDb) :
    ∃ m, (PostStage.looking mismatchUpload "hsa" "k").next sampleStore laterDraw s =
      (.answered (.error (ErrorClass.checksumMismatch.exc m)), s) := by
  have hrow : samplePosted.toRow .reference (some "k") (some "hsa") ∈ s.db.artifacts := by
    rw [h]
    exact List.mem_singleton_self _
  have hdb : WellFormed sampleStore.env s.db := by
    rw [h]
    exact samplePostedDb_reachable.wellFormed
  have hfind := @findArtifact_bound sampleStore s "hsa" "k" _ _ hdb (by decide) hrow rfl
    (rowToArtifact_toRow .reference samplePosted_valid (some "k") (some "hsa"))
  have hdiffers : DigestDiffers sampleStore.env mismatchUpload.args := ⟨"00", rfl, by decide +kernel⟩
  obtain ⟨m, hm⟩ : ∃ m, mismatchUpload.overlay sampleStore.env samplePosted =
      .error (ErrorClass.checksumMismatch.exc m) := ⟨_, if_pos hdiffers⟩
  refine ⟨m, ?_⟩
  unfold PostStage.next
  dsimp only
  rw [hfind]
  dsimp only
  rw [hm]

/-- Of two requests of one key and one content, the second fails. -/
theorem same_content_is_refused : ∃ (σ : PostState Bool) (m : String),
    PostRun sampleStore (fun _ => Unfailing) (.start Bool) σ ∧
    (samplePost.Under "hsa" "k" ∧ mismatchPost.Under "hsa" "k") ∧
    mismatchPost.content sampleStore.env = samplePost.content sampleStore.env ∧
    σ.posts false = some (samplePost, .answered (.ok samplePosted)) ∧
    σ.posts true = some (mismatchPost, .answered (.error (ErrorClass.checksumMismatch.exc m))) := by
  obtain ⟨σ, r1, h⟩ : ∃ σ, PostRun sampleStore (fun _ => Unfailing) (.start Bool) σ ∧ KeyedRegistered σ :=
    sample_keyed_registration (fun _ => trivial) (fun _ _ => trivial) fun _ _ _ => trivial
  obtain ⟨τ, hτ⟩ : ∃ τ, τ = { σ with
    posts := Function.update σ.posts true (some (mismatchPost, .looking mismatchUpload "hsa" "k"))
    arrived := mismatchPost :: σ.arrived } := ⟨_, rfl⟩
  have r2 : PostRun sampleStore (fun _ => Unfailing) (.start Bool) τ := by
    rw [hτ]
    exact .step r1 (by exact trivial) (.arrive _ true mismatchPost true h.process h.idle (by decide))
  have hself : ∀ (f : Bool → Option (ArtifactPost × PostStage)) x, Function.update f true x true = x := fun _ _ =>
    Function.update_self ..
  have hother : ∀ (f : Bool → Option (ArtifactPost × PostStage)) x,
    Function.update f true x false = f false := fun _ _ =>
    Function.update_of_ne Bool.false_ne_true _ _
  have hprocess : τ.process = some true := by
    rw [hτ]
    exact h.process
  have hpending : τ.posts true = some (mismatchPost, .looking mismatchUpload "hsa" "k") := by
    rw [hτ]
    exact hself σ.posts (some (mismatchPost, .looking mismatchUpload "hsa" "k"))
  have hanswered : τ.posts false = some (samplePost, .answered (.ok samplePosted)) := by
    rw [hτ]
    exact (hother σ.posts (some (mismatchPost, .looking mismatchUpload "hsa" "k"))).trans h.answered
  have hfresh : newArtifactId laterDraw.uuid4 ∉ τ.used := by
    rw [hτ]
    show _ ∉ σ.used
    rw [h.used]
    exact laterDraw_fresh
  have hdb : (τ.stores true).db = samplePostedDb := by
    rw [hτ]
    exact h.db
  have r3 : PostRun sampleStore (fun _ => Unfailing) (.start Bool) _ := .step r2 (by exact trivial)
    (.call _ true laterDraw mismatchPost (.looking mismatchUpload "hsa" "k") true hprocess hpending rfl hfresh)
  obtain ⟨m, hm⟩ := mismatch_looked hdb
  rw [called_same hm rfl] at r3
  let refused : Option (ArtifactPost × PostStage) :=
    some (mismatchPost, .answered (.error (ErrorClass.checksumMismatch.exc m)))
  exact ⟨_, m, r3, ⟨⟨rfl, rfl⟩, rfl, rfl⟩, rfl, (hother τ.posts refused).trans hanswered, hself τ.posts refused⟩

end Cer.Api
