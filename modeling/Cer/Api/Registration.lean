import Cer.Api.RunLifecycle
import Cer.Artifacts.Sidecar
import Cer.Metadata.ReplayPaths

/-!
# `POST /v1/artifacts`

The handler of a registration is the one handler that calls both stores: it looks up the
key, puts the bytes, registers the record.  `PostStage` stands between these calls, so that
registrations can be interleaved; `createArtifact` is one of them taken alone.

`artifact_replay_is_decided`: under a key that is bound, no store changes and the answer is
decided by the digest, the length, the content type and the filename.
-/

namespace Cer.Api

open Py

/-! ## Content types -/

def formEncodedMediaTypes : List String := ["application/x-www-form-urlencoded", "multipart/form-data"]

/-- `_is_form_encoded_media_type`; the media type stands before the first `;`. -/
def isFormEncodedMediaType (contentType : String) : Bool :=
  formEncodedMediaTypes.contains (lower (strip (String.ofList (contentType.toList.takeWhile (· ≠ ';')))))

def defaultArtifactContentType : String := "application/octet-stream"

/-- `_resolve_artifact_content_type`. -/
def resolveArtifactContentType (transportContentType declaredContentType : Option String) : String :=
  let candidates := [declaredContentType, transportContentType].filterMap id
  (candidates.find? fun c => !isBlank c && !isFormEncodedMediaType c).getD defaultArtifactContentType

example : resolveArtifactContentType (some "text/csv") (some " Multipart/Form-Data ; boundary=x") =
    "text/csv" := by
  decide +kernel

/-! ## Requests -/

/-- The body and the headers of a registration. -/
structure ArtifactPost where
  data : Bytes
  filename : Option String
  declaredSha256 : Option String
  runId : Option String
  evidenceId : Option String
  producer : Option String
  idempotencyKey : Option String
  contentTypeDeclared : Option String
  contentType : Option String

/-- A request its handler has accepted: what to put, what to link it to, the producer and the key. -/
structure Upload where
  args : PutArgs
  runId : Option String
  evidenceId : Option String
  scope : Option (String × String)

/-- The upload of a request with a filename and, where it has a key, a producer that scopes it. -/
def ArtifactPost.upload (p : ArtifactPost) (filename : String) (scope : Option (String × String)) : Upload :=
  { args := ⟨p.data, resolveArtifactContentType p.contentType p.contentTypeDeclared, filename, p.declaredSha256⟩
    runId := p.runId, evidenceId := p.evidenceId, scope := scope }

/-- What the handler checks before it calls a store. -/
def ArtifactPost.prepare (maxArtifactBytes : Nat) (p : ArtifactPost) : Except Exc Upload :=
  match truthy p.filename with
  | none => .error (contractViolation "missing required header X-CER-Filename")
  | some filename =>
    if maxArtifactBytes < p.data.length then
      .error (contractViolation
        s!"artifact body of {p.data.length} bytes exceeds max_artifact_bytes ({maxArtifactBytes})")
    else match truthy p.idempotencyKey with
      | none => .ok (p.upload filename none)
      | some key => do
        let producer ← requireProducerForKey p.producer
        return p.upload filename (some (producer, key))

/-- `declared_sha256.lower() != computed_sha256`. -/
def DigestDiffers (env : Env) (a : PutArgs) : Prop := ∃ d ∈ a.declaredSha256, lower d ≠ env.sha256 a.data

instance (env : Env) (a : PutArgs) : Decidable (DigestDiffers env a) :=
  match h : a.declaredSha256 with
  | none => isFalse fun ⟨_, hd, _⟩ => by rw [h] at hd; cases hd
  | some d => decidable_of_iff (lower d ≠ env.sha256 a.data)
      ⟨fun hd => ⟨d, h, hd⟩, fun ⟨d', hd', hne⟩ => by rw [h] at hd'; cases hd'; exact hne⟩

/-- The request laid over the record its key is bound to. -/
def Upload.overlay (env : Env) (u : Upload) (prior : ArtifactRecord) : Except Exc ArtifactRecord :=
  let computed := env.sha256 u.args.data
  let declared := u.args.declaredSha256.getD ""
  if DigestDiffers env u.args then
    .error (ErrorClass.checksumMismatch.exc
      (s!"declared_sha256 {Py.repr declared} does not match computed " ++
        s!"digest {Py.repr computed} — nothing written"))
  else .ok { prior with
    sha256 := computed, sizeBytes := u.args.data.length, contentType := u.args.contentType,
    filename := u.args.filename }

/-- The record put, with the links the request names. -/
def Upload.attached (u : Upload) (record : ArtifactRecord) : ArtifactRecord :=
  if u.runId.isSome || u.evidenceId.isSome then
    { record with runId := u.runId, evidenceId := u.evidenceId } else record

/-! ## The handler -/

/-- The two stores. -/
structure Stores where
  volume : Volume
  initialised : Bool
  db : Database

/-- A registration between two of its calls. -/
inductive PostStage
  | looking (u : Upload) (producer key : String)
  | storing (u : Upload)
  | registering (u : Upload) (record : ArtifactRecord)
  | answered (result : Except Exc ArtifactRecord)

def ArtifactPost.arrive (maxArtifactBytes : Nat) (p : ArtifactPost) : PostStage :=
  match p.prepare maxArtifactBytes with
  | .error e => .answered (.error e)
  | .ok u => match u.scope with
    | some (producer, key) => .looking u producer key
    | none => .storing u

/-- The next call of a store; `draw` is what `put` draws. -/
def PostStage.next (store : FsStore) (draw : Draw) : PostStage → Stores → PostStage × Stores
  | .looking u producer key, σ => match findArtifactByIdempotencyKey σ.db (some producer) key with
    | .error e => (.answered (.error e), σ)
    | .ok none => (.storing u, σ)
    | .ok (some prior) => match u.overlay store.env prior with
      | .error e => (.answered (.error e), σ)
      | .ok candidate => (.registering u candidate, σ)
  | .storing u, σ => match store.put σ.volume σ.initialised u.args draw.uuid4 draw.now with
    | (.error e, volume, initialised) =>
        (.answered (.error e), { σ with volume := volume, initialised := initialised })
    | (.ok record, volume, initialised) =>
      (.registering u (u.attached record), { σ with volume := volume, initialised := initialised })
  | .registering u record, σ =>
    match registerArtifact store.env σ.db record (u.scope.map Prod.snd) (u.scope.map Prod.fst) with
    | .error e => (.answered (.error e), σ)
    | .ok (artifact, db) => (.answered (.ok artifact), { σ with db := db })
  | .answered result, σ => (.answered result, σ)

def PostStage.result : PostStage → Option (Except Exc ArtifactRecord)
  | .answered result => some result
  | _ => none

/-- `create_artifact`: at most three calls. -/
def createArtifact (store : FsStore) (maxArtifactBytes : Nat) (draw : Draw) (p : ArtifactPost) (σ : Stores) :
    PostStage × Stores :=
  let next := fun x : PostStage × Stores => x.1.next store draw x.2
  next (next (next (p.arrive maxArtifactBytes, σ)))

/-! ## What is accepted -/

/-- What the handler has accepted, and from what. -/
structure Prepared (maxArtifactBytes : Nat) (post : ArtifactPost) (u : Upload) : Prop where
  upload : ∃ f, post.filename = some f ∧ f ≠ "" ∧ u = post.upload f u.scope
  size : post.data.length ≤ maxArtifactBytes
  keyed : ∀ p k, u.scope = some (p, k) → post.producer = some p ∧ post.idempotencyKey = some k ∧
      strip p ≠ "" ∧ k ≠ ""
  unkeyed : u.scope = none → truthy post.idempotencyKey = none

theorem prepare_ok {maxArtifactBytes : Nat} {post : ArtifactPost} {u : Upload}
    (h : post.prepare maxArtifactBytes = .ok u) : Prepared maxArtifactBytes post u := by
  unfold ArtifactPost.prepare at h
  split at h
  · cases h
  · next f hf =>
    obtain ⟨hname, hf⟩ := truthy_eq_some hf
    split at h
    · cases h
    · next hsize =>
      have hsize : post.data.length ≤ maxArtifactBytes := by omega
      split at h
      · next hk =>
        cases h
        exact ⟨⟨f, hname, hf, rfl⟩, hsize, fun p k hs => (by cases hs), fun _ => hk⟩
      · next key hk =>
        obtain ⟨hkey, hk⟩ := truthy_eq_some hk
        obtain ⟨producer, hp, h⟩ := bind_ok h
        cases h
        obtain ⟨hproducer, hp⟩ : post.producer = some producer ∧ strip producer ≠ "" := by
          unfold requireProducerForKey at hp
          dsimp only at hp
          split at hp
          · cases hp
          · next q hq =>
            by_cases hb : isBlank q = true
            · rw [if_pos hb] at hp
              cases hp
            · rw [if_neg hb] at hp
              cases hp
              refine ⟨hq, fun hstrip => hb ?_⟩
              simp [isBlank, hstrip]
        refine ⟨⟨f, hname, hf, rfl⟩, hsize, fun p k hs => ?_, fun hs => (by cases hs)⟩
        cases hs
        exact ⟨hproducer, hkey, hp, hk⟩

theorem Prepared.data {maxArtifactBytes : Nat} {post : ArtifactPost} {u : Upload}
    (h : Prepared maxArtifactBytes post u) :
    u.args.data = post.data := by
  obtain ⟨f, _, _, hu⟩ := h.upload
  rw [hu]
  rfl

/-! ## The producers of keys -/

/-- In a reached database no key is scoped to a blank producer. -/
theorem scope_not_blank {env : Env} {db : Database} (h : Reachable env db) {row : ArtifactRow} {p k : String}
    (hmem : row ∈ db.artifacts) (hkey : row.key = some (p, k)) : strip p ≠ "" := by
  induction h generalizing row with
  | refl => cases hmem
  | commit h hv hrun ih =>
    have heffect := effect_of_run hrun
    cases heffect with
    | artifact a key producer _ _ hscope _ =>
      rcases List.mem_append.1 hmem with hmem | hmem
      · exact ih hmem hkey
      · rw [List.mem_singleton.1 hmem] at hkey
        cases key with
        | none =>
          have hnone : ((none : Option String).bind fun _ => none) = some (p, k) := hkey
          cases hnone
        | some l => cases producer with
          | none =>
            have hnone : (none : Option (String × String)) = some (p, k) := hkey
            cases hnone
          | some q =>
            have hpair : some (q, l) = some (p, k) := hkey
            cases hpair
            exact scopeOk_of_run (rfl : (Write.registerArtifact a (some k) (some p)).keyed = _) hrun rfl
    | attach i e r e' r' x _ _ _ _ =>
      obtain ⟨y, hy, rfl⟩ := List.mem_map.1 hmem
      refine ih hy ?_
      by_cases hi : (y.artifactId == i) = true
      · rw [if_pos hi] at hkey
        exact hkey
      · rw [if_neg hi] at hkey
        exact hkey
    | _ => exact ih hmem hkey

/-! ## Replays -/

/-- The bytes and their description are those of the record. -/
def Upload.SameContent (env : Env) (u : Upload) (r : ArtifactRecord) : Prop :=
  env.sha256 u.args.data = r.sha256 ∧ (u.args.data.length : Int) = r.sizeBytes ∧
  u.args.contentType = r.contentType ∧
    u.args.filename = r.filename

/-- The record an upload would make of the one its key is bound to. -/
def Upload.candidate (env : Env) (u : Upload) (r : ArtifactRecord) : ArtifactRecord :=
  { r with sha256 := env.sha256 u.args.data, sizeBytes := u.args.data.length, contentType := u.args.contentType
           filename := u.args.filename }

/-- The fingerprint of a key covers the content and nothing else. -/
theorem idemFp_eq_iff {env : Env} {u : Upload} {r : ArtifactRecord}
    (hcol : env.NoCollision (canonical env (u.candidate env r).dump artifactIdemFpExclude)
      (canonical env r.dump artifactIdemFpExclude)) :
    (u.candidate env r).idemFp env = r.idemFp env ↔ u.SameContent env r := by
  rw [ArtifactRecord.idemFp_eq_iff hcol]
  simp [ArtifactRecord.content, Upload.candidate, Upload.SameContent]

/-- What `create_artifact` makes of a request under a bound key. -/
structure ReplayDecided (env : Env) (u : Upload) (r : ArtifactRecord) (σ : Stores)
    (out : PostStage × Stores) : Prop where
  writesNothing : out.2 = σ
  mismatch : (∃ m, out.1.result = some (.error (ErrorClass.checksumMismatch.exc m))) ↔ DigestDiffers env u.args
  replay : ¬ DigestDiffers env u.args → (out.1.result = some (.ok r) ↔ u.SameContent env r)
  conflict : ¬ DigestDiffers env u.args → ¬ u.SameContent env r →
    ∃ m, out.1.result = some (.error (idempotencyConflict m))

theorem createArtifact_of_arrive {store : FsStore} {n : Nat} {draw : Draw} {p : ArtifactPost}
    {σ : Stores} {s : PostStage}
    (h : p.arrive n = s) : createArtifact store n draw p σ =
      (let next := fun x : PostStage × Stores => x.1.next store draw x.2; next (next (next (s, σ)))) := by
  unfold createArtifact
  rw [h]

section replay
variable {store : FsStore} {draw : Draw} {σ : Stores} {u : Upload} {p k : String}
    {row : ArtifactRow} {r : ArtifactRecord}

theorem next_registering (record : ArtifactRecord) : (PostStage.registering u record).next store draw σ =
    match registerArtifact store.env σ.db record (u.scope.map Prod.snd) (u.scope.map Prod.fst) with
    | .error e => (.answered (.error e), σ)
    | .ok (artifact, db) => (.answered (.ok artifact), { σ with db := db }) := rfl

theorem next_storing_error {e : Exc} {w : Volume} {j : Bool}
    (h : store.put σ.volume σ.initialised u.args draw.uuid4 draw.now = (.error e, w, j)) :
    (PostStage.storing u).next store draw σ = (.answered (.error e), ⟨w, j, σ.db⟩) := by
  unfold PostStage.next
  dsimp only
  rw [h]

theorem next_storing_ok {r : ArtifactRecord} {w : Volume} {j : Bool}
    (h : store.put σ.volume σ.initialised u.args draw.uuid4 draw.now = (.ok r, w, j)) :
    (PostStage.storing u).next store draw σ = (.registering u (u.attached r), ⟨w, j, σ.db⟩) := by
  unfold PostStage.next
  dsimp only
  rw [h]

theorem next_registering_error {record : ArtifactRecord} {e : Exc}
    (h : registerArtifact store.env σ.db record (u.scope.map Prod.snd) (u.scope.map Prod.fst) = .error e) :
    (PostStage.registering u record).next store draw σ = (.answered (.error e), σ) := by
  rw [next_registering, h]

theorem next_registering_ok {record a : ArtifactRecord} {db : Database}
    (h : registerArtifact store.env σ.db record (u.scope.map Prod.snd) (u.scope.map Prod.fst) = .ok (a, db)) :
    (PostStage.registering u record).next store draw σ = (.answered (.ok a), { σ with db := db }) := by
  rw [next_registering, h]

/-- The lookup finds the row the key is bound to. -/
theorem findArtifact_bound (hdb : WellFormed store.env σ.db) (hp : strip p ≠ "") (hmem : row ∈ σ.db.artifacts)
    (hkey : row.key = some (p, k)) (hread : rowToArtifact row = .ok r) :
    findArtifactByIdempotencyKey σ.db (some p) k = .ok (some r) := by
  have hb : (strip p == "") = false := by simpa using hp
  unfold findArtifactByIdempotencyKey Cer.requireProducerForKey
  simp only [hb, Bool.false_eq_true, if_false, ok_bind]
  rw [hdb.artifacts.distinct.find_key hmem hkey]
  dsimp only
  rw [hread]
  rfl

/-- Registering the candidate of a bound key hands back the row's record, or conflicts. -/
theorem register_bound (hdb : WellFormed store.env σ.db) (hp : strip p ≠ "") (hmem : row ∈ σ.db.artifacts)
    (hkey : row.key = some (p, k)) (hread : rowToArtifact row = .ok r) (hscope : u.scope = some (p, k))
    (hcol : store.env.NoCollision (canonical store.env (u.candidate store.env r).dump artifactIdemFpExclude)
      (canonical store.env r.dump artifactIdemFpExclude)) :
    (u.SameContent store.env r → (PostStage.registering u (u.candidate store.env r)).next store draw σ =
        (.answered (.ok r), σ)) ∧
      (¬ u.SameContent store.env r → ∃ m, (PostStage.registering u (u.candidate store.env r)).next store draw σ =
        (.answered (.error (idempotencyConflict m)), σ)) := by
  obtain ⟨a, k', p', _, rfl, hread'⟩ := (hdb.artifacts.origin row hmem).read
  obtain rfl : r = a := Except.ok.inj (hread.symm.trans hread')
  have hbound := hdb.run_bound (w := .registerArtifact (u.candidate store.env r) (some k) (some p))
    (κ := .artifacts) rfl (List.mem_map_of_mem hmem) hkey
    ⟨hdb.artifactRun _ hmem, hdb.artifactEvidence _ hmem⟩ fun _ => hp
  have hfp : (KeyedRow.artifact (r.toRow store.env k' p')).fp = some (r.idemFp store.env) := by
    obtain ⟨_, hsome, _⟩ := Option.bind_eq_some_iff.1 (hkey : (r.toRow store.env k' p').key = _)
    cases k' with
    | none => cases hsome
    | some l => rfl
  have hsame := @idemFp_eq_iff store.env u r hcol
  have hregister : ∀ {x}, registerArtifact store.env σ.db (u.candidate store.env r) (some k) (some p) = x →
      (PostStage.registering u (u.candidate store.env r)).next store draw σ = match x with
        | .error e => (.answered (.error e), σ)
        | .ok (artifact, db) => (.answered (.ok artifact), { σ with db := db }) := by
    rintro x rfl
    rw [next_registering, hscope]
    rfl
  constructor
  · intro h
    obtain ⟨rep, hrep, hrun⟩ := hbound.1 (hfp.trans (congrArg some (hsame.2 h).symm))
    obtain ⟨a, ha, rfl⟩ := asReply_ok hrun
    have hread'' : (rowToArtifact (r.toRow store.env k' p')).map Reply.artifact = .ok (.artifact a) := hrep
    rw [hread] at hread''
    cases hread''
    exact hregister ha
  · intro h
    obtain ⟨m, hm⟩ := hbound.2 fun he => h (hsame.1 (Option.some.inj (hfp.symm.trans he)).symm)
    refine ⟨m, ?_⟩
    cases hx : registerArtifact store.env σ.db (u.candidate store.env r) (some k) (some p) with
    | error e =>
      have he : asReply Reply.artifact
        (registerArtifact store.env σ.db (u.candidate store.env r) (some k) (some p)) =
          .error (idempotencyConflict m) := hm
      rw [hx] at he
      cases he
      exact hregister hx
    | ok y =>
      have he : asReply Reply.artifact
        (registerArtifact store.env σ.db (u.candidate store.env r) (some k) (some p)) =
          .error (idempotencyConflict m) := hm
      rw [hx] at he
      cases he

theorem truthy_some {v : String} (h : v ≠ "") : truthy (some v) = some v := if_neg h

theorem prepare_keyed {maxArtifactBytes : Nat} {post : ArtifactPost} {f : String}
    (filename : post.filename = some f)
    (named : f ≠ "") (size : post.data.length ≤ maxArtifactBytes) (producer : post.producer = some p)
    (keyed : post.idempotencyKey = some k) (given : k ≠ "") (hp : strip p ≠ "") :
    post.prepare maxArtifactBytes = .ok (post.upload f (some (p, k))) := by
  have hscope : requireProducerForKey (some p) = .ok p := by
    unfold requireProducerForKey
    dsimp only
    rw [isBlank_eq_false hp]
    rfl
  unfold ArtifactPost.prepare
  rw [filename, truthy_some named, keyed, truthy_some given, producer, hscope]
  dsimp only
  rw [if_neg (by omega)]
  rfl

/-- **An artifact replay is decided exactly and writes nothing.**  A request accepted under a bound key leaves both
stores alone; it is refused where its declared digest is not that of its bytes, and otherwise answered with the
record as it is stored just where digest, length, content type and filename are the record's. -/
theorem artifact_replay_is_decided (store : FsStore) (maxArtifactBytes : Nat) (draw : Draw) (post : ArtifactPost)
    {σ : Stores} (reached : Reachable store.env σ.db) {row : ArtifactRow} {p k : String}
    (bound : row ∈ σ.db.artifacts)
    (key : row.key = some (p, k)) {f : String} (filename : post.filename = some f) (named : f ≠ "")
    (size : post.data.length ≤ maxArtifactBytes) (producer : post.producer = some p)
    (keyed : post.idempotencyKey = some k) (given : k ≠ "") :
    ∃ r, rowToArtifact row = .ok r ∧
      (store.env.NoCollision (canonical store.env ((post.upload f (some (p, k))).candidate store.env r).dump
          artifactIdemFpExclude) (canonical store.env r.dump artifactIdemFpExclude) →
        ReplayDecided store.env (post.upload f (some (p, k))) r σ
          (createArtifact store maxArtifactBytes draw post σ)) := by
  have hp := scope_not_blank reached bound key
  have hdb := reached.wellFormed
  obtain ⟨r, _, _, _, _, hread⟩ := (hdb.artifacts.origin row bound).read
  refine ⟨r, hread, fun hcol => ?_⟩
  have hprepare := prepare_keyed filename named size producer keyed given hp
  generalize hu : post.upload f (some (p, k)) = u at hprepare hcol
  have hscope : u.scope = some (p, k) := by rw [← hu]; rfl
  have harrive : post.arrive maxArtifactBytes = .looking u p k := by
    unfold ArtifactPost.arrive
    rw [hprepare]
    dsimp only
    rw [hscope]
  have hfind := findArtifact_bound hdb hp bound key hread
  have hlook : (PostStage.looking u p k).next store draw σ = match u.overlay store.env r with
      | .error e => (.answered (.error e), σ)
      | .ok candidate => (.registering u candidate, σ) := by
    unfold PostStage.next
    dsimp only
    rw [hfind]
  rw [createArtifact_of_arrive harrive]
  dsimp only
  rw [hlook]
  by_cases hd : DigestDiffers store.env u.args
  · -- nothing is registered
    obtain ⟨m, hm⟩ : ∃ m, u.overlay store.env r = .error (ErrorClass.checksumMismatch.exc m) := ⟨_, if_pos hd⟩
    rw [hm]
    exact ⟨rfl, ⟨fun _ => hd, fun _ => ⟨m, rfl⟩⟩, fun hn => absurd hd hn, fun hn => absurd hd hn⟩
  · have hover : u.overlay store.env r = .ok (u.candidate store.env r) := if_neg hd
    rw [hover]
    obtain ⟨hsame, hother⟩ := @register_bound store draw σ u p k row r hdb hp bound key hread hscope hcol
    by_cases hs : u.SameContent store.env r
    · rw [hsame hs]
      refine ⟨rfl, ⟨?_, fun h => absurd h hd⟩, fun _ => ⟨fun _ => hs, fun _ => rfl⟩, fun _ hn => absurd hs hn⟩
      rintro ⟨m, hm⟩
      cases hm
    · obtain ⟨m, hm⟩ := hother hs
      rw [hm]
      refine ⟨rfl, ⟨?_, fun h => absurd h hd⟩, fun _ => ⟨fun h => ?_, fun h => absurd h hs⟩, fun _ _ => ⟨m, rfl⟩⟩
      · rintro ⟨m', hm'⟩
        cases hm'
      · cases h

end replay

/-! ## A retry -/

def samplePost : ArtifactPost :=
  { data := [], filename := some "orders.csv", declaredSha256 := none, runId := none, evidenceId := none
    producer := some "hsa", idempotencyKey := some "k", contentTypeDeclared := none,
    contentType := some "text/csv" }

def sampleUpload : Upload := samplePost.upload "orders.csv" (some ("hsa", "k"))

def sampleStore : FsStore := .reference .reference

/-- The record of the first attempt. -/
def samplePosted : ArtifactRecord := sampleStore.newRecord sampleUpload.args sampleDraw.uuid4 sampleDraw.now

def samplePostedDb : Database :=
  { Database.empty with artifacts := [samplePosted.toRow .reference (some "k") (some "hsa")] }

theorem samplePosted_valid : samplePosted.Valid :=
  FsStore.newRecord_valid (a := sampleUpload.args) (by decide +kernel) _ _

theorem samplePostedDb_reachable : Reachable .reference samplePostedDb :=
  .commit (w := .registerArtifact samplePosted (some "k") (some "hsa")) (.refl _) samplePosted_valid rfl

/-- The retry is answered with the record of the first attempt. -/
theorem sample_retry :
    (createArtifact sampleStore 1048576 sampleDraw samplePost ⟨.empty, false, samplePostedDb⟩).1.result =
        some (.ok samplePosted) ∧
      (createArtifact sampleStore 1048576 sampleDraw samplePost ⟨.empty, false, samplePostedDb⟩).2 =
        ⟨.empty, false, samplePostedDb⟩ := by
  have hreached : Reachable sampleStore.env samplePostedDb := samplePostedDb_reachable
  obtain ⟨r, hread, h⟩ := artifact_replay_is_decided sampleStore 1048576 sampleDraw samplePost
    (σ := ⟨.empty, false, samplePostedDb⟩) hreached (List.mem_singleton_self _) rfl rfl
    (by decide) (by decide) rfl rfl
    (by decide)
  obtain rfl := Except.ok.inj
    (hread.symm.trans (rowToArtifact_toRow .reference samplePosted_valid (some "k") (some "hsa")))
  -- the candidate is the record itself
  have hdecided := h fun _ => rfl
  have hdeclared : ¬ DigestDiffers sampleStore.env sampleUpload.args := by
    rintro ⟨d, hd, _⟩
    cases hd
  exact ⟨(hdecided.replay hdeclared).2 ⟨rfl, rfl, rfl, rfl⟩, hdecided.writesNothing⟩

end Cer.Api
