import Cer.Api.ArtifactDownloads
import Cer.Client.Calls

/-!
# Artifacts through `CERClient`

`register_artifact` sends the bytes as the body of a request and the rest in its headers;
`download_artifact` returns the bytes of a response.

`artifacts_come_back`: what a producer registers is what every consumer is handed, whatever
other registrations, crashes and restarts lie between, and what goes wrong reaches both as
the exception of its class.
-/

namespace Cer.Client

open Py Api

/-! ## Methods -/

/-- The arguments of `register_artifact`. -/
structure RegisterArtifact where
  data : Bytes
  filename : String
  contentType : String
  declaredSha256 : Option String
  runId : Option String
  evidenceId : Option String
  producer : Option String
  idempotencyKey : Option String

/-- What it sends: a header for each argument that is there and not empty. -/
def RegisterArtifact.post (args : RegisterArtifact) : ArtifactPost where
  data := args.data
  filename := some args.filename
  declaredSha256 := truthy args.declaredSha256
  runId := truthy args.runId
  evidenceId := truthy args.evidenceId
  producer := truthy args.producer
  idempotencyKey := truthy args.idempotencyKey
  contentTypeDeclared := none
  contentType := some args.contentType

/-- `register_artifact`, of the response. -/
def receiveRegistered (W : JsonWire) (response : HttpResponse) : Except ClientError Received :=
  if 400 ≤ response.statusCode then .error (raiseForErrorResponse W response)
  else match W.parse response.text with
    | none => .error (.undecodable response.text)
    | some j => match readRecord .artifact j with
      | .error e => .error (.invalid e)
      | .ok received => .ok received

/-- The service's response to a registration, or to a request for a record. -/
def respondRecord (W : JsonWire) (requestId : String) (statusCode : Nat)
    (r : Except Exc ArtifactRecord) : HttpResponse :=
  Api.respond W requestId statusCode (r.map fun a => content (.reply (.artifact a)))

/-- The service's response to a download: a text of JSON or raw bytes. -/
def respondDownload (W : JsonWire) (requestId : String) : Except Exc RawResponse → HttpResponse ⊕ RawResponse
  | .error e => .inl (errorResponse W requestId (handleError e))
  | .ok raw => .inr raw

/-- `download_artifact`, of the response. -/
def receiveDownload (W : JsonWire) : HttpResponse ⊕ RawResponse → Except ClientError Bytes
  | .inl response =>
    if 400 ≤ response.statusCode then .error (raiseForErrorResponse W response) else .ok (encodeUtf8 response.text)
  | .inr raw => .ok raw.content

section receive
variable (W : JsonWire) (requestId : String)

theorem isFinite_artifact (a : ArtifactRecord) : isFinite (.obj a.dump) = true := by
  have hopt : ∀ t : Option String, isFinite (optStr t) = true := by
    intro t
    cases t <;> rfl
  simp [ArtifactRecord.dump, isFinite, isFiniteFields, hopt]

theorem receive_reply {statusCode : Nat} (success : statusCode < 400) {rep : Reply} (hvalid : rep.Valid)
    (hmodel : rep.model = .artifact) (hfinite : isFinite (.obj rep.dump) = true) :
    receiveRegistered W (Api.respond W requestId statusCode (.ok (.obj rep.dump))) =
      .ok (.record rep.jsonMode) := by
  obtain ⟨text, hrender, hparse⟩ := W.parse_render _ (Reply.nodupKeys_dump hvalid) hfinite
  have hresponse : Api.respond W requestId statusCode (.ok (.obj rep.dump)) = ⟨statusCode, requestId, text⟩ := by
    unfold Api.respond
    simp only [hrender]
  have hread : readRecord .artifact (.obj rep.dump) = .ok (.record rep.jsonMode) := by
    unfold readRecord
    rw [← hmodel, Reply.modelValidate_dump hvalid]
    rfl
  unfold receiveRegistered
  rw [hresponse, if_neg (Nat.not_le.2 success)]
  dsimp only
  rw [hparse]
  dsimp only
  rw [hread]

/-- A record arrives. -/
theorem receive_artifact {statusCode : Nat} (success : statusCode < 400) {a : ArtifactRecord} (hvalid : a.Valid) :
    receiveRegistered W (respondRecord W requestId statusCode (.ok a)) = .ok (.record (.artifact a)) :=
  @receive_reply W requestId statusCode success (.artifact a) hvalid rfl (isFinite_artifact a)

/-- An exception arrives. -/
theorem receive_artifact_error (statusCode : Nat) {e : Exc} (h : e.Coded) :
    receiveRegistered W (respondRecord W requestId statusCode (.error e)) = .error (told requestId e) := by
  unfold receiveRegistered
  rw [if_pos]
  · exact congrArg Except.error (raise_errorResponse W requestId h)
  · exact handleError_status e

theorem receive_download_error {e : Exc} (h : e.Coded) :
    receiveDownload W (respondDownload W requestId (.error e)) = .error (told requestId e) := by
  unfold receiveDownload respondDownload
  dsimp only
  rw [if_pos]
  · exact congrArg Except.error (raise_errorResponse W requestId h)
  · exact handleError_status e

end receive

/-! ## What a registration and a download answer -/

theorem coded_stat (store : FsStore) (v : Volume) (initialised : Bool) (artifactId : String) :
    Coded (store.stat v initialised artifactId) := by
  have hname : Coded (sidecarName artifactId) :=
    coded_bind (coded_ite (coded_error.2 rfl) (coded_ok _)) fun _ => coded_ok _
  refine coded_bind hname fun name => ?_
  split
  · exact coded_error.2 trivial
  · exact coded_error.2 rfl
  · split
    · exact coded_bind (coded_ite (coded_error.2 rfl) (coded_ok _)) fun _ => coded_error.2 rfl
    · split
      · exact coded_error.2 rfl
      · exact coded_ok _

theorem coded_downloadArtifact (store : FsStore) (v : Volume) (initialised : Bool) (artifactId : String) :
    Coded (downloadArtifact store v initialised artifactId) := by
  have hget : Coded (store.get v initialised artifactId) := by
    refine coded_bind (coded_stat store v initialised artifactId) fun record => ?_
    split
    · exact coded_error.2 rfl
    · exact coded_ite (coded_error.2 rfl) (coded_ok _)
  exact coded_bind (coded_stat store v initialised artifactId) fun _ => coded_bind hget fun _ => coded_ok _

/-- A valid record, or an exception with the code of its class where the filename is one. -/
def GoodAnswer (post : ArtifactPost) : Except Exc ArtifactRecord → Prop
  | .ok a => a.Valid
  | .error e => (∀ f ∈ post.filename, f ≠ "" → strip f ≠ "") → e.Coded

def GoodAnswers {C : Type} (σ : PostState C) : Prop :=
  ∀ c post r, σ.posts c = some (post, .answered r) → GoodAnswer post r

section answers
variable {C : Type} {store : FsStore} {σ τ : PostState C} {post : ArtifactPost} {draw : Draw} {i : Bool}

theorem coded_prepare (maxArtifactBytes : Nat) (post : ArtifactPost) : Coded (post.prepare maxArtifactBytes) := by
  have hproducer : ∀ producer, Coded (Api.requireProducerForKey producer) := by
    intro producer
    unfold Api.requireProducerForKey
    dsimp only
    split
    · exact coded_error.2 rfl
    · exact coded_ite (coded_error.2 rfl) (coded_ok _)
  unfold ArtifactPost.prepare
  split
  · exact coded_error.2 rfl
  · refine coded_ite (coded_error.2 rfl) ?_
    split
    · exact coded_ok _
    · exact coded_bind (hproducer _) fun _ => coded_ok _

theorem coded_overlay (env : Env) (u : Upload) (prior : ArtifactRecord) : Coded (u.overlay env prior) :=
  coded_ite (coded_error.2 rfl) (coded_ok _)

/-- Only the checks that the handler has already made carry codes of their own. -/
theorem coded_put {u : Upload} {v w : Volume} {i j : Bool} {e : Exc} (hprepared : Prepared store.maxBytes post u)
    (named : ∀ f ∈ post.filename, f ≠ "" → strip f ≠ "")
    (h : store.put v i u.args draw.uuid4 draw.now = (.error e, w, j)) : e.Coded := by
  cases hc : store.checkPut u.args with
  | error x =>
    rw [put_refused hc] at h
    cases h
    obtain ⟨f, hf, hne, hu⟩ := hprepared.upload
    have hsize := hprepared.size
    rw [hu] at hc
    unfold FsStore.checkPut ArtifactPost.upload at hc
    dsimp only at hc
    rw [if_neg (by simpa using resolveArtifactContentType_not_blank _ _), if_neg (by simpa using named f hf hne),
      if_neg (Nat.not_lt.2 hsize)] at hc
    split at hc
    · cases hc
    · split at hc
      · cases hc
        rfl
      · cases hc
  | ok _ =>
    rw [FsStore.put_checked hc] at h
    split at h
    · next x hb =>
      cases h
      obtain ⟨_, _, rfl⟩ := FsStore.backing_error hb
      rfl
    · split at h
      · next x hs =>
        cases h
        obtain ⟨rfl, _⟩ := FsStore.storeBlob_error hs
        rfl
      · cases h

/-- A registration is answered with a valid record. -/
theorem valid_registered (hinv : PostInv store σ) {u : Upload} {record a : ArtifactRecord} {db : Database}
    (hstage : StageOk store σ post (.registering u record))
    (hreg : registerArtifact store.env σ.db record (u.scope.map Prod.snd) (u.scope.map Prod.fst) =
      .ok (a, db)) : a.Valid := by
  have hdb := hinv.reached.wellFormed
  have hread : ∀ {row}, row ∈ σ.db.artifacts → rowToArtifact row = .ok a → a.Valid := by
    intro row hrow hread
    obtain ⟨x, _, _, hvalid, _, hx⟩ := (hdb.artifacts.origin row hrow).read
    exact Except.ok.inj (hx.symm.trans hread) ▸ hvalid
  obtain ⟨_, _, hrun⟩ := bind_ok hreg
  obtain ⟨_, _, hrun⟩ := bind_ok hrun
  obtain ⟨_, _, hrun⟩ := bind_ok hrun
  rcases Submission.run_ok hrun with ⟨row, hby, _, hreplay, _⟩ | ⟨row, _, hid, hexisting, _⟩ |
    ⟨_, _, hins, hrecord⟩
  · exact hread (Submission.byKey_mem hby).1 hreplay
  · have hexisting : (if row.contentFingerprint ≠ record.fp store.env then _
      else rowToArtifact row) = .ok a := hexisting
    split at hexisting
    · cases hexisting
    · exact hread (List.mem_of_find?_eq_some hid) hexisting
  · obtain rfl : a = record := hrecord
    rcases registerArtifact_ok hreg with hsame | ⟨_, hrun, hevidence, hfresh⟩
    · have hlength := congrArg (fun d => d.artifacts.length) ((Table.insert_ok hins).symm.trans hsame)
      simp [artifactSubmission, artifactsTable] at hlength
    · rcases hstage.2 with ⟨x, hkept, rfl⟩ | ⟨row, hrow, hid⟩
      · exact valid_attached hkept.stored.valid hdb hrun hevidence
      · exact absurd hid (hfresh row hrow)

theorem goodAnswer_next (hinv : PostInv store σ) {c : C} {stage : PostStage}
    (pending : σ.posts c = some (post, stage))
    (unanswered : stage.result = none) {r : Except Exc ArtifactRecord}
    (h : (stage.next store draw (σ.stores i)).1 = .answered r) : GoodAnswer post r := by
  obtain ⟨_, _, hstage⟩ := hinv.posts c post stage pending
  cases stage with
  | answered result => cases unanswered
  | looking u p k =>
    obtain ⟨next, he, hlook⟩ := next_looking store draw (σ.stores i) u p k
    rw [he] at h
    dsimp only at h
    subst h
    generalize hn : PostStage.answered r = next at hlook
    cases hlook with
    | fails e find =>
      cases hn
      intro _
      have hcoded := Query.coded_answer store.env σ.db (.findArtifactByIdempotencyKey (some p) k)
      exact hcoded e (congrArg (Except.map _) find)
    | refused prior e overlay =>
      cases hn
      exact fun _ => coded_overlay _ _ _ e overlay
    | free => cases hn
    | bound => cases hn
  | storing u =>
    rcases hput : store.put σ.volume i u.args draw.uuid4 draw.now with ⟨res, w, j⟩
    cases res with
    | ok x =>
      have hnext := congrArg Prod.fst (@next_storing_ok store draw (σ.stores i) u x w j hput)
      rw [hnext] at h
      cases h
    | error e =>
      have hnext := congrArg Prod.fst (@next_storing_error store draw (σ.stores i) u e w j hput)
      rw [hnext] at h
      cases h
      exact fun named => coded_put (prepare_ok hstage) named hput
  | registering u record =>
    cases hreg : registerArtifact store.env σ.db record (u.scope.map Prod.snd) (u.scope.map Prod.fst) with
    | error e =>
      have hnext := congrArg Prod.fst (@next_registering_error store draw (σ.stores i) u record e hreg)
      rw [hnext] at h
      cases h
      intro _
      have hcoded := Write.coded_run store.env σ.db
        (.registerArtifact record (u.scope.map Prod.snd) (u.scope.map Prod.fst))
      exact hcoded e (congrArg (asReply Reply.artifact) hreg)
    | ok x =>
      obtain ⟨a, db⟩ := x
      have hnext := congrArg Prod.fst (@next_registering_ok store draw (σ.stores i) u record a db hreg)
      rw [hnext] at h
      cases h
      exact valid_registered hinv hstage hreg

variable [DecidableEq C]

theorem GoodAnswers.update (h : GoodAnswers σ) {c : C} {x : Option (ArtifactPost × PostStage)}
    (hposts : τ.posts = Function.update σ.posts c x) (hx : ∀ post r, x = some (post, .answered r) →
      GoodAnswer post r) :
    GoodAnswers τ := by
  intro d post r hd
  rw [hposts] at hd
  by_cases hdc : d = c
  · rw [hdc, Function.update_self] at hd
    exact hx post r hd
  · rw [Function.update_of_ne hdc] at hd
    exact h d post r hd

theorem GoodAnswers.step {e : PostEvent C} (h : GoodAnswers σ) (hinv : PostInv store σ)
    (step : PostStep store σ e τ) :
    GoodAnswers τ := by
  cases step with
  | stop => exact fun c post r hc => h c post r (endPost_some hc).1
  | crash c => exact h.update rfl fun post r hx => h c post r (endPost_some hx).1
  | arrive c post i running idle bytes =>
    refine h.update rfl fun q r hx => ?_
    obtain ⟨rfl, harrive⟩ := Prod.mk.inj (Option.some.inj hx)
    unfold ArtifactPost.arrive at harrive
    split at harrive
    · next x hprepare =>
      cases harrive
      exact fun _ => coded_prepare _ _ x hprepare
    · split at harrive <;> cases harrive
  | call c draw post stage i running pending unanswered fresh =>
    refine h.update rfl fun q r hx => ?_
    obtain ⟨rfl, hnext⟩ := Prod.mk.inj (Option.some.inj hx)
    exact goodAnswer_next hinv pending unanswered hnext
  | _ => exact h

theorem goodAnswers_of_run (run : PostRun store Sane (.start C) σ) : PostInv store σ ∧ GoodAnswers σ := by
  induction run with
  | refl => exact ⟨.start, fun c post r hc => by cases hc⟩
  | step _ good step ih =>
    obtain ⟨hinv, hanswers⟩ := ih
    exact ⟨hinv.step good step, hanswers.step hinv step⟩

/-! ## The guarantee -/

/-- **What is registered through the client comes back through the client**, in every run of the
registry that starts no process blind over a lost volume: the producer is handed the record that the
service answered with, which says what was sent; a consumer that asks for it is handed the same
content and downloads the very bytes, or, while the volume is missing, is told that the artifact
store failed; and a refusal arrives as the exception of its class. -/
theorem artifacts_come_back (W : JsonWire) (run : PostRun store Sane (.start C) σ)
    (collisionFree : CollisionFree store σ.arrived) {c : C} {args : RegisterArtifact}
    {r : Except Exc ArtifactRecord}
    (named : strip args.filename ≠ "") (answered : σ.posts c = some (args.post, .answered r))
    (requestId : String) :
    (∀ a, r = .ok a →
      receiveRegistered W (respondRecord W requestId 201 r) = .ok (.record (.artifact a)) ∧
      a.content = args.post.content store.env ∧
      (∃ b, receiveRegistered W (respondRecord W requestId 200 (getArtifactMetadata σ.db a.artifactId)) =
        .ok (.record (.artifact b)) ∧ b.artifactId = a.artifactId ∧ b.content = a.content) ∧
      (σ.volume.backingPresent = true → ∀ i,
        receiveDownload W (respondDownload W requestId
          (downloadArtifact store σ.volume i a.artifactId)) = .ok args.data) ∧
      (σ.volume.backingPresent = false → ∀ i, σ.process = some i → ∃ cls message,
        cls.isSubclass .artifactStoreError = true ∧
        receiveDownload W (respondDownload W requestId (downloadArtifact store σ.volume i a.artifactId)) =
          .error (.cer cls message cls.code))) ∧
    ∀ e, r = .error e → receiveRegistered W (respondRecord W requestId 201 r) = .error (told requestId e) := by
  obtain ⟨hinv, hanswers⟩ := run.answers
  have hgood := (goodAnswers_of_run run).2 c args.post r answered
  have harr := (hinv.posts c args.post _ answered).1
  constructor
  · rintro a rfl
    have hgiven : Api.Given store σ.db args.post a := hanswers collisionFree c args.post _ answered
    obtain ⟨b, hb, hvalid, hid, hcontent⟩ := hgiven.described hinv
    refine ⟨receive_artifact W requestId (by decide) hgood, hgiven.1, ⟨b, ?_, hid, hcontent⟩, fun present i => ?_,
      fun absent i running => ?_⟩
    · rw [hb]
      exact receive_artifact W requestId (by decide) hvalid
    · rw [hgiven.downloaded hinv collisionFree harr present]
      rfl
    · obtain ⟨e, hfails, hstore, _⟩ := hgiven.unavailable hinv absent running
      have hcoded : e.Coded := coded_downloadArtifact store σ.volume i a.artifactId e hfails
      rw [hfails, receive_download_error W requestId hcoded]
      cases e with
      | cer cls message code => exact ⟨cls, _, hstore, rfl⟩
      | _ => cases hstore
  · rintro e rfl
    refine receive_artifact_error W requestId 201 (hgood fun f hf _ => ?_)
    cases hf
    exact named

end answers

/-- The registration of `samplePost`, as a producer makes it. -/
def sampleArgs : RegisterArtifact where
  data := samplePost.data
  filename := "orders.csv"
  contentType := "text/csv"
  declaredSha256 := none
  runId := none
  evidenceId := none
  producer := some "hsa"
  idempotencyKey := some "k"

/-- It is handed its record, and a consumer its bytes. -/
theorem sampleArgs_come_back : ∃ σ : PostState Bool,
    receiveRegistered (.compact .exact) (respondRecord (.compact .exact) "req" 201 (.ok samplePosted)) =
      .ok (.record (.artifact samplePosted)) ∧
    receiveDownload (.compact .exact) (respondDownload (.compact .exact) "req"
      (downloadArtifact sampleStore σ.volume true samplePosted.artifactId)) = .ok sampleArgs.data := by
  obtain ⟨σ, run, h, present, hcol⟩ := samplePost_undisturbed
  have hnamed : strip sampleArgs.filename ≠ "" := by decide
  have hposted : σ.posts false = some (sampleArgs.post, .answered (.ok samplePosted)) := h.answered
  obtain ⟨hrecord, _, _, hbytes, _⟩ :=
    (artifacts_come_back (.compact .exact) run hcol hnamed hposted "req").1 _ rfl
  exact ⟨σ, hrecord, hbytes present true⟩

end Cer.Client
