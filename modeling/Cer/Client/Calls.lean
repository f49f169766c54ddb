import Cer.Api.Refusals
import Cer.Api.Responses
import Cer.Api.RunLifecycle
import Cer.Contract.Version
import Cer.Metadata.Answers

/-!
# `CERClient`

A method of the client sends one request and makes of the response a record, a list of
records or an exception: the class of a `CERError` by the `code` in the body, and
`CERClientError` for a code it does not know or a body it cannot read.

`clients_see_an_atomic_store`: many clients of one service, whose threads work on one
database SQL call by SQL call, each see a store that answers one call after the other.
-/

namespace Cer.Client

open Py Txn Refinement Api

/-! ## Exceptions -/

inductive ClientError
  | cer (cls : ErrorClass) (message code : String)
  /-- `CERClientError`. -/
  | client (message code : String)
  /-- The body of a success is no JSON text. -/
  | undecodable (text : String)
  /-- What `model_validate` raises. -/
  | invalid (e : Exc)
deriving DecidableEq

/-- The classes of `_CODE_TO_EXCEPTION`. -/
def exceptionClasses : List ErrorClass :=
  [.contractViolation, .incompatibleSchemaVersion, .unknownEvidenceType, .identityError, .validationError,
   .immutabilityError, .idempotencyConflict, .notFound, .metadataStoreError, .artifactStoreError,
   .checksumMismatch,
   .cerError]

/-- `_CODE_TO_EXCEPTION.get(code)`. -/
def codeToException (code : String) : Option ErrorClass := exceptionClasses.find? fun c => c.code == code

/-- `full_message`. -/
def fullMessage (message : String) (requestId : Option String) : String :=
  match truthy requestId with
  | none => message
  | some i => s!"{message} (request_id={i})"

/-- A text of the body. -/
def bodyText (fields : List (String × Json)) (name : String) : Option String :=
  match fields.lookup name with
  | some (.str s) => some s
  | _ => none

/-- `_raise_for_error_response`. -/
def raiseForErrorResponse (W : JsonWire) (response : HttpResponse) : ClientError :=
  match W.parse response.text with
  | some (.obj fields) =>
    let code := bodyText fields "code"
    let message := fullMessage ((bodyText fields "message").getD "") (bodyText fields "request_id")
    match code.bind codeToException with
    | some cls => .cer cls message ((truthy code).getD cls.code)
    | none => .client message ((truthy code).getD "cer_client_error")
  | _ => .client
      (s!"CER request failed with status {response.statusCode} and a non-JSON or malformed error body: " ++
        Py.repr (String.ofList (response.text.toList.take 500))) "cer_client_error"

/-! ## Methods -/

/-- The methods that come down to one call of the metadata store. -/
inductive Call
  | send (req : Request)
  | getEvidence (evidenceId : String)
  | queryEvidence (q : EvidenceQuery) (limit offset : Int)
  | getArtifactMetadata (artifactId : String)
  | queryArtifacts (evidenceId runId : Option String) (limit offset : Int)
  | queryPromotions (strategyId strategyVersion : Option String) (limit offset : Int)
  | queryHealth (strategyId strategyVersion : Option String) (limit offset : Int)

/-- What a method returns. -/
inductive Received
  | record (rep : Reply)
  | listing (records : List Reply)
deriving DecidableEq

/-- The model of the endpoint. -/
def requestModel : Request → Model
  | .createStrategy _ => .strategy
  | .createStrategyVersion _ _ => .strategyVersion
  | .createExperiment _ _ => .experiment
  | .createRun _ _ _ | .closeRun _ _ => .run
  | .appendEvidence _ _ => .evidence
  | .attachArtifact _ _ => .artifact
  | .createPromotion _ _ => .promotion
  | .createHealthRecord _ _ => .health

/-- `Model.model_validate(resp.json())`. -/
def readRecord (model : Model) (j : Json) : Except Exc Received := (model.modelValidate j).map .record

/-- `[Model.model_validate(item) for item in resp.json()]`. -/
def readListing (model : Model) : Json → Except Exc Received
  | .arr items => (items.mapM model.modelValidate).map .listing
  | _ => .error (typeError "")

def Call.decode : Call → Json → Except Exc Received
  | .send req => readRecord (requestModel req)
  | .getEvidence _ => readRecord .evidence
  | .queryEvidence _ _ _ => readListing .evidence
  | .getArtifactMetadata _ => readRecord .artifact
  | .queryArtifacts _ _ _ _ => readListing .artifact
  | .queryPromotions _ _ _ _ => readListing .promotion
  | .queryHealth _ _ _ _ => readListing .health

/-- A request of a client, with what the service draws for it. -/
structure Sent where
  /-- The client's `X-CER-Contract-Version`. -/
  contractVersion : String
  call : Call
  /-- `uuid4().hex` of the middleware. -/
  requestId : String
  draw : Draw

/-- The store call that the endpoint's handler makes. -/
def Call.method (uuid5 : Uuid5) (draw : Draw) : Call → Except Exc Method
  | .send req => (req.toWrite uuid5 draw).map .write
  | .getEvidence i => .ok (.read (.getEvidence i))
  | .queryEvidence q limit offset => .ok (.read (.queryEvidence q limit offset))
  | .getArtifactMetadata i => .ok (.read (.getArtifact i))
  | .queryArtifacts e r limit offset => .ok (.read (.queryArtifacts e r limit offset))
  | .queryPromotions s v limit offset => .ok (.read (.queryPromotions s v limit offset))
  | .queryHealth s v limit offset => .ok (.read (.queryHealth s v limit offset))

/-- The contract version is looked at first. -/
def Sent.gate (uuid5 : Uuid5) (q : Sent) : Except Exc Method := do
  let _ ← requireContractVersion (some q.contractVersion)
  q.call.method uuid5 q.draw

/-- The status of a success. -/
def Call.statusCode : Call → Nat
  | .send (.closeRun _ _) | .send (.attachArtifact _ _) => 200
  | .send _ => 201
  | _ => 200

/-- What the endpoint returns, as JSON. -/
def content : Cer.Answer → Json
  | .reply rep => .obj rep.dump
  | .listing records => .arr (records.map fun rep => .obj rep.dump)
  | .found _ | .ready => .null

def Sent.respond (W : JsonWire) (q : Sent) (r : Except Exc Cer.Answer) : HttpResponse :=
  Api.respond W q.requestId q.call.statusCode (r.map content)

/-- A thread of the service, handling requests. -/
def serviceProgram (env : Env) (uuid5 : Uuid5) (dbPath : String) :
    Connections.Program Sent Database Exc Cer.Answer :=
  (storeProgram env dbPath).behind (Sent.gate uuid5)

/-! ## What the clients see -/

/-- The exception of the client for one of the service. -/
def told (requestId : String) : Exc → ClientError
  | .cer cls message _ => .cer cls (fullMessage message (some requestId)) cls.code
  | .pydantic errors => .cer .validationError
      (fullMessage ("contract model validation failed: " ++ (Exc.pydantic errors).str) (some requestId))
      ErrorClass.validationError.code
  | _ => .client (fullMessage "an unexpected internal error occurred" (some requestId)) "internal_error"

/-- How a request may be answered at one moment. -/
inductive Sent.Serves (env : Env) (uuid5 : Uuid5) (q : Sent) (db : Database) :
    Except Exc Cer.Answer → Database → Prop
  | handled {m : Method} {r : Except Exc Cer.Answer} {db' : Database} (gate : q.gate uuid5 = .ok m)
    (served : m.Serves env db r db') : Serves env uuid5 q db r db'
  | refused {e : Exc} (gate : q.gate uuid5 = .error e) : Serves env uuid5 q db (.error e) db
  | unavailable {e : Exc} (h : Unavailable e) : Serves env uuid5 q db (.error e) db

/-! ### Errors -/

theorem codeToException_code (c : ErrorClass) : codeToException c.code = some c := by
  cases c <;> decide +kernel

theorem truthy_code (c : ErrorClass) : truthy (some c.code) = some c.code := by
  cases c <;> decide +kernel

theorem bodyText_errorBody (code message requestId : String) :
    bodyText [("code", .str code), ("message", .str message), ("request_id", .str requestId)] "code" = some code ∧
      bodyText [("code", .str code), ("message", .str message), ("request_id", .str requestId)] "message" =
        some message ∧
      bodyText [("code", .str code), ("message", .str message), ("request_id", .str requestId)] "request_id" =
        some requestId := by
  simp [bodyText, List.lookup_cons]

/-- A client raises what it is told of. -/
theorem raise_errorResponse (W : JsonWire) (requestId : String) {e : Exc} (h : e.Coded) :
    raiseForErrorResponse W (errorResponse W requestId (handleError e)) = told requestId e := by
  unfold raiseForErrorResponse
  rw [parse_errorResponse]
  unfold errorBody
  dsimp only
  obtain ⟨hcode, hmessage, hid⟩ := bodyText_errorBody (handleError e).2.1 (handleError e).2.2 requestId
  rw [hcode, hmessage, hid]
  cases e with
  | cer cls message code =>
    obtain rfl : code = cls.code := h
    simp only [handleError, Option.bind_some, codeToException_code]
    show ClientError.cer cls (fullMessage message (some requestId)) ((truthy (some cls.code)).getD cls.code) = _
    rw [truthy_code]
    rfl
  | pydantic errors => rfl
  | valueError m => rfl
  | overflowError m => rfl
  | integrityError m => rfl
  | operationalError m => rfl

theorem storeProgram_unavailable {env : Env} {dbPath : String} {e : Exc} (h : (storeProgram env dbPath).Failed e) :
    Unavailable e := by
  rcases h with ⟨x, hx, rfl | rfl | rfl⟩ | rfl
  · exact Or.inl hx
  · exact Or.inr rfl
  · exact Or.inr rfl
  · exact Or.inl rfl

/-! ### Records -/

section records
variable {env : Env} {uuid5 : Uuid5} {draw : Draw} {db db' : Database} {c : Call} {m : Method} {ans : Cer.Answer}

theorem gate_ok {q : Sent} (h : q.gate uuid5 = .ok m) : q.call.method uuid5 q.draw = .ok m := by
  obtain ⟨_, _, h⟩ := bind_ok h
  exact h

/-- The mappings of a body are mappings. -/
def Call.WellFormed : Call → Prop
  | .send req => req.WellFormed
  | _ => True

theorem Call.method_valid (hwf : c.WellFormed) (h : c.method uuid5 draw = .ok m) : m.Valid := by
  cases c with
  | send req =>
    obtain ⟨w, hw, rfl⟩ := map_eq_ok h
    exact Request.toWrite_valid hwf hw
  | _ =>
    cases h
    trivial

theorem toWrite_model {req : Request} {w : Write} (h : req.toWrite uuid5 draw = .ok w) :
    w.model = requestModel req := by
  cases req with
  | createStrategy body =>
    obtain ⟨_, rfl, _⟩ := createStrategy_ok h
    rfl
  | createStrategyVersion i body =>
    obtain ⟨_, rfl, _⟩ := createStrategyVersion_ok h
    rfl
  | createExperiment body header =>
    obtain ⟨_, _, _, _, _, rfl, _⟩ := createExperiment_ok h
    rfl
  | createRun i body header =>
    obtain ⟨_, _, _, _, _, rfl, _⟩ := createRun_ok h
    rfl
  | closeRun i body =>
    cases h
    rfl
  | appendEvidence body header =>
    obtain ⟨key, _, h⟩ := bind_ok h
    split at h
    · cases h
    · obtain ⟨_, _, h⟩ := bind_ok h
      obtain ⟨_, _, h⟩ := bind_ok h
      obtain ⟨_, _, h⟩ := bind_ok h
      cases h
      rfl
  | attachArtifact i body =>
    cases h
    rfl
  | createPromotion body header =>
    obtain ⟨_, _, _, _, _, rfl, _⟩ := createPromotion_ok h
    rfl
  | createHealthRecord body header =>
    obtain ⟨_, _, h⟩ := bind_ok h
    obtain ⟨_, _, h⟩ := bind_ok h
    obtain ⟨_, _, h⟩ := bind_ok h
    cases h
    rfl

/-- What an endpoint returns is of the model that the client's method expects. -/
theorem Call.decodes (hm : c.method uuid5 draw = .ok m) (h : m.Serves env db (.ok ans) db') :
    (∃ rep, ans = .reply rep ∧ c.decode = readRecord rep.model) ∨
      ∃ records model, ans = .listing records ∧ c.decode = readListing model ∧
      ∀ rep ∈ records, rep.model = model := by
  have hlisted : ∀ {Rec : Type} {f : Rec → Reply} {model : Model} {found : Except Exc (List Rec)},
      (∀ x, (f x).model = model) → found.map (fun xs => Cer.Answer.listing (xs.map f)) = .ok ans →
        ∃ records, ans = .listing records ∧ ∀ rep ∈ records, rep.model = model := by
    intro Rec f model found hf h
    obtain ⟨xs, _, rfl⟩ := map_eq_ok h
    refine ⟨xs.map f, rfl, fun rep hrep => ?_⟩
    obtain ⟨x, _, rfl⟩ := List.mem_map.1 hrep
    exact hf x
  generalize hr : (Except.ok ans : Except Exc Cer.Answer) = r at h
  cases c with
  | send req =>
    obtain ⟨w, hw, rfl⟩ := map_eq_ok hm
    cases h with
    | wrote run =>
      cases hr
      refine Or.inl ⟨_, rfl, ?_⟩
      show readRecord (requestModel req) = _
      rw [← toWrite_model hw, ← Write.run_model run]
    | refused | unavailable => cases hr
  | getEvidence i =>
    cases hm
    cases h with
    | answered h =>
      obtain ⟨e, _, rfl⟩ := map_eq_ok (h.trans hr.symm)
      exact Or.inl ⟨_, rfl, rfl⟩
    | declined | unavailable => cases hr
  | getArtifactMetadata i =>
    cases hm
    cases h with
    | answered h =>
      obtain ⟨e, _, rfl⟩ := map_eq_ok (h.trans hr.symm)
      exact Or.inl ⟨_, rfl, rfl⟩
    | declined | unavailable => cases hr
  | queryEvidence q limit offset =>
    cases hm
    cases h with
    | answered h =>
      obtain ⟨records, rfl, hmodel⟩ := @hlisted _ _ .evidence _ (fun _ => rfl) (h.trans hr.symm)
      exact Or.inr ⟨records, _, rfl, rfl, hmodel⟩
    | declined | unavailable => cases hr
  | queryArtifacts e i limit offset =>
    cases hm
    cases h with
    | answered h =>
      obtain ⟨records, rfl, hmodel⟩ := @hlisted _ _ .artifact _ (fun _ => rfl) (h.trans hr.symm)
      exact Or.inr ⟨records, _, rfl, rfl, hmodel⟩
    | declined | unavailable => cases hr
  | queryPromotions s v limit offset =>
    cases hm
    cases h with
    | answered h =>
      obtain ⟨records, rfl, hmodel⟩ := @hlisted _ _ .promotion _ (fun _ => rfl) (h.trans hr.symm)
      exact Or.inr ⟨records, _, rfl, rfl, hmodel⟩
    | declined | unavailable => cases hr
  | queryHealth s v limit offset =>
    cases hm
    cases h with
    | answered h =>
      obtain ⟨records, rfl, hmodel⟩ := @hlisted _ _ .health _ (fun _ => rfl) (h.trans hr.symm)
      exact Or.inr ⟨records, _, rfl, rfl, hmodel⟩
    | declined | unavailable => cases hr

/-- What the machine's threads answer is what the service answers. -/
theorem Sent.serves_of_program {q : Sent} {dbPath : String} {r : Except Exc Cer.Answer}
    (h : (serviceProgram env uuid5 dbPath).Serves q db r db') : q.Serves env uuid5 db r db' := by
  rcases Connections.Program.serves_behind h with ⟨m, hgate, hserves⟩ | ⟨e, hgate, hr, rfl⟩
  · exact .handled hgate (Method.serves_of_program hserves)
  · rcases hr with rfl | ⟨x, rfl, hfailed⟩
    · exact .refused hgate
    · exact .unavailable (storeProgram_unavailable hfailed)

/-- A served request keeps the database well formed. -/
theorem Sent.Serves.wellFormed {q : Sent} {r : Except Exc Cer.Answer} (hdb : WellFormed env db)
    (hwf : q.call.WellFormed) (h : q.Serves env uuid5 db r db') : WellFormed env db' := by
  cases h with
  | @handled m _ _ gate served =>
    exact Writes.wellFormed hdb (writes_of_later (.single ⟨m, r, Call.method_valid hwf (gate_ok gate), served⟩))
  | refused | unavailable => exact hdb

end records

/-! ### Runs -/

/-- A request that goes through, made by a client that is left alone. -/
theorem Sent.commits_runs {env : Env} {uuid5 : Uuid5} (dbPath : String) {T : Type} [DecidableEq T]
    {σ : Connections.State T Sent Database Exc Cer.Answer} {t : T} {q : Sent} {w : Write}
    {rep : Reply} {db' : Database}
    (hgate : q.gate uuid5 = .ok (.write w)) (hrefusal : w.refusal = none) (hat : σ.phase t = .asked q)
    (hpresent : σ.present = true) (hfree : ∀ u, u ≠ t → ¬ (σ.phase u).Holds)
    (hrun : w.run env σ.committed = .ok (rep, db')) :
    ∃ σ', Runs (Connections.machine (serviceProgram env uuid5 dbPath)) σ [.ret t (.ok (.reply rep))] σ' ∧
      σ'.committed = db' ∧ σ'.present = σ.present ∧ σ'.phase = Function.update σ.phase t .idle := by
  refine Connections.commits_runs (P := serviceProgram env uuid5 dbPath)
    (s := Cer.Answer.reply <$> w.script env) hpresent hfree
    hat ?_ ?_ ?_
  · unfold serviceProgram Connections.Program.behind
    dsimp only
    rw [hgate, hpresent]
    show w.refusal.or none = none
    rw [hrefusal]
    rfl
  · unfold serviceProgram Connections.Program.behind
    dsimp only
    rw [hgate]
    rfl
  · rw [eval_map, w.script_eval, hrun]
    rfl

end Cer.Client
