import Cer.Api.Retries
import Cer.Client.Calls
import Cer.Metadata.Attachment

/-!
# What was acknowledged

Clients call at the same time, some get no answer and call again, and the process may
stop anywhere.  `acknowledged_once`: whoever is told of a record under an idempotency key
is told of the one that the database holds under it, and said the same.
`retry_is_acknowledged`: who sends again what was acknowledged is told so again.
-/

namespace Cer.Client

open Py Txn Refinement Api

/-- A call and its answer. -/
abbrev Told := Sent × Except Exc Cer.Answer

/-- The submission of a producer that the call makes. -/
def Sent.Submits (q : Sent) (x : Post) : Prop := q.call = .send x.req ∧ q.draw = x.draw

/-- The submissions of a run. -/
def Submitted {T : Type} (shown : List (Event T Sent (Except Exc Cer.Answer))) (x : Post) : Prop :=
  ∃ t q, .call t q ∈ shown ∧ q.Submits x

/-- The two are under one idempotency key. -/
structure SameKey (x y : Post) : Prop where
  table : x.table = y.table
  producer : x.producer = y.producer
  key : x.key = y.key
  given : (truthy x.key).isSome

/-- The call submitted, and was told of a record. -/
def Told.Acknowledges (a : Told) (x : Post) (rep : Reply) : Prop := a.1.Submits x ∧ a.2 = .ok (.reply rep)

/-- They say the same: the same canonical JSON, without the fields that a fingerprint leaves out. -/
def SameContent (env : Env) (uuid5 : Uuid5) (x y : Post) : Prop :=
  ∃ w w', x.req.toWrite uuid5 x.draw = .ok w ∧ y.req.toWrite uuid5 y.draw = .ok w' ∧ w.content env = w'.content env

/-- SHA-256 tells the canonical texts of the submissions apart. -/
def TextsDistinct (env : Env) (uuid5 : Uuid5) (posts : Post → Prop) : Prop :=
  ∀ x y, posts x → posts y → ∀ w w', x.req.toWrite uuid5 x.draw = .ok w → y.req.toWrite uuid5 y.draw = .ok w' →
    env.NoCollision (w.content env) (w'.content env)

section served
variable {env : Env} {uuid5 : Uuid5} {q : Sent} {db db' : Database} {r : Except Exc Cer.Answer}
    {posts : Post → Prop}

/-- **A served request** is a write that went through, or leaves the database as it was. -/
theorem Sent.Serves.of_send {req : Request} (hq : q.call = .send req) (h : q.Serves env uuid5 db r db') :
    (∃ w rep, req.toWrite uuid5 q.draw = .ok w ∧ w.run env db = .ok (rep, db') ∧ r = .ok (.reply rep)) ∨
      (∃ e, r = .error e) ∧ db' = db := by
  cases h with
  | handled gate served =>
    have hmethod := gate_ok gate
    rw [hq] at hmethod
    obtain ⟨w, hw, rfl⟩ := map_eq_ok hmethod
    cases served with
    | wrote run => exact Or.inl ⟨w, _, hw, run, rfl⟩
    | refused | unavailable => exact Or.inr ⟨⟨_, rfl⟩, rfl⟩
  | refused | unavailable => exact Or.inr ⟨⟨_, rfl⟩, rfl⟩

theorem Sent.Serves.of_other (hq : ∀ req, q.call ≠ .send req) (h : q.Serves env uuid5 db r db') : db' = db := by
  cases h with
  | handled gate served =>
    have hmethod := gate_ok gate
    cases hc : q.call with
    | send req => exact absurd hc (hq req)
    | _ =>
      rw [hc] at hmethod
      cases hmethod
      cases served <;> rfl
  | refused | unavailable => rfl

/-- What is no submission of a producer goes to none of the tables with keys. -/
theorem Sent.submits_of_toWrite {req : Request} {w : Write} (hq : q.call = .send req) (hwf : req.WellFormed)
    (hw : req.toWrite uuid5 q.draw = .ok w) : w.target = none ∨ ∃ x, q.Submits x := by
  cases req with
  | createStrategy body =>
    obtain ⟨_, rfl, _⟩ := createStrategy_ok hw
    exact Or.inl rfl
  | createStrategyVersion i body =>
    obtain ⟨_, rfl, _⟩ := createStrategyVersion_ok hw
    exact Or.inl rfl
  | closeRun i body =>
    cases hw
    exact Or.inl rfl
  | attachArtifact i body =>
    cases hw
    exact Or.inl rfl
  | createExperiment body header =>
    obtain ⟨key, _, _, hkey, _⟩ := createExperiment_ok hw
    exact Or.inr ⟨⟨_, q.draw, .experiments, body.producer, key, hwf, header, body.idempotencyKey,
      rfl, hkey⟩, hq, rfl⟩
  | createRun i body header =>
    obtain ⟨key, _, _, hkey, _⟩ := createRun_ok hw
    exact Or.inr ⟨⟨_, q.draw, .runs, body.producer, key, hwf, header, body.idempotencyKey, rfl, hkey⟩, hq, rfl⟩
  | appendEvidence body header =>
    obtain ⟨key, _, _, hkey, _⟩ := appendEvidence_ok hwf.1 hwf.2 hw
    exact Or.inr ⟨⟨_, q.draw, .evidence, body.producer, some key, hwf, header,
      body.idempotencyKey, rfl, hkey⟩, hq, rfl⟩
  | createPromotion body header =>
    obtain ⟨key, _, _, hkey, _⟩ := createPromotion_ok hw
    exact Or.inr ⟨⟨_, q.draw, .promotions, body.producer, key, hwf, header, body.idempotencyKey,
      rfl, hkey⟩, hq, rfl⟩
  | createHealthRecord body header =>
    obtain ⟨key, _, _, hkey, _⟩ := createHealthRecord_ok hwf hw
    exact Or.inr ⟨⟨_, q.draw, .healthRecords, body.producer, key, hwf, header,
      body.idempotencyKey, rfl, hkey⟩, hq, rfl⟩

/-- What a call that submits leaves is what its submission leaves. -/
theorem Post.next_of_run {x : Post} {w : Write} {rep : Reply} (hw : x.req.toWrite uuid5 x.draw = .ok w)
    (hrun : w.run env db = .ok (rep, db')) :
    x.next env uuid5 db = db' ∧ x.outcome env uuid5 db = .ok (rep, decide (db' ≠ db)) := by
  constructor
  · unfold Post.next
    rw [handle_of_toWrite hw, hrun]
  · unfold Post.outcome
    rw [handle_of_toWrite hw, hrun]
    rfl

/-- The state of a run: every row with a key is one of its submissions'. -/
structure Kept (env : Env) (uuid5 : Uuid5) (posts : Post → Prop) (db : Database) : Prop where
  reachable : Reachable env db
  minted : Minted uuid5 posts db

theorem Kept.serves (hkept : Kept env uuid5 posts db) (hwf : q.call.WellFormed)
    (hposts : ∀ x, q.Submits x → posts x)
    (h : q.Serves env uuid5 db r db') : Kept env uuid5 posts db' := by
  by_cases hsend : ∃ req, q.call = .send req
  · obtain ⟨req, hq⟩ := hsend
    rw [hq] at hwf
    rcases h.of_send hq with ⟨w, rep, hw, hrun, rfl⟩ | ⟨_, rfl⟩
    · have hv : w.Valid := Request.toWrite_valid hwf hw
      refine ⟨hkept.reachable.commit hv hrun, ?_⟩
      rcases Sent.submits_of_toWrite hq hwf hw with htarget | ⟨x, hx⟩
      · have hnext : Minted uuid5 posts ((Delivery.call w hv htarget).next env uuid5 db) :=
          hkept.minted.next trivial
        have hdb : (Delivery.call w hv htarget).next env uuid5 db = db' := by
          unfold Delivery.next
          dsimp only
          rw [hrun]
        rwa [hdb] at hnext
      · obtain ⟨hreq, hdraw⟩ := hx
        obtain rfl : req = x.req := by
          rw [hq] at hreq
          exact Call.send.inj hreq
        have hnext : Minted uuid5 posts ((Delivery.post x).next env uuid5 db) :=
          hkept.minted.next (hposts x ⟨hq, hdraw⟩)
        rw [hdraw] at hw
        have hdb : (Delivery.post x).next env uuid5 db = db' := (Post.next_of_run hw hrun).1
        rwa [hdb] at hnext
    · exact hkept
  · rw [h.of_other fun req hq => hsend ⟨req, hq⟩]
    exact hkept

/-- An acknowledged submission under a key has the row of the key. -/
theorem Kept.recorded (hkept : Kept env uuid5 posts db) (hnamed : Named uuid5 posts) {x : Post} (hx : q.Submits x)
    (hpost : posts x) {rep : Reply} (h : q.Serves env uuid5 db (.ok (.reply rep)) db') :
    ∃ created, (Delivery.post x).Recorded env uuid5 (.ok (rep, created)) db' := by
  obtain ⟨hq, hdraw⟩ := hx
  rcases h.of_send hq with ⟨w, rep', hw, hrun, hr⟩ | ⟨⟨e, he⟩, _⟩
  · cases hr
    rw [hdraw] at hw
    obtain ⟨hnext, houtcome⟩ := Post.next_of_run hw hrun
    have hrecorded := Post.recorded hkept.reachable hkept.minted hnamed hpost ⟨_, houtcome⟩
    rw [houtcome, hnext] at hrecorded
    exact ⟨_, hrecorded⟩
  · cases he

theorem Sent.Serves.gate_passed {ans : Cer.Answer} (h : q.Serves env uuid5 db (.ok ans) db') : ∃ m,
    q.gate uuid5 = .ok m := by
  cases h with
  | handled gate _ => exact ⟨_, gate⟩

/-- A retry asks of the store the same write, at another time. -/
theorem Sent.gate_again {q' : Sent} {x : Post} (hx : q.Submits x) {k : String}
    (hk : truthy x.key = some k) {m : Method}
    (hm : q.gate uuid5 = .ok m) {w : Write} (hw : x.req.toWrite uuid5 x.draw = .ok w)
    (hversion : q'.contractVersion = q.contractVersion) (hcall : q'.call = q.call) :
    ∃ t, q'.gate uuid5 = .ok (.write (w.at t)) := by
  obtain ⟨version, hpassed, _⟩ := bind_ok hm
  obtain ⟨t, ht⟩ := Post.toWrite_again (x := x) (y := { x with draw := q'.draw }) rfl hk hw
  refine ⟨t, ?_⟩
  unfold Sent.gate
  rw [hversion, hpassed, hcall, hx.1, ok_bind]
  show (x.req.toWrite uuid5 q'.draw).map Method.write = _
  rw [ht]
  rfl

theorem Write.refusal_of_keyed {w : Write} {κ : KeyedTable} {p k : String} (h : w.keyed = some (κ, p, k)) :
    w.refusal = none := by
  cases w with
  | closeRun i s t => cases h
  | _ => rfl

/-- Where the key of a submission has its row, a retry is told of that row, or that the store could not be used. -/
theorem Recorded.retry (hdb : Reachable env db) {q' : Sent} {x : Post} {k : String} (hk : truthy x.key = some k)
    {rep : Reply} {created : Bool} (hx : (Delivery.post x).Recorded env uuid5 (.ok (rep, created)) db)
    (hagain : ∀ w, x.req.toWrite uuid5 x.draw = .ok w → ∃ t, q'.gate uuid5 = .ok (.write (w.at t)))
    (h : q'.Serves env uuid5 db r db') :
    (∃ rep', r = .ok (.reply rep') ∧ rep'.ident = rep.ident) ∨ ∃ e, r = .error e ∧ Unavailable e := by
  obtain ⟨w, rep₀, created₀, row, hw, hrefs, ho, hrow, hkey, hfp, hident⟩ := hx k hk
  cases ho
  obtain ⟨t, hgate⟩ := hagain w hw
  have hkeyed : (w.at t).keyed = some (x.table, x.producer, k) := by
    rw [Write.at_keyed, (Post.toWrite_ok hw).2.2, (truthy_eq_some hk).1]
    rfl
  obtain ⟨rep₁, hread, hreplay⟩ := (hdb.wellFormed.run_bound hkeyed hrow hkey (Write.at_refsExist hrefs)
    (fun hκ => absurd hκ x.table_ne)).1 (by rw [Write.at_content, hfp])
  obtain ⟨rep₂, hread', hid, _⟩ := hdb.wellFormed.read_keyedRow hrow
  obtain rfl : rep₁ = rep₂ := Except.ok.inj (hread.symm.trans hread')
  cases h with
  | handled gate served =>
    rw [hgate] at gate
    cases gate
    cases served with
    | wrote run =>
      obtain rfl := (Prod.mk.inj (Except.ok.inj (run.symm.trans hreplay))).1
      exact Or.inl ⟨_, rfl, hid.trans hident⟩
    | refused h =>
      rcases h with h | h
      · rw [Write.refusal_of_keyed hkeyed] at h
        cases h
      · rw [hreplay] at h
        cases h
    | unavailable h => exact Or.inr ⟨_, rfl, h⟩
  | refused gate =>
    rw [hgate] at gate
    cases gate
  | unavailable h => exact Or.inr ⟨_, rfl, h⟩

end served

/-! ## Runs -/

/-- A call of a run is served. -/
structure Sent.Handled (env : Env) (uuid5 : Uuid5) (posts : Post → Prop) (q : Sent) (db : Database)
    (r : Except Exc Cer.Answer) (db' : Database) : Prop where
  kept : Kept env uuid5 posts db
  wellFormed : q.call.WellFormed
  posted : ∀ x, q.Submits x → posts x
  serves : q.Serves env uuid5 db r db'

section runs
variable {T : Type} [DecidableEq T] {env : Env} {uuid5 : Uuid5} {dbPath : String} {db db' : Database}
  {posts : Post → Prop} {shown : List (Event T Sent (Except Exc Cer.Answer))}
  {σ : Connections.State T Sent Database Exc Cer.Answer}

theorem Sent.Serves.writes {q : Sent} {r : Except Exc Cer.Answer} (hwf : q.call.WellFormed)
    (h : q.Serves env uuid5 db r db') : Writes env db db' := by
  cases h with
  | @handled m _ _ gate served =>
    exact writes_of_later (.single ⟨m, r, Call.method_valid hwf (gate_ok gate), served⟩)
  | refused | unavailable => exact .refl db

theorem later_extends (hkept : Kept env uuid5 posts db) (h : Later (Sent.Handled env uuid5 posts) db db') :
    db.Extends db' ∧ Kept env uuid5 posts db' := by
  induction h with
  | refl => exact ⟨.refl db, hkept⟩
  | tail _ hstep ih =>
    obtain ⟨q, r, hhandled⟩ := hstep
    have hwrites := hhandled.serves.writes hhandled.wellFormed
    exact ⟨ih.1.trans (hwrites.extends ih.2.reachable.wellFormed),
      hhandled.kept.serves hhandled.wellFormed hhandled.posted hhandled.serves⟩

/-- **A run of the service's threads** is one in which each call is served at one moment. -/
theorem handled_runs (hkept : Kept env uuid5 (Submitted shown) db)
    (run : Runs (Connections.machine (serviceProgram env uuid5 dbPath)) (Connections.State.start db) shown σ)
    (wellFormed : ∀ t q, .call t q ∈ shown → q.call.WellFormed) :
    Runs (service (Sent.Handled env uuid5 (Submitted shown))) ⟨db, fun _ => .idle⟩ shown σ.view := by
  obtain ⟨hruns, _⟩ := Connections.machine_refines (serviceProgram env uuid5 dbPath) run
  have hserved := service_mono (fun _ _ _ _ => Sent.serves_of_program) hruns
  have hvalid := service_restrict (fun t q hq => (⟨wellFormed t q hq, fun x hx => ⟨t, q, hq, hx⟩⟩ :
    q.call.WellFormed ∧ ∀ x, q.Submits x → Submitted shown x)) (fun t q h => by cases h) hserved
  have hkeeps := service_keeps (fun q d r d' (hd : Kept env uuid5 (Submitted shown) d) hs =>
    hd.serves hs.1.1 hs.1.2 hs.2) hkept hvalid
  exact service_mono (fun q d r d' h => ⟨h.1, h.2.1.1, h.2.1.2, h.2.2⟩) hkeeps

theorem kept_empty : Kept env uuid5 posts .empty := by
  refine ⟨.refl _, fun κ _ row hrow => ?_⟩
  cases κ <;> cases hrow

/-- What was acknowledged under a key is recorded for good. -/
theorem recorded_of_told (named : Named uuid5 (Submitted shown))
    (hruns : Runs (service (Sent.Handled env uuid5 (Submitted shown))) ⟨.empty, fun _ => .idle⟩ shown σ.view)
    {a : Told} (ha : a ∈ results (paired shown)) {x : Post} {rep : Reply} (hack : a.Acknowledges x rep) :
    Reachable env σ.committed ∧ Submitted shown x ∧
      ∃ created, (Delivery.post x).Recorded env uuid5 (.ok (rep, created)) σ.committed := by
  obtain ⟨d₁, d₂, _, hhandled, hafter⟩ := service_told hruns ha
  obtain ⟨hx, hanswer⟩ := hack
  rw [hanswer] at hhandled
  obtain ⟨created, hrecorded⟩ := hhandled.kept.recorded named hx (hhandled.posted x hx) hhandled.serves
  obtain ⟨hext, hkept⟩ :=
    later_extends (hhandled.kept.serves hhandled.wellFormed hhandled.posted hhandled.serves) hafter
  exact ⟨hkept.reachable, hhandled.posted x hx, created, hrecorded.mono hext⟩

end runs

/-- **Exactly once.**  In every run of the service from a freshly migrated database, whoever is told
of a record under an idempotency key is told of the one row that the database holds under it in the
end, and all who are have said the same. -/
theorem acknowledged_once (env : Env) (uuid5 : Uuid5) {T : Type} [DecidableEq T] (dbPath : String)
    {shown : List (Event T Sent (Except Exc Cer.Answer))} {σ : Connections.State T Sent Database Exc Cer.Answer}
    (run : Runs (Connections.machine (serviceProgram env uuid5 dbPath)) (Connections.State.start .empty) shown σ)
    (wellFormed : ∀ t q, .call t q ∈ shown → q.call.WellFormed) (named : Named uuid5 (Submitted shown))
    (texts : TextsDistinct env uuid5 (Submitted shown)) {a : Told} (told : a ∈ results (paired shown)) {x : Post}
    {rep : Reply} {k : String} (acknowledged : a.Acknowledges x rep) (key : truthy x.key = some k) :
    (∃ row ∈ σ.committed.keyedRows x.table, row.key = some (x.producer, k) ∧ row.ident = rep.ident ∧
      ∀ row' ∈ σ.committed.keyedRows x.table, row'.key = some (x.producer, k) → row' = row) ∧
    ∀ b : Told, b ∈ results (paired shown) → ∀ y rep', b.Acknowledges y rep' → SameKey x y →
      rep'.ident = rep.ident ∧ SameContent env uuid5 x y := by
  have hruns := handled_runs kept_empty run wellFormed
  obtain ⟨hdb, hx, created, hrecorded⟩ := recorded_of_told named hruns told acknowledged
  obtain ⟨w, _, _, row, hw, _, ho, hrow, hkey, hfp, hident⟩ := hrecorded k key
  cases ho
  have hunique : ∀ row' ∈ σ.committed.keyedRows x.table, row'.key = some (x.producer, k) → row' = row :=
    fun row' hrow' hkey' => hdb.wellFormed.key_unique hrow' hrow hkey' hkey
  refine ⟨⟨row, hrow, hkey, hident, hunique⟩, fun b hb y rep' hack hsame => ?_⟩
  obtain ⟨_, hy, created', hrecorded'⟩ := recorded_of_told named hruns hb hack
  obtain ⟨w', _, _, row', hw', _, ho', hrow', hkey', hfp', hident'⟩ := hrecorded' k (hsame.key ▸ key)
  cases ho'
  rw [← hsame.table] at hrow'
  rw [← hsame.producer] at hkey'
  obtain rfl := hunique row' hrow' hkey'
  have hdigest : env.digest (w.content env) = env.digest (w'.content env) := Option.some.inj (hfp.symm.trans hfp')
  exact ⟨hident'.symm.trans hident, w, w', hw, hw', texts x y hx hy w w' hw hw' hdigest⟩

/-- **A retry is acknowledged.**  Who sends a request again after it was acknowledged, whatever
others did meanwhile and wherever the process stopped, is told of the same record; only the store
being unavailable can prevent it. -/
theorem retry_is_acknowledged (env : Env) (uuid5 : Uuid5) {T : Type} [DecidableEq T] (dbPath : String)
    {shown : List (Event T Sent (Except Exc Cer.Answer))} {σ : Connections.State T Sent Database Exc Cer.Answer}
    (run : Runs (Connections.machine (serviceProgram env uuid5 dbPath)) (Connections.State.start .empty) shown σ)
    (wellFormed : ∀ t q, .call t q ∈ shown → q.call.WellFormed) (named : Named uuid5 (Submitted shown))
    {pre mid post : List (Event T Sent Told)} {t u : T} {q q' : Sent} {x : Post} {rep : Reply} {k : String}
    {answer : Except Exc Cer.Answer} (submits : q.Submits x)
    (order : paired shown = pre ++ .ret t (q, .ok (.reply rep)) ::
      (mid ++ .call u q' :: (post ++ [.ret u (q', answer)])))
    (quiet : ∀ e ∈ post, ¬ e.Touches u) (key : truthy x.key = some k) (again : q'.call = q.call)
    (version : q'.contractVersion = q.contractVersion) :
    (∃ rep', answer = .ok (.reply rep') ∧ rep'.ident = rep.ident) ∨ ∃ e, answer = .error e ∧ Unavailable e := by
  have hruns := handled_runs kept_empty run wellFormed
  obtain ⟨d, ⟨d₁, d₂, _, hfirst, h₂⟩, d₃, d₄, h₃, hlast, _⟩ := service_told_order hruns quiet order
  obtain ⟨created, hrecorded⟩ := hfirst.kept.recorded named submits (hfirst.posted x submits) hfirst.serves
  obtain ⟨hext, _⟩ :=
    later_extends (hfirst.kept.serves hfirst.wellFormed hfirst.posted hfirst.serves) (h₂.trans h₃)
  obtain ⟨m, hm⟩ := hfirst.serves.gate_passed
  exact Recorded.retry hlast.kept.reachable key (hrecorded.mono hext)
    (fun w hw => Sent.gate_again submits key hm hw version again) hlast.serves

/-! ## A request and its retry -/

/-- A producer creates an experiment under a key. -/
def sentExperiment : Sent :=
  ⟨contractVersion, .send (experimentPost "alpha" "k").req, "req_01", (experimentPost "alpha" "k").draw⟩

/-- The same again, by when the process draws something else. -/
def sentExperimentAgain : Sent :=
  { sentExperiment with requestId := "req_02", draw := (experimentPostAgain "alpha" "k").draw }

/-- Two threads: one creates, then the other, told the same. -/
def sentTwice (rep : Reply) (answer : Except Exc Cer.Answer) : List (Event Bool Sent (Except Exc Cer.Answer)) :=
  [.call true sentExperiment, .ret true (.ok (.reply rep)), .call false sentExperimentAgain, .ret false answer]

theorem sentTwice_req {rep : Reply} {answer : Except Exc Cer.Answer} {x : Post}
    (h : Submitted (sentTwice rep answer) x) :
    x.req = (experimentPost "alpha" "k").req := by
  obtain ⟨t, q, hq, hx⟩ := h
  simp only [sentTwice, List.mem_cons, List.not_mem_nil, or_false, Event.call.injEq, reduceCtorEq, false_or] at hq
  rcases hq with ⟨_, rfl⟩ | ⟨_, rfl⟩
  · exact (Call.send.inj hx.1).symm
  · exact (Call.send.inj hx.1).symm

theorem sentTwice_submitted {rep : Reply} {answer : Except Exc Cer.Answer} {x : Post}
    (h : Submitted (sentTwice rep answer) x) :
    x.table = .experiments ∧ x.producer = "alpha" ∧ x.key = some "k" :=
  Post.fields_of_req (sentTwice_req h)

theorem sentTwice_named (rep : Reply) (answer : Except Exc Cer.Answer) :
    Named knownUuid5 (Submitted (sentTwice rep answer)) := by
  constructor
  · intro x y hx hy hsome _
    obtain ⟨hxt, hxp, hxk⟩ := sentTwice_submitted hx
    obtain ⟨hyt, hyp, hyk⟩ := sentTwice_submitted hy
    refine ⟨hsome, ?_⟩
    unfold Post.name
    rw [hxt, hxp, hxk, hyt, hyp, hyk]
  · intro x y hx hy _ _ _
    obtain ⟨_, hxp, hxk⟩ := sentTwice_submitted hx
    obtain ⟨_, hyp, hyk⟩ := sentTwice_submitted hy
    exact ⟨hxp.trans hyp.symm, hxk.trans hyk.symm⟩

/-- All that is submitted has one canonical text. -/
theorem sentTwice_texts (rep : Reply) (answer : Except Exc Cer.Answer) :
    TextsDistinct .reference knownUuid5 (Submitted (sentTwice rep answer)) := by
  intro x y hx hy w w' hw hw' _
  obtain ⟨_, _, hkey⟩ := sentTwice_submitted hx
  have hk : truthy x.key = some "k" := by
    rw [hkey]
    decide
  obtain ⟨t, ht⟩ := Post.toWrite_again (x := x) (y := y) ((sentTwice_req hy).trans (sentTwice_req hx).symm) hk hw
  obtain rfl : w.at t = w' := Except.ok.inj (ht.symm.trans hw')
  exact Write.at_content.symm

/-- A request of this contract version passes the gate. -/
theorem Sent.gate_of_toWrite {uuid5 : Uuid5} {q : Sent} {req : Request} {w : Write}
    (hversion : q.contractVersion = Cer.contractVersion) (hq : q.call = .send req)
    (hw : req.toWrite uuid5 q.draw = .ok w) : q.gate uuid5 = .ok (.write w) := by
  have hpasses : requireContractVersion (some Cer.contractVersion) = .ok Cer.contractVersion := by decide +kernel
  unfold Sent.gate
  rw [hversion, hpasses, hq, ok_bind]
  show (req.toWrite uuid5 q.draw).map Method.write = _
  rw [hw]
  rfl

/-- A submission that was served is a write that went through. -/
theorem Post.run_of_outcome {env : Env} {uuid5 : Uuid5} {db : Database} {x : Post} {w : Write} {rep : Reply}
    {created : Bool} (hw : x.req.toWrite uuid5 x.draw = .ok w) (h : x.outcome env uuid5 db = .ok (rep, created)) :
    w.run env db = .ok (rep, x.next env uuid5 db) := by
  unfold Post.outcome at h
  unfold Post.next
  rw [handle_of_toWrite hw] at h ⊢
  cases hrun : w.run env db with
  | error e =>
    rw [hrun] at h
    cases h
  | ok out =>
    rw [hrun] at h
    obtain ⟨rfl, _⟩ := Prod.mk.inj (Except.ok.inj h)
    rfl

theorem sentTwice_runs : ∃ (rep rep' : Reply) (σ : Connections.State Bool Sent Database Exc Cer.Answer),
    Runs (Connections.machine (serviceProgram .reference knownUuid5 "cer.db")) (Connections.State.start .empty)
      (sentTwice rep (.ok (.reply rep'))) σ := by
  obtain ⟨rep, db, hcreated, hnext, _⟩ :=
    @experimentPost_created .reference knownUuid5 "alpha" "k" (by decide) (by decide)
  have hw := @experimentPost_toWrite knownUuid5 "alpha" "k" (by decide) (by decide)
  obtain ⟨t, hagain⟩ :=
    Post.toWrite_again (x := experimentPost "alpha" "k") (y := experimentPostAgain "alpha" "k") rfl
    (k := "k") rfl hw
  have hnamed := sentTwice_named rep (.ok (.reply rep))
  have hkept : Kept .reference knownUuid5 (Submitted (sentTwice rep (.ok (.reply rep)))) .empty := kept_empty
  have hposted : Submitted (sentTwice rep (.ok (.reply rep))) (experimentPost "alpha" "k") :=
    ⟨true, sentExperiment, List.mem_cons_self, rfl, rfl⟩
  -- the first is created, and recorded
  have hrun := Post.run_of_outcome hw hcreated
  rw [hnext] at hrun
  have hrecorded := Post.recorded hkept.reachable hkept.minted hnamed hposted ⟨_, hcreated⟩
  rw [hcreated, hnext] at hrecorded
  have hdb : Reachable .reference db := .commit (.refl _) (Post.toWrite_ok hw).1 hrun
  -- the second finds it
  obtain ⟨hsame, _, rep', _, _, hanswer, _⟩ :=
    hrecorded.retry hdb (b := .post (experimentPostAgain "alpha" "k")) ⟨rfl, rfl⟩
  have hrun' := Post.run_of_outcome hagain hanswer
  obtain ⟨σ₁, hfirst, hdata, hpresent, hphase⟩ := Sent.commits_runs "cer.db" (t := true)
    (σ := (Connections.State.start .empty).to true (.asked sentExperiment)) (q := sentExperiment)
    (Sent.gate_of_toWrite rfl rfl hw) rfl rfl rfl (fun u _ => by cases u <;> exact fun h => h) hrun
  have hidle : ∀ u, σ₁.phase u = .idle := by
    intro u
    rw [hphase]
    cases u <;> rfl
  obtain ⟨σ₂, hsecond, _⟩ :=
    Sent.commits_runs "cer.db" (t := false) (σ := σ₁.to false (.asked sentExperimentAgain))
    (q := sentExperimentAgain) (Sent.gate_of_toWrite rfl rfl hagain) rfl Connections.State.to_phase_self hpresent
    (fun u hu => by
      rw [Connections.State.to_phase_ne hu, hidle]
      exact fun h => h) (hdata.symm ▸ hrun')
  refine ⟨rep, rep', σ₂, ?_⟩
  have hcall := Runs.one (Connections.machine.call (P := serviceProgram .reference knownUuid5 "cer.db")
    (Connections.State.start .empty) true sentExperiment rfl)
  exact (hcall.trans hfirst).trans
    ((Runs.one (Connections.machine.call σ₁ false sentExperimentAgain (hidle false))).trans hsecond)

theorem sentTwice_wellFormed {rep : Reply} {answer : Except Exc Cer.Answer} {t : Bool} {q : Sent}
    (h : .call t q ∈ sentTwice rep answer) : q.call.WellFormed := by
  simp only [sentTwice, List.mem_cons, List.not_mem_nil, or_false, Event.call.injEq, reduceCtorEq, false_or] at h
  rcases h with ⟨_, rfl⟩ | ⟨_, rfl⟩ <;> trivial

theorem sentTwice_paired (rep : Reply) (answer : Except Exc Cer.Answer) : paired (sentTwice rep answer) =
    [.call true sentExperiment, .ret true (sentExperiment, .ok (.reply rep)), .call false sentExperimentAgain,
      .ret false (sentExperimentAgain, answer)] := rfl

/-- One row is under the key, and both are told of it. -/
theorem sentTwice_acknowledged_once :
    ∃ (rep rep' : Reply) (σ : Connections.State Bool Sent Database Exc Cer.Answer),
    (∃ row ∈ σ.committed.keyedRows .experiments, row.key = some ("alpha", "k") ∧ row.ident = rep.ident) ∧
      rep'.ident = rep.ident := by
  obtain ⟨rep, rep', σ, h⟩ := sentTwice_runs
  have hfirst : ((sentExperiment, .ok (.reply rep)) : Told) ∈
    results (paired (sentTwice rep (.ok (.reply rep')))) :=
    List.mem_cons_self
  have hsecond : ((sentExperimentAgain, .ok (.reply rep')) : Told) ∈
      results (paired (sentTwice rep (.ok (.reply rep')))) := List.mem_cons_of_mem _ List.mem_cons_self
  obtain ⟨⟨row, hrow, hkey, hident, _⟩, hagree⟩ := acknowledged_once .reference knownUuid5 "cer.db" h
    (fun _ _ hq => sentTwice_wellFormed hq) (sentTwice_named rep _) (sentTwice_texts rep _) hfirst
    (x := experimentPost "alpha" "k") (k := "k") ⟨⟨rfl, rfl⟩, rfl⟩ rfl
  exact ⟨rep, rep', σ, ⟨row, hrow, hkey, hident⟩,
    (hagree _ hsecond (experimentPostAgain "alpha" "k") rep' ⟨⟨rfl, rfl⟩, rfl⟩ ⟨rfl, rfl, rfl, rfl⟩).1⟩

theorem sentTwice_is_acknowledged : ∃ (rep rep' : Reply) (σ : Connections.State Bool Sent Database Exc Cer.Answer),
    Runs (Connections.machine (serviceProgram .reference knownUuid5 "cer.db")) (Connections.State.start .empty)
      (sentTwice rep (.ok (.reply rep'))) σ ∧
    ((∃ x, (.ok (.reply rep') : Except Exc Cer.Answer) = .ok (.reply x) ∧ x.ident = rep.ident) ∨
      ∃ e, (.ok (.reply rep') : Except Exc Cer.Answer) = .error e ∧ Unavailable e) := by
  obtain ⟨rep, rep', σ, h⟩ := sentTwice_runs
  exact ⟨rep, rep', σ, h, retry_is_acknowledged .reference knownUuid5 "cer.db" h
    (fun _ _ hq => sentTwice_wellFormed hq)
    (sentTwice_named rep _) (x := experimentPost "alpha" "k") (k := "k") (t := true) (u := false) ⟨rfl, rfl⟩
    (show _ = [.call true sentExperiment] ++ _ :: ([] ++ _ :: ([] ++ _)) from sentTwice_paired rep _)
    (fun _ he => by cases he) rfl rfl rfl⟩

end Cer.Client
