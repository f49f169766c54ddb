import Cer.Api.Interleavings
import Cer.Lib.Redelivery

/-!
# Retries

A producer that gets no answer sends its request again under the same idempotency key.
By then the process draws another identity and another time, and others have written.
`retries_are_transparent`: in any run of the service, retries of served requests change
nothing in the database and nothing in what anybody else is answered, and each is
answered with the record of the first delivery.
-/

namespace Cer

open Py

/-! ## The same write at another time -/

/-- The write with another creation time. -/
def Write.at (t : DateTime) : Write → Write
  | .createExperiment e k => .createExperiment { e with createdAt := t } k
  | .createRun r k => .createRun { r with startedAt := t } k
  | .appendEvidence e => .appendEvidence { e with createdAtUtc := t }
  | .recordPromotion p k => .recordPromotion { p with atUtc := t } k
  | .recordHealth h k n => .recordHealth { h with observedAtUtc := t } k n
  | w => w

section at_
variable {env : Env} {w : Write} {t : DateTime}

theorem Write.at_keyed : (w.at t).keyed = w.keyed := by
  cases w with
  | createExperiment e k => cases k <;> rfl
  | createRun r k => cases k <;> rfl
  | recordPromotion p k => cases k <;> rfl
  | recordHealth h k n => cases k <;> rfl
  | _ => rfl

theorem canonical_congr {a b : List (String × Json)} {exclude : List String}
    (h : payload a exclude = payload b exclude) :
    canonical env a exclude = canonical env b exclude := by
  unfold canonical
  rw [h]

/-- No fingerprint looks at the creation time. -/
theorem Write.at_content : (w.at t).content env = w.content env := by
  cases w with
  | createExperiment e k => exact canonical_congr (by simp [payload, Experiment.dump, experimentFpExclude])
  | createRun r k => exact canonical_congr (by simp [payload, Run.dump, runFpExclude])
  | appendEvidence e =>
    exact canonical_congr (by simp [payload, EvidenceRecord.dump, EvidenceRecord.values, EvidenceRecord.jsonMode,
      evidenceFpExclude])
  | recordPromotion p k => exact canonical_congr (by simp [payload, PromotionTransition.dump, promotionFpExclude])
  | recordHealth h k n =>
    exact canonical_congr (by simp [payload, StrategyHealthRecord.dump, StrategyHealthRecord.values,
      StrategyHealthRecord.jsonMode, healthFpExclude])
  | _ => rfl

theorem Write.at_refsExist {db : Database} (h : w.RefsExist db) : (w.at t).RefsExist db := by
  cases w <;> exact h

end at_

/-! ## What an accepted write says -/

section accepted
variable {env : Env} {db db' : Database} {w : Write} {rep : Reply} {κ : KeyedTable} {i : String}

/-- An accepted write found what it refers to. -/
theorem refsExist_of_run (ht : w.target = some (κ, i)) (h : w.run env db = .ok (rep, db')) : w.RefsExist db := by
  rcases Write.target_cases ht with ⟨e, k, rfl, rfl, rfl⟩ | ⟨r, k, rfl, rfl, rfl⟩ | ⟨e, rfl, rfl, rfl⟩ |
    ⟨t, k, rfl, rfl, rfl⟩ | ⟨x, k, n, rfl, rfl, rfl⟩
  · trivial
  · obtain ⟨_, h, _⟩ := asReply_ok h
    obtain ⟨_, hexperiment, _⟩ := bind_ok h
    exact requireExperiment_ok hexperiment
  · obtain ⟨_, h, _⟩ := asReply_ok h
    obtain ⟨_, hrun, h⟩ := bind_ok h
    obtain ⟨_, hexperiment, _⟩ := bind_ok h
    exact ⟨ifPresent_ok (fun _ _ => requireRun_ok) hrun,
      ifPresent_ok (fun _ _ => requireExperiment_ok) hexperiment⟩
  · trivial
  · trivial

/-- The record an inserting submission hands back is its own. -/
theorem Submission.record_of_changed {Row Rec : Type} {s : Submission Row Rec} {rec : Rec}
    (h : s.run db = .ok (rec, db')) (hne : db' ≠ db) : rec = s.record := by
  rcases Submission.run_ok h with ⟨_, _, _, _, hsame⟩ | ⟨_, _, _, _, hsame⟩ | ⟨_, _, _, hrec⟩
  · exact absurd hsame hne
  · exact absurd hsame hne
  · exact hrec

theorem reply_ident_of_run (ht : w.target = some (κ, i)) (h : w.run env db = .ok (rep, db')) (hne : db' ≠ db) :
    rep.ident = i := by
  rcases Write.target_cases ht with ⟨e, k, rfl, rfl, rfl⟩ | ⟨r, k, rfl, rfl, rfl⟩ | ⟨e, rfl, rfl, rfl⟩ |
    ⟨t, k, rfl, rfl, rfl⟩ | ⟨x, k, n, rfl, rfl, rfl⟩
  · obtain ⟨_, hrun, rfl⟩ := asReply_ok h
    rw [Submission.record_of_changed hrun hne]
    rfl
  · obtain ⟨_, hrun, rfl⟩ := asReply_ok h
    obtain ⟨_, _, hrun⟩ := bind_ok hrun
    rw [Submission.record_of_changed hrun hne]
    rfl
  · obtain ⟨_, hrun, rfl⟩ := asReply_ok h
    obtain ⟨_, _, hrun⟩ := bind_ok hrun
    obtain ⟨_, _, hrun⟩ := bind_ok hrun
    rw [Submission.record_of_changed hrun hne]
    rfl
  · obtain ⟨_, hrun, rfl⟩ := asReply_ok h
    rw [Submission.record_of_changed hrun hne]
    rfl
  · obtain ⟨_, hrun, rfl⟩ := asReply_ok h
    rw [Submission.record_of_changed hrun hne]
    rfl

/-- The identity a write names is taken just when a row of its table has it. -/
theorem namesUsed_iff (ht : w.target = some (κ, i)) : w.NamesUsed db ↔ db.HasIdent κ i := by
  have hrows : ∀ {Row : Type} {rows : List Row} {f : Row → KeyedRow} {g : Row → String},
      (∀ r, (f r).ident = g r) → ((∃ r ∈ rows, g r = i) ↔ ∃ row ∈ rows.map f, row.ident = i) := by
    intro Row rows f g hf
    simp only [List.mem_map, exists_exists_and_eq_and, hf]
  rcases Write.target_cases ht with ⟨e, k, rfl, rfl, rfl⟩ | ⟨r, k, rfl, rfl, rfl⟩ | ⟨e, rfl, rfl, rfl⟩ |
    ⟨t, k, rfl, rfl, rfl⟩ | ⟨x, k, n, rfl, rfl, rfl⟩
  all_goals exact hrows fun _ => rfl

/-- A call of the store that names none of the five tables leaves their rows their identities and keys. -/
theorem mem_of_other (ht : w.target = none) (h : w.run env db = .ok (rep, db'))
    (hκ : κ ≠ .artifacts) {row' : KeyedRow}
    (hmem : row' ∈ db'.keyedRows κ) : ∃ row ∈ db.keyedRows κ, row.ident = row'.ident ∧ row.key = row'.key := by
  have he := effect_of_run h
  cases he with
  | unchanged => exact ⟨row', hmem, rfl, rfl⟩
  | strategy s _ => cases κ <;> exact ⟨row', hmem, rfl, rfl⟩
  | strategyVersion v _ _ => cases κ <;> exact ⟨row', hmem, rfl, rfl⟩
  | experiment _ _ _ => cases ht
  | run _ _ _ _ => cases ht
  | evidence _ _ _ _ => cases ht
  | promotion _ _ _ => cases ht
  | health _ _ _ => cases ht
  | artifact a k p _ _ _ _ =>
    cases κ with
    | artifacts => exact absurd rfl hκ
    | _ => exact ⟨row', hmem, rfl, rfl⟩
  | attach _ _ _ _ _ _ _ _ _ _ =>
    cases κ with
    | artifacts => exact absurd rfl hκ
    | _ => exact ⟨row', hmem, rfl, rfl⟩
  | close j s t ended row _ _ _ =>
    cases κ with
    | runs =>
      obtain ⟨r', hr', rfl⟩ := List.mem_map.1 hmem
      obtain ⟨r, hr, rfl⟩ := List.mem_map.1 hr'
      refine ⟨.run r, List.mem_map_of_mem hr, ?_⟩
      by_cases hrj : (r.runId == j) = true
      · rw [if_pos hrj]
        exact ⟨rfl, rfl⟩
      · rw [if_neg hrj]
        exact ⟨rfl, rfl⟩
    | _ => exact ⟨row', hmem, rfl, rfl⟩

end accepted

namespace Api

/-! ## The same request again -/

section again
variable {uuid5 : Uuid5} {draw draw' : Draw}

/-- A derived identity does not depend on what the process draws. -/
theorem generateId_again {idPrefix kind k : String} {key producer : Option String} (hk : truthy key = some k) :
    generateId uuid5 draw' idPrefix kind key producer = generateId uuid5 draw idPrefix kind key producer := by
  unfold generateId
  rw [hk]

/-- The time that is drawn passes where the one that is sent does. -/
theorem utcDateTime_again {field : String} {t : Option AwareTime} (h : utcDateTime field (orNow draw t) = .pass) :
    utcDateTime field (orNow draw' t) = .pass := by
  cases t with
  | none => rfl
  | some t => exact h

/-- A constructor that passes, passes with another creation time. -/
theorem constructAt_again {Rec : Type} (record : DateTime → Rec) {checks : Rec → List Check} {compute : Rec → Rec}
    {n : Nat} {field : String} {o : Option AwareTime} {times : List Check} {y : Rec}
    (hchecks : ∀ t t', checks (record t) = checks (record t'))
    (h : constructAt checks compute n (utcDateTime field (orNow draw o) :: times)
      (record (instant (orNow draw o))) =
      .ok y) :
    constructAt checks compute n (utcDateTime field (orNow draw' o) :: times) (record (instant (orNow draw' o))) =
      .ok (compute (record (instant (orNow draw' o)))) := by
  obtain ⟨hc, ht, _⟩ := constructAt_eq_ok_iff.1 h
  rw [hchecks _ (instant (orNow draw' o))] at hc
  refine constructAt_eq_ok_iff.2 ⟨hc, fun c hcm => ?_, rfl⟩
  rcases List.mem_cons.1 hcm with rfl | hcm
  · exact utcDateTime_again (ht _ List.mem_cons_self)
  · exact ht c (List.mem_cons_of_mem _ hcm)

/-- What a record computes of its provenance does not depend on its creation time. -/
theorem runOf_provenance (experimentId runId : String) (t t' : DateTime) (body : RunCreateRequest) :
    { (runOf experimentId runId t body).applyProvenance with startedAt := t' } =
      (runOf experimentId runId t' body).applyProvenance := rfl

theorem evidenceOf_provenance (evidenceId key : String) (t t' : DateTime) (body : EvidenceCreateRequest)
    (evidenceType : EvidenceType) :
    { (evidenceOf evidenceId key t body evidenceType).applyProvenance with createdAtUtc := t' } =
      (evidenceOf evidenceId key t' body evidenceType).applyProvenance := rfl

/-! What a handler asks of the store with another draw. -/

section handlers
variable {w : Write} {key : Option String} {k : String}

theorem createExperiment_again {body : ExperimentCreateRequest} {header : Option String}
    (hkey : resolveIdempotencyKey header body.idempotencyKey = .ok key) (hk : truthy key = some k)
    (h : createExperiment uuid5 draw body header = .ok w) :
    createExperiment uuid5 draw' body header = .ok (w.at (instant (orNow draw' body.createdAt))) := by
  unfold createExperiment at h ⊢
  rw [hkey, ok_bind] at h ⊢
  obtain ⟨i, hi, h⟩ := bind_ok h
  obtain ⟨e, he, h⟩ := bind_ok h
  obtain ⟨_, _, rfl⟩ := constructAt_eq_ok_iff.1 he
  have hw := Except.ok.inj h
  subst hw
  rw [(generateId_again hk).trans hi, ok_bind]
  dsimp only
  rw [constructAt_again (fun t => Experiment.mk i body.objective body.strategyId
    body.strategyVersion body.producer t) (fun _ _ => rfl) he, ok_bind]
  rfl

theorem createRun_again {experimentId : String} {body : RunCreateRequest} {header : Option String}
    (hkey : resolveIdempotencyKey header body.idempotencyKey = .ok key) (hk : truthy key = some k)
    (h : createRun uuid5 draw experimentId body header = .ok w) :
    createRun uuid5 draw' experimentId body header = .ok (w.at (instant (orNow draw' body.startedAt))) := by
  unfold createRun at h ⊢
  rw [hkey, ok_bind] at h ⊢
  obtain ⟨i, hi, h⟩ := bind_ok h
  obtain ⟨r, he, h⟩ := bind_ok h
  obtain ⟨_, _, rfl⟩ := constructAt_eq_ok_iff.1 he
  have hw := Except.ok.inj h
  subst hw
  rw [(generateId_again hk).trans hi, ok_bind]
  dsimp only
  rw [constructAt_again (fun t => runOf experimentId i t body) (fun _ _ => rfl) he, ok_bind]
  exact congrArg (fun r => Except.ok (Write.createRun r key)) (runOf_provenance experimentId i _ _ body).symm

theorem appendEvidence_again {body : EvidenceCreateRequest} {header : Option String}
    (hkey : resolveIdempotencyKey header body.idempotencyKey = .ok key) (hk : truthy key = some k)
    (h : appendEvidence uuid5 draw body header = .ok w) :
    appendEvidence uuid5 draw' body header = .ok (w.at (instant (orNow draw' body.createdAtUtc))) := by
  unfold appendEvidence at h ⊢
  rw [hkey, ok_bind, hk] at h ⊢
  dsimp only at h ⊢
  obtain ⟨v, hv, h⟩ := bind_ok h
  obtain ⟨i, hi, h⟩ := bind_ok h
  obtain ⟨e, he, h⟩ := bind_ok h
  obtain ⟨_, _, rfl⟩ := constructAt_eq_ok_iff.1 he
  have hw := Except.ok.inj h
  subst hw
  rw [hv, ok_bind, (generateId_again hk).trans hi, ok_bind, constructAt_again (fun t => evidenceOf i k t body
    ((parseEvidenceType body.evidenceType).toOption.getD default)) (fun _ _ => rfl) he, ok_bind]
  exact congrArg (fun e => Except.ok (Write.appendEvidence e)) (evidenceOf_provenance i k _ _ body _).symm

theorem createPromotion_again {body : PromotionCreateRequest} {header : Option String}
    (hkey : resolveIdempotencyKey header body.idempotencyKey = .ok key) (hk : truthy key = some k)
    (h : createPromotion uuid5 draw body header = .ok w) :
    createPromotion uuid5 draw' body header = .ok (w.at (instant (orNow draw' body.atUtc))) := by
  unfold createPromotion at h ⊢
  rw [hkey, ok_bind] at h ⊢
  obtain ⟨i, hi, h⟩ := bind_ok h
  obtain ⟨t, he, h⟩ := bind_ok h
  obtain ⟨_, _, rfl⟩ := constructAt_eq_ok_iff.1 he
  have hw := Except.ok.inj h
  subst hw
  rw [(generateId_again hk).trans hi, ok_bind]
  dsimp only
  rw [constructAt_again (fun t => PromotionTransition.mk i body.strategyId body.strategyVersion
    body.fromState body.toState t body.authority
    body.producer body.evidenceIds body.reason) (fun _ _ => rfl) he, ok_bind]
  rfl

theorem createHealthRecord_again {body : HealthRecordCreateRequest} {header : Option String}
    (hkey : resolveIdempotencyKey header body.idempotencyKey = .ok key) (hk : truthy key = some k)
    (h : createHealthRecord uuid5 draw body header = .ok w) :
    createHealthRecord uuid5 draw' body header = .ok (w.at (instant (orNow draw' body.observedAtUtc))) := by
  unfold createHealthRecord at h ⊢
  rw [hkey, ok_bind] at h ⊢
  obtain ⟨i, hi, h⟩ := bind_ok h
  obtain ⟨x, he, h⟩ := bind_ok h
  obtain ⟨_, _, rfl⟩ := constructAt_eq_ok_iff.1 he
  have hw := Except.ok.inj h
  subst hw
  rw [(generateId_again hk).trans hi, ok_bind]
  dsimp only
  rw [constructAt_again (fun t => healthOf i t body) (fun _ _ => rfl) he, ok_bind]
  rfl

end handlers

/-- **A request under a key** asks of the store the same write, whatever the process draws. -/
theorem Post.toWrite_again {x y : Post} (hreq : y.req = x.req) {k : String}
    (hk : truthy x.key = some k) {w : Write}
    (hw : x.req.toWrite uuid5 x.draw = .ok w) : ∃ t, y.req.toWrite uuid5 y.draw = .ok (w.at t) := by
  obtain ⟨header, bodyKey, hf, hkey⟩ := x.submits
  rw [hreq]
  cases hr : x.req with
  | createExperiment body header' =>
    rw [hr] at hf hw
    obtain ⟨_, _, rfl, rfl⟩ := submission_fields hf
    exact ⟨_, createExperiment_again hkey hk hw⟩
  | createRun experimentId body header' =>
    rw [hr] at hf hw
    obtain ⟨_, _, rfl, rfl⟩ := submission_fields hf
    exact ⟨_, createRun_again hkey hk hw⟩
  | appendEvidence body header' =>
    rw [hr] at hf hw
    obtain ⟨_, _, rfl, rfl⟩ := submission_fields hf
    exact ⟨_, appendEvidence_again hkey hk hw⟩
  | createPromotion body header' =>
    rw [hr] at hf hw
    obtain ⟨_, _, rfl, rfl⟩ := submission_fields hf
    exact ⟨_, createPromotion_again hkey hk hw⟩
  | createHealthRecord body header' =>
    rw [hr] at hf hw
    obtain ⟨_, _, rfl, rfl⟩ := submission_fields hf
    exact ⟨_, createHealthRecord_again hkey hk hw⟩
  | createStrategy body => rw [hr] at hf; cases hf
  | createStrategyVersion i body => rw [hr] at hf; cases hf
  | closeRun i body => rw [hr] at hf; cases hf
  | attachArtifact i body => rw [hr] at hf; cases hf

theorem Post.fields_of_req {x y : Post} (hreq : y.req = x.req) :
    y.table = x.table ∧ y.producer = x.producer ∧ y.key = x.key := by
  obtain ⟨header, bodyKey, hf, hkey⟩ := x.submits
  obtain ⟨header', bodyKey', hf', hkey'⟩ := y.submits
  rw [hreq, hf] at hf'
  obtain ⟨htable, hproducer, rfl, rfl⟩ := submission_fields hf'
  exact ⟨htable.symm, hproducer.symm, Except.ok.inj (hkey'.symm.trans hkey)⟩

end again

/-! ## Deliveries -/

/-- What reaches the store: a producer's request, or any other call of it. -/
inductive Delivery
  | post (x : Post)
  | call (w : Write) (valid : w.Valid) (other : w.target = none)

section deliveries
variable (env : Env) (uuid5 : Uuid5)

def Delivery.next (db : Database) : Delivery → Database
  | .post x => x.next env uuid5 db
  | .call w _ _ => match w.run env db with
    | .ok (_, db') => db'
    | .error _ => db

/-- What the sender gets. -/
def Delivery.answer (db : Database) : Delivery → Except Exc (Reply × Bool)
  | .post x => x.outcome env uuid5 db
  | .call w _ _ => w.outcome env db

end deliveries

/-- The request is served. -/
def Served (o : Except Exc (Reply × Bool)) : Prop := ∃ out, o = .ok out

/-- The same request of a producer, under a key. -/
def Retried : Delivery → Delivery → Prop
  | .post x, .post y => y.req = x.req ∧ (truthy x.key).isSome
  | _, _ => False

/-- The record that was given, and this time nothing was created. -/
def SameRecord (o o' : Except Exc (Reply × Bool)) : Prop :=
  ∃ rep rep' created, o = .ok (rep, created) ∧ o' = .ok (rep', false) ∧ rep'.ident = rep.ident

/-- One UUID comes from one name, and one name from one producer and key. -/
structure Named (uuid5 : Uuid5) (posts : Post → Prop) : Prop where
  apart : ∀ x y, posts x → posts y → x.name.isSome → x.Apart uuid5 y
  names : ∀ x y, posts x → posts y → x.name.isSome → x.table = y.table → x.name = y.name →
    x.producer = y.producer ∧ x.key = y.key

/-- Every row of the five tables was put there by one of the requests. -/
def Minted (uuid5 : Uuid5) (posts : Post → Prop) (db : Database) : Prop :=
  ∀ κ, κ ≠ .artifacts → ∀ row ∈ db.keyedRows κ, ∃ y, posts y ∧ y.table = κ ∧ row.ident = y.ident uuid5 ∧
    row.key = y.key.map fun k => (y.producer, k)

/-- The delivery is a producer's request of this set, or another call. -/
def Delivery.From (posts : Post → Prop) : Delivery → Prop
  | .post x => posts x
  | .call _ _ _ => True

/-- A served request under a key has its row. -/
def Delivery.Recorded (env : Env) (uuid5 : Uuid5) : Delivery → Except Exc (Reply × Bool) → Database → Prop
  | .post x, o, db => ∀ k, truthy x.key = some k → ∃ w rep created row, x.req.toWrite uuid5 x.draw = .ok w ∧
      w.RefsExist db ∧ o = .ok (rep, created) ∧ row ∈ db.keyedRows x.table ∧ row.key = some (x.producer, k) ∧
      row.fp = some (env.digest (w.content env)) ∧ row.ident = rep.ident
  | .call _ _ _, _, _ => True

section retries
variable {env : Env} {uuid5 : Uuid5} {db : Database} {posts : Post → Prop}

theorem Post.table_ne (x : Post) : x.table ≠ .artifacts := by
  obtain ⟨header, bodyKey, hf, _⟩ := x.submits
  intro h
  rw [h] at hf
  unfold Request.submission at hf
  split at hf <;> cases hf

theorem Delivery.next_writes (d : Delivery) : Writes env db (d.next env uuid5 db) := by
  cases d with
  | post x =>
    rcases @Post.next_cases env uuid5 x db with h | ⟨w, rep, hw, hrun⟩
    · show Writes env db (x.next env uuid5 db)
      rw [h]
      exact .refl db
    · exact .commit (.refl db) (Post.toWrite_ok hw).1 hrun
  | call w valid _ =>
    show Writes env db (match w.run env db with | .ok (_, db') => db' | .error _ => db)
    cases hrun : w.run env db with
    | error e => exact .refl db
    | ok out => exact .commit (.refl db) valid hrun

/-- Whatever is delivered, every row is that of a request. -/
theorem Minted.next (h : Minted uuid5 posts db) {d : Delivery} (hd : d.From posts) :
    Minted uuid5 posts (d.next env uuid5 db) := by
  intro κ hκ row hrow
  cases d with
  | post x =>
    have hd : posts x := hd
    change row ∈ (x.next env uuid5 db).keyedRows κ at hrow
    rcases @Post.next_cases env uuid5 x db with hsame | ⟨w, rep, hw, hrun⟩
    · rw [hsame] at hrow
      exact h κ hκ row hrow
    obtain ⟨_, ht, hkeyed⟩ := Post.toWrite_ok hw
    rcases inserting_run_cases ht hrun with hsame | ⟨new, hadds, hident, hkey⟩
    · rw [hsame] at hrow
      exact h κ hκ row hrow
    by_cases hκx : κ = x.table
    · subst hκx
      rw [hadds.self, List.mem_append, List.mem_singleton] at hrow
      rcases hrow with hrow | rfl
      · exact h _ hκ row hrow
      · refine ⟨x, hd, rfl, hident, ?_⟩
        rw [hkey, hkeyed, Option.map_map]
        rfl
    · rw [hadds.other hκx] at hrow
      exact h κ hκ row hrow
  | call w valid other =>
    change row ∈ (match w.run env db with | .ok (_, db') => db' | .error _ => db : Database).keyedRows κ at hrow
    cases hrun : w.run env db with
    | error e =>
      rw [hrun] at hrow
      exact h κ hκ row hrow
    | ok out =>
      rw [hrun] at hrow
      obtain ⟨row', hrow', hident, hkey⟩ := mem_of_other other hrun hκ hrow
      rw [← hident, ← hkey]
      exact h κ hκ row' hrow'

/-- A served request under a key is bound to it: no row has its identity without its key. -/
theorem Post.recorded (hdb : Reachable env db) (hminted : Minted uuid5 posts db)
    (hnamed : Named uuid5 posts) {x : Post}
    (hx : posts x) (hserved : Served (x.outcome env uuid5 db)) :
    (Delivery.post x).Recorded env uuid5 (x.outcome env uuid5 db) (x.next env uuid5 db) := by
  intro k hk
  obtain ⟨hxk, hne⟩ := truthy_eq_some hk
  obtain ⟨⟨rep, created⟩, hout⟩ := hserved
  unfold Post.outcome at hout ⊢
  unfold Post.next
  cases hw : x.req.toWrite uuid5 x.draw with
  | error e =>
    unfold handle at hout
    rw [hw] at hout
    cases hout
  | ok w =>
    obtain ⟨hv, ht, hkeyed⟩ := Post.toWrite_ok hw
    rw [hxk] at hkeyed
    rw [handle_of_toWrite hw] at hout ⊢
    cases hrun : w.run env db with
    | error e =>
      rw [hrun] at hout
      cases hout
    | ok out =>
      obtain ⟨rep', db'⟩ := out
      have hext := hdb.wellFormed.extends (effect_of_run hrun)
      have hwf' := hdb.wellFormed.effect hv (effect_of_run hrun)
      -- its identity is taken only under its key
      have hfree : db.KeyUsed x.table x.producer k ∨ ¬ w.NamesUsed db := by
        by_cases hused : w.NamesUsed db
        · obtain ⟨row, hrow, hident⟩ := (namesUsed_iff ht).1 hused
          obtain ⟨y, hy, htable, hyident, hykey⟩ := hminted _ x.table_ne row hrow
          have hids : x.ident uuid5 = y.ident uuid5 := hident.symm.trans hyident
          unfold Post.ident at hids
          rw [htable] at hids
          have hsome : x.name.isSome := by
            rw [Post.name_eq_some hxk hne]
            rfl
          obtain ⟨_, hname⟩ := hnamed.apart x y hx hy hsome (UuidHex.eq_of_hex (append_cancel_left hids))
          obtain ⟨hproducer, hkey⟩ := hnamed.names x y hx hy hsome htable.symm hname
          refine Or.inl ⟨row, hrow, ?_⟩
          rw [hykey, ← hkey, hxk, ← hproducer]
          rfl
        · exact Or.inr hused
      obtain ⟨row, hrow, hkey, hfp⟩ := (bound_iff_of_run hkeyed hrun).2 hfree
      refine ⟨w, rep', _, row, rfl, refsExist_mono hext (refsExist_of_run ht hrun), rfl, hrow, hkey, hfp, ?_⟩
      by_cases hsame : db' = db
      · subst hsame
        obtain ⟨rep₂, hread, hagain⟩ := (hwf'.run_bound hkeyed hrow hkey (refsExist_of_run ht hrun)
          (fun h => absurd h x.table_ne)).1 hfp
        obtain ⟨rep₃, hread', hid, _⟩ := hwf'.read_keyedRow hrow
        obtain rfl : rep₂ = rep₃ := Except.ok.inj (hread.symm.trans hread')
        obtain rfl : rep' = rep₂ := (Prod.mk.inj (Except.ok.inj (hrun.symm.trans hagain))).1
        exact hid.symm
      · rw [reply_ident_of_run ht hrun hsame]
        rcases inserting_run_cases ht hrun with h | ⟨new, hadds, hident, hnewkey⟩
        · exact absurd h hsame
        have hnew : new ∈ db'.keyedRows x.table := by
          rw [hadds.self]
          exact List.mem_append_right _ (List.mem_singleton_self _)
        have hrownew : row = new := hwf'.key_unique hrow hnew hkey (by rw [hnewkey, hkeyed]; rfl)
        rw [hrownew, hident]

/-- The row of a served request stays. -/
theorem Delivery.Recorded.mono {db' : Database} {d : Delivery} {o : Except Exc (Reply × Bool)}
    (h : d.Recorded env uuid5 o db) (hext : db.Extends db') : d.Recorded env uuid5 o db' := by
  cases d with
  | post x =>
    intro k hk
    obtain ⟨w, rep, created, row, hw, hrefs, ho, hrow, hkey, hfp, hident⟩ := h k hk
    obtain ⟨row', hrow', hkey', hfp', hident', _⟩ := hext.keyedRow hrow
    exact ⟨w, rep, created, row', hw, refsExist_mono hext hrefs, ho, hrow', hkey'.trans hkey, hfp'.trans hfp,
      hident'.trans hident⟩
  | call w _ _ => trivial

/-- **A retry** finds the row of the first delivery and does nothing more. -/
theorem Delivery.Recorded.retry (hdb : Reachable env db) {a b : Delivery} {o : Except Exc (Reply × Bool)}
    (h : a.Recorded env uuid5 o db) (hretry : Retried a b) :
    b.next env uuid5 db = db ∧ SameRecord o (b.answer env uuid5 db) := by
  cases a with
  | call w _ _ => cases hretry
  | post x => cases b with
    | call w _ _ => cases hretry
    | post y =>
      obtain ⟨hreq, hsome⟩ := hretry
      obtain ⟨k, hk⟩ := Option.isSome_iff_exists.1 hsome
      obtain ⟨w, rep, created, row, hw, hrefs, rfl, hrow, hkey, hfp, hident⟩ := h k hk
      obtain ⟨t, hwy⟩ := Post.toWrite_again (y := y) hreq hk hw
      have hkeyed : (w.at t).keyed = some (x.table, x.producer, k) := by
        rw [Write.at_keyed, (Post.toWrite_ok hw).2.2, (truthy_eq_some hk).1]
        rfl
      obtain ⟨rep', hread, hrun⟩ := (hdb.wellFormed.run_bound hkeyed hrow hkey (Write.at_refsExist hrefs)
        (fun hκ => absurd hκ x.table_ne)).1 (by rw [Write.at_content, hfp])
      obtain ⟨rep₂, hread', hid, _⟩ := hdb.wellFormed.read_keyedRow hrow
      obtain rfl : rep' = rep₂ := Except.ok.inj (hread.symm.trans hread')
      constructor
      · show y.next env uuid5 db = db
        unfold Post.next
        rw [handle_of_toWrite hwy, hrun]
      · refine ⟨rep, rep', created, rfl, ?_, hid.trans hident⟩
        show y.outcome env uuid5 db = _
        unfold Post.outcome
        rw [handle_of_toWrite hwy, hrun]
        show Except.ok (rep', decide (db ≠ db)) = .ok (rep', false)
        rw [decide_eq_false (not_not_intro rfl)]

theorem retries_idempotent (hnamed : Named uuid5 posts) :
    Redelivery.Idempotent (Delivery.next env uuid5) (Delivery.answer env uuid5) Served Retried SameRecord
      (fun db => Reachable env db ∧ Minted uuid5 posts db) (Delivery.From posts)
      (Delivery.Recorded env uuid5) := by
  constructor
  · rintro db d ⟨hdb, hminted⟩ hd
    exact ⟨hdb.trans d.next_writes, hminted.next hd⟩
  · rintro db d ⟨hdb, hminted⟩ hd hserved
    cases d with
    | post x => exact Post.recorded hdb hminted hnamed hd hserved
    | call w _ _ => trivial
  · rintro db a d o ⟨hdb, _⟩ _ h
    exact h.mono (d.next_writes.extends hdb.wellFormed)
  · rintro db a d o ⟨hdb, _⟩ _ h hretry
    exact h.retry hdb hretry

end retries

/-- **Retries are transparent**: in any run from a freshly migrated database, the retries of served
requests leave no mark on the database and on what anybody else is answered, and each gets the
record of the first delivery. -/
theorem retries_are_transparent (env : Env) (uuid5 : Uuid5) (ds : List (Delivery × Bool))
    (named : Named uuid5 fun x => ∃ d ∈ ds, d.1 = .post x)
    (legitimate : Redelivery.Legitimate (Delivery.next env uuid5) (Delivery.answer env uuid5) Served Retried .empty
      (fun _ _ => False) ds) :
    (ds.map Prod.fst).foldl (Delivery.next env uuid5) .empty =
      (Redelivery.firsts ds).foldl (Delivery.next env uuid5) .empty ∧
    ((Redelivery.answers (Delivery.next env uuid5)
      (Delivery.answer env uuid5) .empty ds).filter fun x => !x.1.2).map
        (fun x => (x.1.1, x.2)) =
      Unwinding.outputs (Delivery.next env uuid5) (Delivery.answer env uuid5) .empty (Redelivery.firsts ds) ∧
    ∀ x ∈ Redelivery.answers (Delivery.next env uuid5) (Delivery.answer env uuid5) .empty ds, x.1.2 = true →
      ∃ b o, ((b, false), o) ∈ Redelivery.answers (Delivery.next env uuid5) (Delivery.answer env uuid5) .empty ds ∧
        Served o ∧ Retried b x.1.1 ∧ SameRecord o x.2 := by
  have hminted : Minted uuid5 (fun x => ∃ d ∈ ds, d.1 = .post x) Database.empty := by
    intro κ _ row hrow
    cases κ <;> cases hrow
  have hfrom : ∀ d ∈ ds, d.1.From fun x => ∃ d ∈ ds, d.1 = .post x := by
    intro d hd
    cases hpost : d.1 with
    | post x => exact ⟨d, hd, hpost⟩
    | call w _ _ => trivial
  obtain ⟨hstate, hfirsts, hagain⟩ :=
    (retries_idempotent named).transparent (s := Database.empty) ⟨.refl _, hminted⟩
    (fun _ _ h => h.elim) ds hfrom legitimate
  refine ⟨hstate, hfirsts, fun x hx hx2 => ?_⟩
  obtain ⟨b, o, hb, hrest⟩ := hagain x hx hx2
  exact ⟨b, o, hb.resolve_left fun h => h, hrest⟩

/-- The experiment once more, with what the process draws by then. -/
def experimentPostAgain (producer key : String) : Post :=
  { experimentPost producer key with draw := ⟨⟨"00000000000000000000000000000001", by decide, by decide⟩,
    sampleTime⟩ }

/-- A request, another producer's, and the first again. -/
def retriedRun : List (Delivery × Bool) :=
  [(.post (experimentPost "alpha" "k"), false), (.post (experimentPost "beta" "k"), false),
    (.post (experimentPostAgain "alpha" "k"), true)]

theorem retriedRun_is_transparent :
    (retriedRun.map Prod.fst).foldl (Delivery.next .reference knownUuid5) .empty =
      (Redelivery.firsts retriedRun).foldl (Delivery.next .reference knownUuid5) .empty := by
  have hposts : ∀ x, (∃ d ∈ retriedRun, d.1 = .post x) → (x.table = .experiments ∧ x.key = some "k") ∧
      (x.producer = "alpha" ∧ x.name = some "experiment:alpha:k" ∨
        x.producer = "beta" ∧ x.name = some "experiment:beta:k") := by
    rintro x ⟨d, hd, hx⟩
    simp only [retriedRun, List.mem_cons, List.not_mem_nil, or_false] at hd
    rcases hd with rfl | rfl | rfl
    · obtain rfl := Delivery.post.inj hx
      exact ⟨⟨rfl, rfl⟩, Or.inl ⟨rfl, rfl⟩⟩
    · obtain rfl := Delivery.post.inj hx
      exact ⟨⟨rfl, rfl⟩, Or.inr ⟨rfl, rfl⟩⟩
    · obtain rfl := Delivery.post.inj hx
      exact ⟨⟨rfl, rfl⟩, Or.inl ⟨rfl, rfl⟩⟩
  refine (retries_are_transparent .reference knownUuid5 retriedRun ⟨fun x y hx hy hsome huuid => ?_,
    fun x y hx hy _ _ hname => ?_⟩ ?_).1
  · refine ⟨hsome, ?_⟩
    unfold Post.uuid at huuid
    rcases (hposts x hx).2 with ⟨_, hxn⟩ | ⟨_, hxn⟩ <;> rcases (hposts y hy).2 with ⟨_, hyn⟩ | ⟨_, hyn⟩ <;>
      rw [hxn, hyn] at huuid ⊢ <;> dsimp only at huuid
    · exact absurd (congrArg UuidHex.hex huuid) (by decide +kernel)
    · exact absurd (congrArg UuidHex.hex huuid) (by decide +kernel)
  · refine ⟨?_, (hposts x hx).1.2.trans (hposts y hy).1.2.symm⟩
    rcases (hposts x hx).2 with ⟨hxp, hxn⟩ | ⟨hxp, hxn⟩ <;> rcases (hposts y hy).2 with ⟨hyp, hyn⟩ | ⟨hyp, hyn⟩
    · rw [hxp, hyp]
    · rw [hxn, hyn] at hname
      exact absurd (Option.some.inj hname) (by decide)
    · rw [hxn, hyn] at hname
      exact absurd (Option.some.inj hname) (by decide)
    · rw [hxp, hyp]
  · obtain ⟨rep, _, hserved, _⟩ :=
      @experimentPost_created .reference knownUuid5 "alpha" "k" (by decide) (by decide)
    exact ⟨⟨_, _, Or.inl (Or.inr ⟨rfl, rfl, _, hserved⟩), rfl, rfl⟩, trivial⟩

end Api

end Cer
