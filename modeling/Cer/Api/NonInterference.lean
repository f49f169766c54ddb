import Cer.Api.IdempotencyKeys
import Cer.Metadata.Frame

/-!
# Producers do not interfere

A key belongs to its producer, so the requests of one producer should leave those of
another as they are.  The store keeps the two apart by the pair of producer and key; the
identity, though, is derived from one text in which producer and key are joined by a
colon.  `non_interference_iff` says that producers do not interfere unless two such texts
are the same.
-/

namespace Cer.Api

open Py

/-! ## Submissions -/

/-- The prefix of a table's identities, and the kind in the names they are derived from. -/
def idNames : KeyedTable → String × String
  | .experiments => ("exp_", "experiment")
  | .runs => ("run_", "run")
  | .evidence => ("ev_", "evidence")
  | .artifacts => ("art_", "artifact")
  | .promotions => ("trn_", "promotion")
  | .healthRecords => ("hlt_", "health")

/-- Table, producer, header and body key of a request to an endpoint that derives identities from keys. -/
def Request.submission : Request → Option (KeyedTable × String × Option String × Option String)
  | .createExperiment body header => some (.experiments, body.producer, header, body.idempotencyKey)
  | .createRun _ body header => some (.runs, body.producer, header, body.idempotencyKey)
  | .appendEvidence body header => some (.evidence, body.producer, header, body.idempotencyKey)
  | .createPromotion body header => some (.promotions, body.producer, header, body.idempotencyKey)
  | .createHealthRecord body header => some (.healthRecords, body.producer, header, body.idempotencyKey)
  | _ => none

/-- A submission of a producer under a key, if it gives one, with what the process draws for it. -/
structure Post where
  req : Request
  draw : Draw
  table : KeyedTable
  producer : String
  key : Option String
  mappings : req.WellFormed
  submits : ∃ header bodyKey, req.submission = some (table, producer, header, bodyKey) ∧
    resolveIdempotencyKey header bodyKey = .ok key

/-- The name the identity is derived from, if it is. -/
def Post.name (x : Post) : Option String := (truthy x.key).map (derivationName (idNames x.table).2 x.producer)

section posts
variable (env : Env) (uuid5 : Uuid5)

def Post.uuid (x : Post) : UuidHex :=
  match x.name with
  | some n => uuid5 n
  | none => x.draw.uuid4

def Post.ident (x : Post) : String := (idNames x.table).1 ++ (x.uuid uuid5).hex

/-- `uuid5` tells the two names apart, and what is drawn by `uuid4` is new: one UUID comes from one name. -/
def Post.Apart (x y : Post) : Prop := x.uuid uuid5 = y.uuid uuid5 → x.name.isSome ∧ x.name = y.name

/-- The experiment and the run the body refers to are there. -/
def Post.RefsExist (db : Database) (x : Post) : Prop :=
  ∀ w, x.req.toWrite uuid5 x.draw = .ok w → w.RefsExist db

/-- What the submitter gets: a refusal, or a record and whether this request created it. -/
def Post.outcome (db : Database) (x : Post) : Except Exc (Reply × Bool) :=
  fate db (handle env uuid5 x.draw db x.req)

/-- What is committed: a refused request leaves the database as it was. -/
def Post.next (db : Database) (x : Post) : Database :=
  match handle env uuid5 x.draw db x.req with
  | .ok (_, db') => db'
  | .error _ => db

/-- **Non-interference** of `q`, under any of the keys, with a submission of `p`. -/
def NonInterference (p q : String) (key : Option String) (keys : List String) : Prop :=
  ∀ db, Reachable env db → ∀ (others : List Post) (x : Post),
    (∀ y ∈ others, y.producer = q ∧ ∃ k ∈ keys, y.key = some k) → x.producer = p → x.key = key →
    x.RefsExist uuid5 db → (∀ y ∈ others, x.Apart uuid5 y) →
    x.outcome env uuid5 (others.foldl (Post.next env uuid5) db) = x.outcome env uuid5 db

end posts

/-! ## One submission -/

section step
variable {env : Env} {uuid5 : Uuid5} {db : Database}

theorem generateId_uuid {x : Post} {idPrefix kind i : String} (hn : idNames x.table = (idPrefix, kind))
    (h : generateId uuid5 x.draw idPrefix kind x.key (some x.producer) = .ok i) : i = x.ident uuid5 := by
  unfold Post.ident Post.uuid Post.name
  rw [hn]
  unfold generateId at h
  cases ht : truthy x.key with
  | none =>
    rw [ht] at h
    exact (Except.ok.inj h).symm
  | some k =>
    rw [ht] at h
    obtain ⟨p, hp, h⟩ := bind_ok h
    unfold requireProducerForKey at hp
    dsimp only at hp
    split at hp
    · cases hp
    · cases hp
      exact (Except.ok.inj h).symm

theorem submission_fields {κ κ' : KeyedTable} {p p' : String} {header header' bodyKey bodyKey' : Option String}
    (h : some (κ, p, header, bodyKey) = some (κ', p', header', bodyKey')) :
    κ = κ' ∧ p = p' ∧ header = header' ∧ bodyKey = bodyKey' := by
  cases h
  exact ⟨rfl, rfl, rfl, rfl⟩

/-- What a submission asks of the store: a record under its identity and its producer's key. -/
theorem Post.toWrite_ok {x : Post} {w : Write} (h : x.req.toWrite uuid5 x.draw = .ok w) :
    w.Valid ∧ w.target = some (x.table, x.ident uuid5) ∧ w.keyed = x.key.map fun k =>
      (x.table, x.producer, k) := by
  refine ⟨Request.toWrite_valid x.mappings h, ?_⟩
  obtain ⟨header, bodyKey, hf, hkey⟩ := x.submits
  have hwf := x.mappings
  cases hr : x.req with
  | createExperiment body header' =>
    rw [hr] at hf h
    obtain ⟨ht, hprod, rfl, rfl⟩ := submission_fields hf
    obtain ⟨key, i, e, hkey', hi, rfl, _, rfl, hp⟩ := createExperiment_ok h
    obtain rfl : key = x.key := Except.ok.inj (hkey'.symm.trans hkey)
    rw [hprod] at hi hp
    rw [← ht, ← generateId_uuid (ht ▸ rfl) hi, ← hp]
    exact ⟨rfl, by cases x.key <;> rfl⟩
  | createRun experimentId body header' =>
    rw [hr] at hf h
    obtain ⟨ht, hprod, rfl, rfl⟩ := submission_fields hf
    obtain ⟨key, i, r, hkey', hi, rfl, _, rfl, hp, _⟩ := createRun_ok h
    obtain rfl : key = x.key := Except.ok.inj (hkey'.symm.trans hkey)
    rw [hprod] at hi hp
    rw [← ht, ← generateId_uuid (ht ▸ rfl) hi, ← hp]
    exact ⟨rfl, by cases x.key <;> rfl⟩
  | appendEvidence body header' =>
    rw [hr] at hf h hwf
    obtain ⟨ht, hprod, rfl, rfl⟩ := submission_fields hf
    obtain ⟨k, i, e, hkey', _, hi, rfl, _, rfl, hp, hek⟩ := appendEvidence_ok hwf.1 hwf.2 h
    have hk : some k = x.key := Except.ok.inj (hkey'.symm.trans hkey)
    rw [hprod, hk] at hi
    rw [hprod] at hp
    rw [← ht, ← generateId_uuid (ht ▸ rfl) hi, ← hp, ← hk, ← hek]
    exact ⟨rfl, rfl⟩
  | createPromotion body header' =>
    rw [hr] at hf h
    obtain ⟨ht, hprod, rfl, rfl⟩ := submission_fields hf
    obtain ⟨key, i, t, hkey', hi, rfl, _, rfl, hp⟩ := createPromotion_ok h
    obtain rfl : key = x.key := Except.ok.inj (hkey'.symm.trans hkey)
    rw [hprod] at hi hp
    rw [← ht, ← generateId_uuid (ht ▸ rfl) hi, ← hp]
    exact ⟨rfl, by cases x.key <;> rfl⟩
  | createHealthRecord body header' =>
    rw [hr] at hf h hwf
    obtain ⟨ht, hprod, rfl, rfl⟩ := submission_fields hf
    obtain ⟨key, i, t, hkey', hi, rfl, _, rfl, hp⟩ := createHealthRecord_ok hwf h
    obtain rfl : key = x.key := Except.ok.inj (hkey'.symm.trans hkey)
    rw [hprod] at hi hp
    rw [← ht, ← generateId_uuid (ht ▸ rfl) hi, ← hp]
    exact ⟨rfl, by cases x.key <;> rfl⟩
  | createStrategy body => rw [hr] at hf; cases hf
  | createStrategyVersion i body => rw [hr] at hf; cases hf
  | closeRun i body => rw [hr] at hf; cases hf
  | attachArtifact i body => rw [hr] at hf; cases hf

theorem Post.next_cases (y : Post) (db : Database) : y.next env uuid5 db = db ∨
    ∃ w rep, y.req.toWrite uuid5 y.draw = .ok w ∧ w.run env db = .ok (rep, y.next env uuid5 db) := by
  unfold Post.next
  cases hw : y.req.toWrite uuid5 y.draw with
  | error e =>
    have hh : handle env uuid5 y.draw db y.req = .error e := by
      unfold handle
      rw [hw]
      rfl
    rw [hh]
    exact Or.inl rfl
  | ok w =>
    rw [handle_of_toWrite hw]
    cases hr : w.run env db with
    | error e => exact Or.inl rfl
    | ok out => exact Or.inr ⟨w, out.1, rfl, hr⟩

theorem Post.next_reachable (hdb : Reachable env db) (y : Post) : Reachable env (y.next env uuid5 db) := by
  rcases @Post.next_cases env uuid5 y db with h | ⟨w, rep, hw, hrun⟩
  · rw [h]
    exact hdb
  · exact .commit hdb (Post.toWrite_ok hw).1 hrun

theorem Post.next_extends (hdb : Reachable env db) (y : Post) : db.Extends (y.next env uuid5 db) := by
  rcases @Post.next_cases env uuid5 y db with h | ⟨w, rep, hw, hrun⟩
  · rw [h]
    exact .refl db
  · exact hdb.wellFormed.extends (effect_of_run hrun)

/-- The two go to different tables, or under different identities and keys. -/
def Post.Clear (uuid5 : Uuid5) (x y : Post) : Prop :=
  x.table = y.table → y.ident uuid5 ≠ x.ident uuid5 ∧
    ∀ k k', x.key = some k → y.key = some k' → (y.producer, k') ≠ (x.producer, k)

/-- **One submission of another producer** changes nothing for the submitter. -/
theorem Post.outcome_next (hdb : Reachable env db) {x y : Post} (hclear : x.Clear uuid5 y)
    (hrefs : x.RefsExist uuid5 db) : x.outcome env uuid5 (y.next env uuid5 db) = x.outcome env uuid5 db := by
  have hdb' := @Post.next_reachable env uuid5 db hdb y
  rcases @Post.next_cases env uuid5 y db with h | ⟨w, rep, hw, hrun⟩
  · rw [h]
  obtain ⟨_, ht, hkeyed⟩ := Post.toWrite_ok hw
  rcases inserting_run_cases ht hrun with h | ⟨row, hadds, hident, hkey⟩
  · rw [h]
  unfold Post.outcome
  cases hx : x.req.toWrite uuid5 x.draw with
  | error e =>
    unfold handle
    rw [hx]
    rfl
  | ok v =>
    obtain ⟨_, htx, hkx⟩ := Post.toWrite_ok hx
    rw [handle_of_toWrite hx, handle_of_toWrite hx]
    refine Write.outcome_adds hdb.wellFormed hdb'.wellFormed hadds htx ⟨fun i hi => ?_, fun p k hk hrow => ?_⟩
      (hrefs v hx)
    · rw [htx] at hi
      obtain ⟨htable, rfl⟩ := Prod.mk.inj (Option.some.inj hi)
      rw [hident]
      exact (hclear htable).1
    · rw [hkx] at hk
      obtain ⟨k₁, hk₁, hk⟩ := Option.map_eq_some_iff.1 hk
      obtain ⟨htable, hpk⟩ := Prod.mk.inj hk
      obtain ⟨rfl, rfl⟩ := Prod.mk.inj hpk
      rw [hkey, hkeyed, Option.map_map] at hrow
      obtain ⟨k₂, hk₂, hpk⟩ := Option.map_eq_some_iff.1 hrow
      exact (hclear htable).2 k₁ k₂ hk₁ hk₂ hpk

/-- **Any submissions of another producer** change nothing for the submitter. -/
theorem Post.outcome_after {x : Post} {others : List Post} (hclear : ∀ y ∈ others, x.Clear uuid5 y)
    (hdb : Reachable env db) (hrefs : x.RefsExist uuid5 db) :
    x.outcome env uuid5 (others.foldl (Post.next env uuid5) db) = x.outcome env uuid5 db := by
  induction others generalizing db with
  | nil => rfl
  | cons y others ih =>
    have hrefs' : x.RefsExist uuid5 (y.next env uuid5 db) :=
      fun w hw => refsExist_mono (y.next_extends hdb) (hrefs w hw)
    rw [List.foldl_cons, ih (fun z hz => hclear z (List.mem_cons_of_mem _ hz)) (y.next_reachable hdb) hrefs']
    exact Post.outcome_next hdb (hclear y List.mem_cons_self) hrefs

end step

/-! ## Names -/

theorem append_cancel_left {a b c : String} (h : a ++ b = a ++ c) : b = c := by
  have hl := congrArg String.toList h
  rw [String.toList_append, String.toList_append] at hl
  exact String.toList_inj.1 (List.append_cancel_left hl)

/-- Two names of one kind are the same where producer and key, joined by a colon, are. -/
theorem derivationName_eq_iff {kind p q k k' : String} :
    derivationName kind q k' = derivationName kind p k ↔ q ++ ":" ++ k' = p ++ ":" ++ k := by
  unfold derivationName
  have hassoc : ∀ a b : String, kind ++ ":" ++ a ++ ":" ++ b = kind ++ ":" ++ (a ++ ":" ++ b) := fun a b => by
    simp only [String.append_assoc]
  rw [hassoc, hassoc]
  exact ⟨append_cancel_left, fun h => by rw [h]⟩

theorem UuidHex.eq_of_hex {u v : UuidHex} (h : u.hex = v.hex) : u = v := by
  cases u
  cases v
  cases h
  rfl

theorem Post.name_eq_some {x : Post} {k : String} (hk : x.key = some k) (hne : k ≠ "") :
    x.name = some (derivationName (idNames x.table).2 x.producer k) := by
  unfold Post.name
  have ht : truthy x.key = some k := by
    rw [hk]
    exact if_neg hne
  rw [ht]
  rfl

/-- Where the joined texts differ, submissions of two producers are clear of each other. -/
theorem Post.clear_of {uuid5 : Uuid5} {x y : Post} {k' : String} (hpq : y.producer ≠ x.producer)
    (hy : y.key = some k') (hapart : x.Apart uuid5 y)
    (hnames : ∀ k, truthy x.key = some k → k' ≠ "" → y.producer ++ ":" ++ k' ≠ x.producer ++ ":" ++ k) :
    x.Clear uuid5 y := by
  intro htable
  refine ⟨fun hident => ?_, fun k k₁ _ _ hpk => hpq (Prod.mk.inj hpk).1⟩
  unfold Post.ident at hident
  rw [htable] at hident
  have huuid : x.uuid uuid5 = y.uuid uuid5 := (UuidHex.eq_of_hex (append_cancel_left hident)).symm
  obtain ⟨hsome, hname⟩ := hapart huuid
  obtain ⟨n, hn⟩ := Option.isSome_iff_exists.1 hsome
  -- one name: both keys are truthy and the joined texts are the same
  obtain ⟨k, hk, hkn⟩ := Option.map_eq_some_iff.1 hn
  rw [hn] at hname
  obtain ⟨k₁, hk₁, hkn₁⟩ := Option.map_eq_some_iff.1 hname.symm
  obtain ⟨hyk, hne⟩ := truthy_eq_some hk₁
  obtain rfl : k' = k₁ := Option.some.inj (hy.symm.trans hyk)
  refine hnames k hk hne (derivationName_eq_iff.1 (hkn₁.trans ?_))
  rw [← hkn, htable]

/-! ## Two experiments under one name -/

/-- An experiment posted under a key. -/
def experimentPost (producer key : String) : Post where
  req := .createExperiment (plainBody producer (some key)) none
  draw := ⟨zeros, minTime⟩
  table := .experiments
  producer := producer
  key := some key
  mappings := trivial
  submits := ⟨none, some key, rfl, rfl⟩

section posted
variable (env : Env) (uuid5 : Uuid5) {producer key : String}

theorem experimentPost_toWrite (hp : isBlank producer = false) (hk : key ≠ "") :
    (experimentPost producer key).req.toWrite uuid5 (experimentPost producer key).draw =
      .ok (.createExperiment (plainExperiment (uuid5 (derivationName "experiment" producer key)) producer)
        (some key)) := by
  have ht : truthy (some key) = some key := if_neg hk
  exact plainBody_call hp rfl (generateId_truthy ht hp)

/-- In an empty store it is created. -/
theorem experimentPost_created (hp : isBlank producer = false) (hk : key ≠ "") :
    ∃ rep db, (experimentPost producer key).outcome env uuid5 .empty = .ok (rep, true) ∧
      (experimentPost producer key).next env uuid5 .empty = db ∧
      db.HasIdent .experiments ((experimentPost producer key).ident uuid5) := by
  have hw := experimentPost_toWrite uuid5 hp hk
  obtain ⟨_, ht, hkeyed⟩ := Post.toWrite_ok hw
  obtain ⟨rep, row, db, _, _, hrun, hadds, hrow⟩ := @Write.run_new env .empty _ _ _ ht (fun h => by cases h)
    (fun κ p k _ ⟨row, hmem, _⟩ => by cases κ <;> cases hmem) trivial (fun ⟨row, hmem, _⟩ => by cases hmem)
  have hne : db ≠ Database.empty := by
    rintro rfl
    have hlen := congrArg List.length hadds.self
    simp at hlen
  refine ⟨rep, db, ?_, ?_, hrow ▸ hadds.hasIdent⟩
  · unfold Post.outcome
    rw [handle_of_toWrite hw, hrun]
    show Except.ok (rep, decide (db ≠ Database.empty)) = .ok (rep, true)
    rw [decide_eq_true hne]
  · unfold Post.next
    rw [handle_of_toWrite hw, hrun]

/-- Where its identity is taken it is not. -/
theorem experimentPost_not_created (hp : isBlank producer = false) (hk : key ≠ "") {db : Database}
    (hid : db.HasIdent .experiments ((experimentPost producer key).ident uuid5)) (rep : Reply) :
    (experimentPost producer key).outcome env uuid5 db ≠ .ok (rep, true) := by
  have hw := experimentPost_toWrite uuid5 hp hk
  obtain ⟨_, ht, _⟩ := Post.toWrite_ok hw
  intro h
  unfold Post.outcome at h
  rw [handle_of_toWrite hw] at h
  cases hrun : Write.run env db (.createExperiment
      (plainExperiment (uuid5 (derivationName "experiment" producer key)) producer) (some key)) with
  | error e =>
    rw [hrun] at h
    cases h
  | ok out =>
    obtain ⟨rep', db'⟩ := out
    rw [hrun] at h
    have hchanged : db' ≠ db := of_decide_eq_true (Prod.mk.inj (Except.ok.inj h)).2
    cases effect_of_run hrun with
    | unchanged => exact hchanged rfl
    | experiment _ _ hfresh =>
      obtain ⟨row, hmem, hrow⟩ := hid
      obtain ⟨r, hr, rfl⟩ := List.mem_map.1 hmem
      rw [← (Prod.mk.inj (Option.some.inj ht)).2] at hrow
      exact hfresh.id r hr hrow

end posted

/-- One joined text of two producers: the second one's experiment is not created after the first one's. -/
theorem interferes_of (env : Env) (uuid5 : Uuid5) {p q k k' : String} {keys : List String} (hp : isBlank p = false)
    (hq : isBlank q = false) (hk : k ≠ "") (hmem : k' ∈ keys) (hk' : k' ≠ "")
    (hsame : q ++ ":" ++ k' = p ++ ":" ++ k) : ¬ NonInterference env uuid5 p q (some k) keys := by
  intro h
  obtain ⟨_, db, _, hdb, hid⟩ := experimentPost_created env uuid5 hq hk'
  obtain ⟨rep, _, hnew, _⟩ := experimentPost_created env uuid5 hp hk
  have hpname : (experimentPost p k).name = some (derivationName "experiment" p k) := Post.name_eq_some rfl hk
  have hname : (experimentPost q k').name = (experimentPost p k).name := by
    rw [hpname, @Post.name_eq_some (experimentPost q k') k' rfl hk']
    exact congrArg some (derivationName_eq_iff.2 hsame)
  have hident : (experimentPost q k').ident uuid5 = (experimentPost p k).ident uuid5 := by
    unfold Post.ident Post.uuid
    rw [hname]
    rfl
  have hothers : ∀ y ∈ [experimentPost q k'], y.producer = q ∧ ∃ k ∈ keys, y.key = some k := by
    intro y hy
    rw [List.mem_singleton.1 hy]
    exact ⟨rfl, k', hmem, rfl⟩
  have hrefs : (experimentPost p k).RefsExist uuid5 .empty := by
    intro w hw
    rw [experimentPost_toWrite uuid5 hp hk] at hw
    cases hw
    trivial
  have hapart : ∀ y ∈ [experimentPost q k'], (experimentPost p k).Apart uuid5 y := by
    intro y hy _
    rw [List.mem_singleton.1 hy, hname, hpname]
    exact ⟨rfl, rfl⟩
  have hout := h .empty (.refl _) _ (experimentPost p k) hothers rfl rfl hrefs hapart
  rw [List.foldl_cons, List.foldl_nil, hdb, hnew] at hout
  exact experimentPost_not_created env uuid5 hp hk (hident ▸ hid) rep hout

/-- **Producers do not interfere** just when no key of the other one, joined to its name by a colon, gives the
text that the submitter's name and key give. -/
theorem non_interference_iff (env : Env) (uuid5 : Uuid5) {p q : String} (hp : isBlank p = false)
    (hq : isBlank q = false) (hpq : p ≠ q) (key : Option String) (keys : List String) :
    NonInterference env uuid5 p q key keys ↔
      ∀ k, truthy key = some k → ∀ k' ∈ keys, k' ≠ "" → q ++ ":" ++ k' ≠ p ++ ":" ++ k := by
  constructor
  · intro h k hk k' hk' hne hsame
    obtain ⟨rfl, hkne⟩ := truthy_eq_some hk
    exact interferes_of env uuid5 hp hq hkne hk' hne hsame h
  · intro h db hdb others x hothers hxp hxk hrefs hapart
    refine Post.outcome_after (fun y hy => ?_) hdb hrefs
    obtain ⟨hyq, k', hk', hyk⟩ := hothers y hy
    refine Post.clear_of (by rw [hyq, hxp]; exact hpq.symm) hyk (hapart y hy) fun k hk hne => ?_
    rw [hyq, hxp]
    exact h k (hxk ▸ hk) k' hk' hne

/-- Identities as `uuid5` of the namespace derives them. -/
def knownUuids : List (String × UuidHex) :=
  [("experiment:alpha:k", ⟨"21a7aab23f07544c9b92bc8e6322ae0d", by decide, by decide⟩),
   ("experiment:beta:k", ⟨"d7a1e97fe0d853728b8efa9951dd0f27", by decide, by decide⟩),
   ("run:alpha:k", ⟨"9ec184ca96fe53b38a92dfb1dc62f2c6", by decide, by decide⟩),
   ("run:beta:k", ⟨"f2e1aa1adb0a52f1af32e0af184f1a7d", by decide, by decide⟩),
   ("evidence:alpha:k", ⟨"287b0c11973b5ba7a27a48a03ff35d3b", by decide, by decide⟩),
   ("evidence:beta:k", ⟨"fff8d95422ad5c3fb1a7d9d526961ed3", by decide, by decide⟩),
   ("promotion:alpha:k", ⟨"156e7152689858a1966dbf41d2551b46", by decide, by decide⟩),
   ("promotion:beta:k", ⟨"16ca4de8751256959b3b76a583d39395", by decide, by decide⟩),
   ("health:alpha:k", ⟨"8dff03e512745bd9a2f4fc789ed6cfdb", by decide, by decide⟩),
   ("health:beta:k", ⟨"2d359072653e5154a37c34c407d4fc2e", by decide, by decide⟩),
   ("experiment:a:b:c", ⟨"bb9fba75af475c16b818e4f06a8527e5", by decide, by decide⟩)]

def knownUuid5 : Uuid5 := fun name => (knownUuids.lookup name).getD zeros

/-- Two producers with one key. -/
theorem alpha_beta_do_not_interfere : NonInterference .reference knownUuid5 "alpha" "beta" (some "k") ["k"] := by
  refine (non_interference_iff .reference knownUuid5 (by decide) (by decide) (by decide) (some "k") ["k"]).2 ?_
  intro k hk k' hk' _
  obtain rfl : k' = "k" := List.mem_singleton.1 hk'
  obtain rfl : "k" = k := Option.some.inj ((truthy_eq_some hk).1)
  decide

/-- A producer with a colon in its name, and one that starts like it. -/
theorem colon_producers_interfere : ¬ NonInterference .reference knownUuid5 "a:b" "a" (some "c") ["b:c"] :=
  interferes_of .reference knownUuid5 (by decide) (by decide) (by decide) (List.mem_singleton_self _)
    (by decide) rfl

end Cer.Api
