import Cer.Lib.WriteOnce
import Cer.Metadata.Constraints

/-!
# Attachment

An artifact's two links are slots that are written once.  `attach_cases` says what one call
does; a run of calls on one artifact is a run of `WriteOnce`, refused calls left out.
-/

namespace Cer

open WriteOnce

inductive LinkField
  | evidence
  | run
deriving DecidableEq

/-- The links that a call of `attach_artifact` names. -/
structure AttachCall where
  evidenceId : Option String
  runId : Option String
deriving DecidableEq

def AttachCall.slots (c : AttachCall) : Slots LinkField String
  | .evidence => c.evidenceId
  | .run => c.runId

/-- The links of a row. -/
def ArtifactRow.slots (r : ArtifactRow) : Slots LinkField String
  | .evidence => r.evidenceId
  | .run => r.runId

def AttachCall.TargetsExist (db : Database) (c : AttachCall) : Prop :=
  (∀ e ∈ c.evidenceId, db.hasEvidence e) ∧ ∀ r ∈ c.runId, db.hasRun r

/-- The artifact's row has these links; its other columns, and all other rows, are as they were. -/
def Database.withLinks (db : Database) (artifactId : String) (l : Slots LinkField String) : Database :=
  { db with artifacts := db.artifacts.map fun x =>
              if x.artifactId == artifactId then x.linked (l .evidence) (l .run) else x }

/-- What calls on one artifact come to, one after the other: the result of each, and the database they leave. -/
def attachAll (artifactId : String) : Database → List AttachCall →
    List (AttachCall × Except Exc ArtifactRecord) × Database
  | db, [] => ([], db)
  | db, c :: cs => match attachArtifact db artifactId c.evidenceId c.runId with
    | .ok (a, db') => ((c, .ok a) :: (attachAll artifactId db' cs).1, (attachAll artifactId db' cs).2)
    | .error e => ((c, .error e) :: (attachAll artifactId db cs).1, (attachAll artifactId db cs).2)

/-- The value of a link that the first call to go through with it gave. -/
def firstCommitted (results : List (AttachCall × Except Exc ArtifactRecord)) (f : LinkField) : Option String :=
  results.findSome? fun x => if x.2.toOption.isSome then x.1.slots f else none

/-- What one call comes to. -/
inductive AttachOutcome (db : Database) (artifactId : String) (c : AttachCall) : Prop
  /-- It sets the links it names, and those alone. -/
  | set (row : ArtifactRow) (a : ArtifactRecord) (mem : row ∈ db.artifacts) (id : row.artifactId = artifactId)
      (targets : c.TargetsExist db) (agree : Agree row.slots c.slots)
      (result : attachArtifact db artifactId c.evidenceId c.runId =
        .ok (a, db.withLinks artifactId (assign row.slots c.slots)))
      (record : rowToArtifact
        (row.linked (assign row.slots c.slots .evidence) (assign row.slots c.slots .run)) = .ok a)
  | missing (m : String) (result : attachArtifact db artifactId c.evidenceId c.runId = .error (notFound m))
      (why : (∀ row ∈ db.artifacts, row.artifactId ≠ artifactId) ∨ ¬ c.TargetsExist db)
  | relink (row : ArtifactRow) (m : String) (mem : row ∈ db.artifacts) (id : row.artifactId = artifactId)
      (targets : c.TargetsExist db) (conflict : ¬ Agree row.slots c.slots)
      (result : attachArtifact db artifactId c.evidenceId c.runId = .error (immutability m))

/-! ## One call -/

/-- The link check: the value the slot has afterwards, or a refusal to change it. -/
theorem attachLink_cases (i field : String) (current requested : Option String) :
    attachLink i field current requested = .ok (current.or requested) ∧
        (∀ v w, current = some v → requested = some w → v = w) ∨
      (∃ m, attachLink i field current requested = .error (immutability m)) ∧
        ¬ ∀ v w, current = some v → requested = some w → v = w := by
  cases requested with
  | none =>
    refine Or.inl ⟨?_, fun v w _ hw => by cases hw⟩
    rw [Option.or_none]
    rfl
  | some new =>
    cases current with
    | none => exact Or.inl ⟨rfl, fun v w hv _ => by cases hv⟩
    | some old =>
      unfold attachLink
      by_cases h : old = new
      · refine Or.inl ⟨?_, fun v w hv hw => ?_⟩
        · dsimp only
          rw [if_neg (not_not_intro h), h]
          rfl
        · rw [← Option.some.inj hv, ← Option.some.inj hw, h]
      · refine Or.inr ⟨⟨_, if_pos h⟩, fun hall => h (hall old new rfl rfl)⟩

theorem agree_slots_iff {row : ArtifactRow} {c : AttachCall} : Agree row.slots c.slots ↔
    (∀ v w, row.evidenceId = some v → c.evidenceId = some w → v = w) ∧
      ∀ v w, row.runId = some v → c.runId = some w → v = w := by
  constructor
  · exact fun h => ⟨h .evidence, h .run⟩
  · rintro ⟨he, hr⟩ f
    cases f with
    | evidence => exact he
    | run => exact hr

/-- A slot that is set where it was not takes an allowed step. -/
theorem linkStep_or {hasTarget : String → Prop} (current : Option String) {requested : Option String}
    (h : ∀ i ∈ requested, hasTarget i) : LinkStep hasTarget current (current.or requested) := by
  cases current with
  | some v => exact Or.inl rfl
  | none =>
    cases requested with
    | none => exact Or.inl rfl
    | some i => exact Or.inr ⟨rfl, i, rfl, h i rfl⟩

section wellFormed
variable {env : Env} {db : Database}

/-- Setting the links a row has changes nothing. -/
theorem WellFormed.withLinks_self (h : WellFormed env db) {row : ArtifactRow} (hmem : row ∈ db.artifacts)
    {l : Slots LinkField String} (he : l .evidence = row.evidenceId) (hr : l .run = row.runId) :
    db.withLinks row.artifactId l = db := by
  have hmap : (db.artifacts.map fun x => if x.artifactId == row.artifactId then
    x.linked (l .evidence) (l .run) else x) =
      db.artifacts := by
    refine (List.map_congr_left fun x hx => ?_).trans (List.map_id _)
    by_cases hid : x.artifactId = row.artifactId
    · obtain rfl : x = row := h.artifacts.distinct.eq_of_ident hx hmem hid
      rw [if_pos (beq_iff_eq.2 rfl), he, hr]
      rfl
    · rw [if_neg (by simpa using hid)]
      rfl
  unfold Database.withLinks
  rw [hmap]

/-- **What `attach_artifact` does**: it sets the links it names, or raises and sets none. -/
theorem WellFormed.attach_cases (h : WellFormed env db) (i : String) (c : AttachCall) : AttachOutcome db i c := by
  cases hf : db.artifacts.find? (·.artifactId == i) with
  | none =>
    refine .missing _ (by unfold attachArtifact; rw [hf]) (Or.inl fun row hrow => ?_)
    simpa using List.find?_eq_none.1 hf row hrow
  | some row =>
    have hmem := List.mem_of_find?_eq_some hf
    have hid : row.artifactId = i := by simpa using List.find?_some hf
    rcases ifPresent_cases (requireEvidence_cases db) c.evidenceId with ⟨he, het⟩ | ⟨⟨m, he⟩, het⟩
    · rcases ifPresent_cases (requireRun_cases db) c.runId with ⟨hr, hrt⟩ | ⟨⟨m, hr⟩, hrt⟩
      · rcases attachLink_cases i "evidence_id" row.evidenceId c.evidenceId with ⟨hle, hea⟩ | ⟨⟨m, hle⟩, hea⟩
        · rcases attachLink_cases i "run_id" row.runId c.runId with ⟨hlr, hra⟩ | ⟨⟨m, hlr⟩, hra⟩
          · -- both links may take their values
            obtain ⟨a, db', hup, hfind, hread⟩ := h.attach_update hf (e := c.evidenceId) (r := c.runId)
              (linkStep_or row.evidenceId het) (linkStep_or row.runId hrt)
            have hdb : db' = db.withLinks i (assign row.slots c.slots) := Table.update_ok hup
            refine .set row a hmem hid ⟨het, hrt⟩ (agree_slots_iff.2 ⟨hea, hra⟩) ?_ hread
            unfold attachArtifact
            rw [hf]
            dsimp only
            rw [he, hr, hle, hlr]
            simp only [ok_bind]
            by_cases hch : row.evidenceId.or c.evidenceId ≠ row.evidenceId ∨ row.runId.or c.runId ≠ row.runId
            · have hup' : artifactsTable.update db (·.artifactId == i) (fun x =>
                  { x with evidenceId := row.evidenceId.or c.evidenceId,
                           runId := row.runId.or c.runId }) = .ok db' := hup
              rw [if_pos hch, hup', ok_bind, hfind]
              dsimp only
              rw [hread, ok_bind, hdb]
              rfl
            · rw [if_neg hch]
              rw [not_or, not_not, not_not] at hch
              have hself : row.linked (row.evidenceId.or c.evidenceId) (row.runId.or c.runId) = row := by
                rw [hch.1, hch.2]
                rfl
              have hsame : db.withLinks i (assign row.slots c.slots) = db := by
                rw [← hid]
                exact h.withLinks_self hmem hch.1 hch.2
              rw [hself] at hread
              rw [hread, hsame]
              rfl
          · refine .relink row m hmem hid ⟨het, hrt⟩ (fun hag => hra (agree_slots_iff.1 hag).2) ?_
            unfold attachArtifact
            rw [hf]
            dsimp only
            rw [he, hr, hle, hlr]
            rfl
        · refine .relink row m hmem hid ⟨het, hrt⟩ (fun hag => hea (agree_slots_iff.1 hag).1) ?_
          unfold attachArtifact
          rw [hf]
          dsimp only
          rw [he, hr, hle]
          rfl
      · refine .missing m ?_ (Or.inr fun ht => hrt ht.2)
        unfold attachArtifact
        rw [hf]
        dsimp only
        rw [he, hr]
        rfl
    · refine .missing m ?_ (Or.inr fun ht => het ht.1)
      unfold attachArtifact
      rw [hf]
      dsimp only
      rw [he]
      rfl

/-! ## Runs of calls -/

theorem Database.withLinks_withLinks (db : Database) (i : String) (l l' : Slots LinkField String) :
    (db.withLinks i l).withLinks i l' = db.withLinks i l' := by
  unfold Database.withLinks
  dsimp only
  rw [List.map_map]
  congr 1
  refine List.map_congr_left fun x _ => ?_
  by_cases hx : (x.artifactId == i) = true
  · have hx' : ((x.linked (l .evidence) (l .run)).artifactId == i) = true := hx
    rw [Function.comp_apply, if_pos hx, if_pos hx', if_pos hx]
    rfl
  · rw [Function.comp_apply, if_neg hx, if_neg hx]

theorem Database.mem_withLinks {db : Database} {row : ArtifactRow} (hmem : row ∈ db.artifacts)
    (l : Slots LinkField String) :
    row.linked (l .evidence) (l .run) ∈ (db.withLinks row.artifactId l).artifacts :=
  List.mem_map.2 ⟨row, hmem, if_pos (beq_iff_eq.2 rfl)⟩

theorem ArtifactRow.slots_linked (row : ArtifactRow) (l : Slots LinkField String) :
    (row.linked (l .evidence) (l .run)).slots = l := by
  funext f
  cases f <;> rfl

open Classical in
/-- **Calls on one artifact are a run on its slots**, those without a target left out. -/
theorem WellFormed.attachAll_eq (h : WellFormed env db) {row : ArtifactRow} (hmem : row ∈ db.artifacts)
    (calls : List AttachCall) :
    (attachAll row.artifactId db calls).2 = db.withLinks row.artifactId
        (WriteOnce.run row.slots ((calls.filter fun c => c.TargetsExist db).map AttachCall.slots)) ∧
      ∀ f, firstCommitted (attachAll row.artifactId db calls).1 f =
        (committed row.slots ((calls.filter fun c => c.TargetsExist db).map AttachCall.slots)).findSome?
          fun c => c f := by
  induction calls generalizing db row with
  | nil => exact ⟨(h.withLinks_self hmem rfl rfl).symm, fun f => rfl⟩
  | cons c cs ih =>
    have hrow : ∀ row' ∈ db.artifacts, row'.artifactId = row.artifactId → row' = row := fun row' hr hid =>
      h.artifacts.distinct.eq_of_ident hr hmem hid
    cases h.attach_cases row.artifactId c with
    | set row' a hmem' hid targets agree result record =>
      obtain rfl := hrow row' hmem' hid
      have hnext : WellFormed env (db.withLinks row'.artifactId (assign row'.slots c.slots)) :=
        h.effect (w := .attachArtifact row'.artifactId c.evidenceId c.runId) trivial (effect_of_run (by
          show asReply .artifact (attachArtifact db row'.artifactId c.evidenceId c.runId) = _
          rw [result]
          rfl))
      obtain ⟨hdb, hcom⟩ := ih hnext (Database.mem_withLinks hmem (assign row'.slots c.slots))
      rw [ArtifactRow.slots_linked] at hdb hcom
      unfold attachAll
      rw [result]
      dsimp only
      rw [List.filter_cons_of_pos (by simpa using targets), List.map_cons]
      unfold WriteOnce.run committed
      rw [if_pos agree, if_pos agree]
      refine ⟨hdb.trans (Database.withLinks_withLinks ..), fun f => ?_⟩
      have hrest := hcom f
      unfold firstCommitted at hrest ⊢
      rw [List.findSome?_cons, List.findSome?_cons]
      have hok : (if ((c, Except.ok a) : AttachCall × Except Exc ArtifactRecord).2.toOption.isSome =
        true then c.slots f
          else none) = c.slots f := if_pos rfl
      dsimp only at hok ⊢
      rw [hok]
      cases c.slots f with
      | some v => rfl
      | none => exact hrest
    | missing m result why =>
      have hnot : ¬ c.TargetsExist db := why.resolve_left fun hall => hall row hmem rfl
      obtain ⟨hdb, hcom⟩ := ih h hmem
      unfold attachAll
      rw [result]
      dsimp only
      rw [List.filter_cons_of_neg (by simpa using hnot)]
      exact ⟨hdb, hcom⟩
    | relink row' m hmem' hid targets conflict result =>
      obtain rfl := hrow row' hmem' hid
      obtain ⟨hdb, hcom⟩ := ih h hmem
      unfold attachAll
      rw [result]
      dsimp only
      rw [List.filter_cons_of_pos (by simpa using targets), List.map_cons]
      unfold WriteOnce.run committed
      rw [if_neg conflict, if_neg conflict]
      exact ⟨hdb, hcom⟩

/-- Where all agree and all targets exist, every call goes through. -/
theorem WellFormed.attachAll_succeeds (h : WellFormed env db) {row : ArtifactRow} (hmem : row ∈ db.artifacts)
    {calls : List AttachCall} (targets : ∀ c ∈ calls, c.TargetsExist db)
    (hrow : ∀ c ∈ calls, Agree row.slots c.slots)
    (hcalls : ∀ c ∈ calls, ∀ d ∈ calls, Agree c.slots d.slots) :
    ∀ x ∈ (attachAll row.artifactId db calls).1, ∃ a, x.2 = .ok a := by
  induction calls generalizing db row with
  | nil =>
    intro x hx
    cases hx
  | cons c cs ih =>
    have hone : ∀ row' ∈ db.artifacts, row'.artifactId = row.artifactId → row' = row := fun row' hr hid =>
      h.artifacts.distinct.eq_of_ident hr hmem hid
    cases h.attach_cases row.artifactId c with
    | set row' a hmem' hid _ agree result record =>
      obtain rfl := hone row' hmem' hid
      have hnext : WellFormed env (db.withLinks row'.artifactId (assign row'.slots c.slots)) :=
        h.effect (w := .attachArtifact row'.artifactId c.evidenceId c.runId) trivial (effect_of_run (by
          show asReply .artifact (attachArtifact db row'.artifactId c.evidenceId c.runId) = _
          rw [result]
          rfl))
      have hrest := ih hnext (Database.mem_withLinks hmem (assign row'.slots c.slots))
        (fun d hd => targets d (List.mem_cons_of_mem c hd))
        (fun d hd => by
          rw [ArtifactRow.slots_linked]
          exact (hrow d (List.mem_cons_of_mem c hd)).assign
            (hcalls c List.mem_cons_self d (List.mem_cons_of_mem c hd)))
        (fun d hd e he => hcalls d (List.mem_cons_of_mem c hd) e (List.mem_cons_of_mem c he))
      unfold attachAll
      rw [result]
      intro x hx
      rcases List.mem_cons.1 hx with rfl | hx
      · exact ⟨a, rfl⟩
      · exact hrest x hx
    | missing m result why =>
      rcases why with hall | hnot
      · exact absurd rfl (hall row hmem)
      · exact absurd (targets c List.mem_cons_self) hnot
    | relink row' m hmem' hid _ conflict result =>
      obtain rfl := hone row' hmem' hid
      exact absurd (hrow c List.mem_cons_self) conflict

end wellFormed

/-- **Attachment is written once, all or nothing, and in any order.**  In every reachable state:

1. a call sets exactly the links it names, or raises and changes nothing;
2. calls that agree with one another and with the links the artifact has, and whose targets exist,
all go through, in any order and repeated at will, and leave the same links;
3. whatever the calls, a link holds the value it had, or else that of the first call to go through with it. -/
theorem attachment_is_write_once (env : Env) {db : Database} (reached : Reachable env db) (i : String) :
    (∀ c, AttachOutcome db i c) ∧
    (∀ row ∈ db.artifacts, row.artifactId = i → ∀ calls : List AttachCall, (∀ c ∈ calls, c.TargetsExist db) →
      (∀ c ∈ calls, Agree row.slots c.slots) → (∀ c ∈ calls, ∀ d ∈ calls, Agree c.slots d.slots) →
      ∃ final : Slots LinkField String,
        (∀ f v, final f = some v ↔ row.slots f = some v ∨ row.slots f = none ∧ ∃ c ∈ calls, c.slots f = some v) ∧
        ∀ order, (∀ c, c ∈ order ↔ c ∈ calls) → (∀ x ∈ (attachAll i db order).1, ∃ a, x.2 = .ok a) ∧
          (attachAll i db order).2 = db.withLinks i final) ∧
    ∀ row ∈ db.artifacts, row.artifactId = i → ∀ calls,
      (attachAll i db calls).2 = db.withLinks i fun f =>
        (row.slots f).or (firstCommitted (attachAll i db calls).1 f) := by
  have h := reached.wellFormed
  refine ⟨h.attach_cases i, ?_, ?_⟩
  · rintro row hmem rfl calls targets hrow hcalls
    have hslots : ∀ s ∈ calls.map AttachCall.slots, Agree row.slots s := by
      intro s hs
      obtain ⟨c, hc, rfl⟩ := List.mem_map.1 hs
      exact hrow c hc
    have hpair : ∀ s ∈ calls.map AttachCall.slots, ∀ t ∈ calls.map AttachCall.slots, Agree s t := by
      intro s hs t ht
      obtain ⟨c, hc, rfl⟩ := List.mem_map.1 hs
      obtain ⟨d, hd, rfl⟩ := List.mem_map.1 ht
      exact hcalls c hc d hd
    refine ⟨WriteOnce.run row.slots (calls.map AttachCall.slots), fun f v => ?_, fun order horder => ⟨?_, ?_⟩⟩
    · rw [run_of_agree hslots hpair]
      simp only [List.mem_map, exists_exists_and_eq_and]
    · exact h.attachAll_succeeds hmem (fun c hc => targets c ((horder c).1 hc))
        (fun c hc => hrow c ((horder c).1 hc))
        fun c hc d hd => hcalls c ((horder c).1 hc) d ((horder d).1 hd)
    · rw [(h.attachAll_eq hmem order).1,
        List.filter_eq_self.2 fun c hc => by simpa using targets c ((horder c).1 hc)]
      refine congrArg (db.withLinks row.artifactId) (run_congr hslots hpair fun s => ?_)
      simp only [List.mem_map, horder]
  · rintro row hmem rfl calls
    obtain ⟨hdb, hcommitted⟩ := h.attachAll_eq hmem calls
    rw [hdb]
    congr 1
    funext f
    rw [run_eq, ← hcommitted f]

/-! ## A sample -/

def sampleSecondRun : Run := { sampleRun with runId := "run_02" }

/-- Registered with a run already. -/
def sampleLinkedArtifact : ArtifactRecord :=
  { artifactId := "art_01", sha256 := String.ofList (List.replicate 64 '0'), sizeBytes := 1,
    contentType := "text/plain"
    filename := "one.txt", uri := "file:///one", registeredAt := sampleTime,
    runId := some "run_01", evidenceId := none }

def sampleLinked : Database :=
  { Database.empty with
    experiments := [sampleExperiment.toRow .reference none]
    runs := [sampleRun.toRow .reference none, sampleSecondRun.toRow .reference none]
    artifacts := [sampleLinkedArtifact.toRow .reference none none] }

theorem sampleLinked_reachable : Reachable .reference sampleLinked := by
  have hrun : sampleSecondRun.Valid := by decide +kernel
  have hartifact : sampleLinkedArtifact.Valid := by
    unfold ArtifactRecord.Valid
    decide +kernel
  exact .commit (w := .registerArtifact sampleLinkedArtifact none none)
    (.commit (w := .createRun sampleSecondRun none)
    (.commit (w := .createRun sampleRun none)
      (.commit (w := .createExperiment sampleExperiment none) (.refl _) sampleExperiment_valid rfl)
      sampleRun_valid rfl) hrun rfl) hartifact rfl

/-- A single call, on an artifact that was registered with another run: it agrees with itself, its
target exists, and it is refused. -/
theorem linked_artifact_is_not_relinked : ∃ row ∈ sampleLinked.artifacts, Reachable .reference sampleLinked ∧
    row.artifactId = "art_01" ∧ (⟨none, some "run_02"⟩ : AttachCall).TargetsExist sampleLinked ∧
    (∀ c ∈ [(⟨none, some "run_02"⟩ : AttachCall)], ∀ d ∈ [(⟨none, some "run_02"⟩ : AttachCall)],
      Agree c.slots d.slots) ∧
    ∃ m, (attachAll "art_01" sampleLinked [⟨none, some "run_02"⟩]).1 =
      [(⟨none, some "run_02"⟩, .error (immutability m))] := by
  have hagree : Agree (⟨none, some "run_02"⟩ : AttachCall).slots (⟨none, some "run_02"⟩ : AttachCall).slots := by
    intro f v w hv hw
    exact Option.some.inj (hv.symm.trans hw)
  refine ⟨_, List.mem_singleton_self _, sampleLinked_reachable, rfl,
    ⟨fun e he => (by cases he), fun r hr => ?_⟩, ?_,
    "artifact_id 'art_01' is already attached to run_id 'run_01'; cannot relink to 'run_02'", by decide +kernel⟩
  · obtain rfl := Option.some.inj hr
    exact ⟨_, List.mem_cons_of_mem _ (List.mem_singleton_self _), rfl⟩
  · intro c hc d hd
    rw [List.mem_singleton.1 hc, List.mem_singleton.1 hd]
    exact hagree

/-- The sample's run, named twice, and in either order with a call that names nothing. -/
theorem sample_attachment : (∀ c, AttachOutcome sampleLinked "art_01" c) ∧
    (attachAll "art_01" sampleLinked [⟨none, none⟩, ⟨none, some "run_01"⟩, ⟨none, some "run_01"⟩]).2 =
      sampleLinked.withLinks "art_01" fun f => ((sampleLinkedArtifact.toRow .reference none none).slots f).or
        (firstCommitted (attachAll "art_01" sampleLinked
          [⟨none, none⟩, ⟨none, some "run_01"⟩, ⟨none, some "run_01"⟩]).1 f) := by
  obtain ⟨hone, _, hall⟩ := attachment_is_write_once .reference sampleLinked_reachable "art_01"
  exact ⟨hone, hall _ (List.mem_singleton_self _) rfl _⟩

end Cer
