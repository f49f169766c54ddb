import Cer.Api.ArtifactDownloads

/-!
# `/ready`

`readiness` asks the two stores for their health and names the one that failed.  What it
says is true of the evidence and not only of the disk: a service that is ready serves every
artifact on record, and one whose volume was lost stays unready, through restarts and
registrations, until the volume is put back.
-/

namespace Cer.Api

open Py

structure ReadinessBody where
  status : String
  failedDependency : Option String
  detail : Option String
deriving DecidableEq

/-- The answer that names a dependency. -/
def notReady (dependency : String) (e : Exc) : Nat × ReadinessBody :=
  (503, ⟨"unavailable", some dependency, some e.str⟩)

/-- `health` of the artifact store; `probe` is what writing and reading back its file comes to. -/
def probedHealth (s : FsStore) (v : Volume) (initialised : Bool) (probe : Except Exc Unit) :
    Except Exc Unit × Bool :=
  match s.health v initialised with
  | (.error e, initialised) => (.error e, initialised)
  | (.ok _, initialised) => (probe, initialised)

/-- `readiness`, of what the metadata store's `health` returned or raised; the artifact store is asked second. -/
def readiness (s : FsStore) (metadata probe : Except Exc Unit) (v : Volume) (initialised : Bool) :
    (Nat × ReadinessBody) × Bool :=
  match metadata with
  | .error e => (notReady "metadata_store" e, initialised)
  | .ok _ => match probedHealth s v initialised probe with
    | (.error e, initialised) => (notReady "artifact_store" e, initialised)
    | (.ok _, initialised) => ((200, ⟨"ok", none, none⟩), initialised)

section readiness
variable {s : FsStore} {v : Volume} {i : Bool} {metadata probe : Except Exc Unit}

/-- Both stores are well. -/
theorem readiness_present (h : v.backingPresent = true) :
    readiness s (.ok ()) (.ok ()) v i = ((200, ⟨"ok", none, none⟩), true) := by
  have hhealth : s.health v i = (.ok (), true) := if_pos h
  unfold readiness probedHealth
  dsimp only
  rw [hhealth]

/-- The layout is missing. -/
theorem readiness_gone (h : v.backingPresent = false) : (readiness s metadata probe v i).1.1 = 503 ∧
    (metadata = .ok () → (readiness s metadata probe v i).1.2.failedDependency = some "artifact_store") := by
  obtain ⟨e, hhealth⟩ : ∃ e, s.health v i = (.error e, i) := by
    unfold FsStore.health
    rw [h]
    exact ⟨_, rfl⟩
  unfold readiness probedHealth
  rw [hhealth]
  cases metadata with
  | error e => exact ⟨rfl, fun h => by cases h⟩
  | ok _ => exact ⟨rfl, fun _ => rfl⟩

end readiness

section runs
variable {C : Type} {store : FsStore} {σ τ : PostState C} {i : Bool}

/-- A call of a process that knows its layout is missing leaves the volume alone. -/
theorem next_volume_gone {stores : Stores} (absent : stores.volume.backingPresent = false)
    (known : stores.initialised = true) (stage : PostStage) (draw : Draw) :
    (stage.next store draw stores).2.volume = stores.volume := by
  cases stage with
  | looking u p k =>
    obtain ⟨_, he, _⟩ := next_looking store draw stores u p k
    rw [he]
  | storing u =>
    obtain ⟨e, hput, _⟩ :=
      @put_gone store ⟨stores.volume, stores.initialised⟩ absent known u.args draw.uuid4 draw.now
    rw [next_storing_error hput]
  | registering u record =>
    cases hreg : registerArtifact store.env stores.db record (u.scope.map Prod.snd) (u.scope.map Prod.fst) with
    | error e => rw [next_registering_error hreg]
    | ok x => rw [next_registering_ok hreg]
  | answered result => rfl

/-- A process that starts over a lost volume makes none while there are rows. -/
theorem start_lost {env : Env} {db : Database} (hdb : WellFormed env db) (hrows : db.artifacts ≠ [])
    (absent : σ.volume.backingPresent = false) (now : DateTime) :
    (initialiseArtifactStoreIfSafe store (queryArtifacts db none none 1 0) σ.volume now).volume = σ.volume := by
  rw [start_absent absent, holds_of_query hdb]
  cases hdb' : db.artifacts with
  | nil => exact absurd hdb' hrows
  | cons row rows => rfl

variable [DecidableEq C]

/-- **A lost volume stays lost** under every event but the one that puts it back, once an artifact is on record. -/
theorem PostStep.stays_lost {e : PostEvent C} (hinv : PostInv store σ) (sane : Sane σ e) (kept : e ≠ .restore)
    (step : PostStep store σ e τ) (absent : σ.volume.backingPresent = false) (hrows : σ.db.artifacts ≠ []) :
    τ.volume = σ.volume ∧ τ.db.artifacts ≠ [] := by
  obtain ⟨row, hrow⟩ := List.exists_mem_of_ne_nil _ hrows
  constructor
  · cases step with
    | start failure now stopped =>
      cases failure with
      | some x => exact absurd (sane absent) hrows
      | none => exact start_lost hinv.reached.wellFormed hrows absent now
    | call c draw post stage i running pending unanswered fresh =>
      exact next_volume_gone absent (hinv.flag_of_rows running hrow) stage draw
    | lose present =>
      rw [absent] at present
      cases present
    | restore => exact absurd rfl kept
    | _ => rfl
  · obtain ⟨row', hrow', _⟩ := (step.later hinv).row hrow
    exact List.ne_nil_of_mem hrow'

theorem PostRun.stays_lost (run : PostRun store (fun υ e => Sane υ e ∧ e ≠ .restore) σ τ) (hinv : PostInv store σ)
    (absent : σ.volume.backingPresent = false) (hrows : σ.db.artifacts ≠ []) :
    PostInv store τ ∧ τ.volume = σ.volume ∧ τ.db.artifacts ≠ [] := by
  induction run with
  | refl => exact ⟨hinv, rfl, hrows⟩
  | step _ good step ih =>
    obtain ⟨hinv', hvolume, hrows'⟩ := ih
    have habsent' := absent
    rw [← hvolume] at habsent'
    obtain ⟨hvolume', hrows''⟩ := step.stays_lost hinv' good.1 good.2 habsent' hrows'
    exact ⟨hinv'.step good.1 step, hvolume'.trans hvolume, hrows''⟩

/-- **`/ready` is honest.**  A service that is ready serves every artifact on record with the bytes
it was registered with.  One that is not, though the metadata store is well and the disk can be
written, names the artifact store, fails every download as that store's failure, and is never ready
again before the volume is put back, whatever is started, registered or stopped meanwhile. -/
theorem readiness_is_honest (run : PostRun store Sane (.start C) σ) (running : σ.process = some i)
    (metadata probe : Except Exc Unit) :
    ((readiness store metadata probe σ.volume i).1.1 = 200 → ∀ row ∈ σ.db.artifacts, ∃ post ∈ σ.arrived,
      (row.artifactId, post) ∈ σ.created ∧
        downloadArtifact store σ.volume i row.artifactId = .ok (ArtifactRow.response row post.data)) ∧
    (metadata = .ok () → probe = .ok () → (readiness store metadata probe σ.volume i).1.1 ≠ 200 →
      (readiness store metadata probe σ.volume i).1.2.failedDependency = some "artifact_store" ∧
      (∀ row ∈ σ.db.artifacts, StoreFailure (downloadArtifact store σ.volume i row.artifactId)) ∧
      (σ.db.artifacts ≠ [] → ∀ τ j, PostRun store (fun υ e => Sane υ e ∧ e ≠ .restore) σ τ → τ.process = some j →
        ∀ later probe', (readiness store later probe' τ.volume j).1.1 = 503)) := by
  have hinv : PostInv store σ := run.inv .start fun _ _ _ => id
  constructor
  · intro hready row hrow
    have present : σ.volume.backingPresent = true := by
      by_contra absent
      rw [(readiness_gone (Bool.eq_false_iff.2 absent)).1] at hready
      cases hready
    obtain ⟨post, hpost, hcreated, _, hserved⟩ := hinv.served present hrow i
    exact ⟨post, hpost, hcreated, hserved⟩
  · rintro rfl rfl hunready
    have absent : σ.volume.backingPresent = false := by
      rw [Bool.eq_false_iff]
      intro present
      rw [readiness_present present] at hunready
      exact hunready rfl
    refine ⟨(readiness_gone absent).2 rfl, fun row hrow => hinv.unserved absent running hrow, ?_⟩
    intro hrows τ j later _ metadata' probe'
    obtain ⟨_, hvolume, _⟩ := later.stays_lost hinv absent hrows
    rw [hvolume]
    exact (readiness_gone absent).1

end runs

/-- The volume of the one artifact is lost under the process. -/
theorem lost_volume_is_not_ready : ∃ σ : PostState Bool, plainRow ∈ σ.db.artifacts ∧
    (readiness sampleStore (.ok ()) (.ok ()) σ.volume true).1.2.failedDependency = some "artifact_store" ∧
    StoreFailure (downloadArtifact sampleStore σ.volume true plainRow.artifactId) := by
  obtain ⟨σ, r, h⟩ : ∃ σ, PostRun sampleStore Sane (.start Bool) σ ∧ PlainRegistered σ :=
    sample_registration (fun _ => trivial) (fun _ _ => trivial) fun _ _ _ _ => trivial
  have hlost : PostRun sampleStore Sane (.start Bool) { σ with volume := .empty, lost := σ.volume } :=
    .step r (show Sane σ .lose from trivial) (.lose σ h.present)
  have hrow : plainRow ∈ σ.db.artifacts := by
    rw [h.db]
    exact List.mem_singleton_self _
  have hunready : (readiness sampleStore (.ok ()) (.ok ()) Volume.empty true).1.1 ≠ 200 := by
    rw [(readiness_gone rfl).1]
    decide
  obtain ⟨hname, hfails, _⟩ := (readiness_is_honest hlost h.process (.ok ()) (.ok ())).2 rfl rfl hunready
  exact ⟨{ σ with volume := .empty, lost := σ.volume }, hrow, hname, hfails plainRow hrow⟩

end Cer.Api
