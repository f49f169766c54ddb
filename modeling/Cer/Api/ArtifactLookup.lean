import Cer.Api.Failures
import Cer.Artifacts.Integrity
import Cer.Metadata.Queries

/-!
# Artifacts that nobody registered

`GET /v1/artifacts/{id}` asks the metadata store and `/download` the artifact store, which
makes a file name of the identity.  For an identity that was never issued the two agree
exactly where the file name is refused as hostile or can be opened.
-/

namespace Cer.Api

/-! ## The endpoints -/

/-- `get_artifact_metadata`. -/
def getArtifactMetadata (db : Database) (artifactId : String) : Except Exc ArtifactRecord :=
  getArtifact db artifactId

/-- A response of raw bytes. -/
structure RawResponse where
  content : Bytes
  mediaType : String
  contentDisposition : String

/-- `download_artifact`. -/
def downloadArtifact (s : FsStore) (v : Volume) (initialised : Bool) (artifactId : String) :
    Except Exc RawResponse := do
  let record ← s.stat v initialised artifactId
  let data ← s.get v initialised artifactId
  return ⟨data, record.contentType, "attachment; filename=\"" ++ record.filename ++ "\""⟩

/-! ## Names -/

/-- With `.json` after it, a name that can be opened. -/
def Opens (artifactId : String) : Prop := Char.ofNat 0 ∉ artifactId.toList ∧ utf8Length artifactId ≤ 250

theorem utf8Length_append (x y : String) : utf8Length (x ++ y) = utf8Length x + utf8Length y := by
  unfold utf8Length
  rw [String.toList_append, List.map_append, List.sum_append]

theorem refusedName_eq_none (artifactId : String) : refusedName (artifactId ++ ".json") = none ↔
    Opens artifactId := by
  have hsuffix : utf8Length ".json" = 5 := by decide
  have hnull : Char.ofNat 0 ∈ (artifactId ++ ".json").toList ↔ Char.ofNat 0 ∈ artifactId.toList := by
    rw [String.toList_append, List.mem_append]
    exact or_iff_left (by decide)
  unfold refusedName Opens
  rw [utf8Length_append, hsuffix]
  by_cases hn : Char.ofNat 0 ∈ artifactId.toList
  · rw [if_pos (List.contains_iff_mem.2 (hnull.2 hn))]
    exact iff_of_false (fun h => by cases h) fun h => h.1 hn
  · rw [if_neg fun h => hn (hnull.1 (List.contains_iff_mem.1 h))]
    by_cases hl : 255 < utf8Length artifactId + 5
    · rw [if_pos hl]
      exact iff_of_false (fun h => by cases h) fun h => absurd h.2 (by omega)
    · rw [if_neg hl]
      exact ⟨fun _ => ⟨hn, by omega⟩, fun _ => rfl⟩

/-! ## Unknown identities -/

/-- The identity is unknown on every path. -/
structure Unknown (s : FsStore) (v : Volume) (initialised : Bool) (db : Database)
    (artifactId : String) : Prop where
  stat : ∃ m, s.stat v initialised artifactId = .error (notFound m)
  get : ∃ m, s.get v initialised artifactId = .error (notFound m)
  not_exists : FsStore.exists v artifactId = false
  /-- The name that is looked up is one component: it stays under `index/`. -/
  inside : ∀ name, sidecarName artifactId = .ok name → '/' ∉ name.toList ∧ name ≠ "." ∧ name ≠ ".."
  metadata : ∃ m, getArtifact db artifactId = .error (notFound m)
  get404 : ∃ e, getArtifactMetadata db artifactId = .error e ∧ statusFor e = 404
  download404 : ∃ e, downloadArtifact s v initialised artifactId = .error e ∧ statusFor e = 404

section lookup
variable {s : FsStore} {v : Volume} {initialised : Bool} {db : Database} {artifactId : String}

theorem getArtifact_missing (h : ∀ r ∈ db.artifacts, r.artifactId ≠ artifactId) :
    ∃ m, getArtifact db artifactId = .error (notFound m) := by
  have hnone : db.artifacts.find? (·.artifactId == artifactId) = none :=
    List.find?_eq_none.2 fun r hr => by simpa using h r hr
  unfold getArtifact
  rw [hnone]
  exact ⟨_, rfl⟩

/-- Without a sidecar, a store that is there answers by the name alone. -/
theorem stat_missing (present : v.backingPresent = true) (missing : v.sidecar artifactId = none) :
    (∃ m, s.stat v initialised artifactId = .error (notFound m)) ↔ Hostile artifactId ∨ Opens artifactId := by
  by_cases hh : Hostile artifactId
  · obtain ⟨m, hm⟩ := sidecarName_hostile hh
    refine iff_of_true ⟨m, ?_⟩ (Or.inl hh)
    unfold FsStore.stat
    rw [hm]
    rfl
  · have hname := sidecarName_safe hh
    have hlive : ∀ refusingTo, s.requireLiveBacking v initialised refusingTo = .ok () := by
      intro refusingTo
      unfold FsStore.requireLiveBacking
      rw [present]
      simp
    unfold FsStore.stat
    rw [hname, ok_bind]
    cases hr : refusedName (artifactId ++ ".json") with
    | none =>
      dsimp only
      rw [missing]
      dsimp only
      rw [hlive]
      exact iff_of_true ⟨_, rfl⟩ (Or.inr ((refusedName_eq_none artifactId).1 hr))
    | some why =>
      have hnot : ¬ Opens artifactId := by
        intro ho
        rw [(refusedName_eq_none artifactId).2 ho] at hr
        cases hr
      refine iff_of_false ?_ (not_or.2 ⟨hh, hnot⟩)
      rintro ⟨m, hm⟩
      cases why <;> cases hm

theorem exists_missing (missing : v.sidecar artifactId = none) : FsStore.exists v artifactId = false := by
  unfold FsStore.exists
  cases sidecarName artifactId with
  | error e => rfl
  | ok name =>
    dsimp only
    rw [missing]
    exact Bool.and_false _

theorem sidecarName_inside {name : String} (h : sidecarName artifactId = .ok name) :
    '/' ∉ name.toList ∧ name ≠ "." ∧ name ≠ ".." := by
  by_cases hh : Hostile artifactId
  · obtain ⟨m, hm⟩ := sidecarName_hostile hh
    rw [hm] at h
    cases h
  · rw [sidecarName_safe hh] at h
    obtain rfl := Except.ok.inj h
    have hlong : 5 ≤ (artifactId ++ ".json").length := by
      rw [String.length_append]
      exact Nat.le_add_left 5 _
    refine ⟨fun hslash => ?_, fun he => ?_, fun he => ?_⟩
    · rw [String.toList_append] at hslash
      rcases List.mem_append.1 hslash with hslash | hslash
      · exact hh (Or.inr (Or.inl hslash))
      · revert hslash
        decide
    · rw [he] at hlong
      revert hlong
      decide
    · rw [he] at hlong
      revert hlong
      decide

/-- An identity with no row and no sidecar is unknown on every path just where its name is hostile
or can be opened. -/
theorem unknown_iff (present : v.backingPresent = true) (missing : v.sidecar artifactId = none)
    (unregistered : ∀ r ∈ db.artifacts, r.artifactId ≠ artifactId) :
    Unknown s v initialised db artifactId ↔ Hostile artifactId ∨ Opens artifactId := by
  have hstat : (∃ m, s.stat v initialised artifactId = .error (notFound m)) ↔ Hostile artifactId ∨
    Opens artifactId :=
    stat_missing present missing
  rw [← hstat]
  constructor
  · exact Unknown.stat
  · intro hstat
    obtain ⟨m, hm⟩ := hstat
    obtain ⟨m', hm'⟩ := getArtifact_missing unregistered
    refine ⟨⟨m, hm⟩, ⟨m, ?_⟩, exists_missing missing, fun name => sidecarName_inside,
      ⟨m', hm'⟩, ⟨_, hm', rfl⟩, ⟨notFound m, ?_, rfl⟩⟩
    · unfold FsStore.get
      rw [hm]
      rfl
    · unfold downloadArtifact
      rw [hm]
      rfl

end lookup

/-- **An identity that no put has minted and no row names is unknown on every path** just where its
name is hostile or can be opened. -/
theorem unknown_ids_are_not_found_iff {C : Type} [DecidableEq C] (s : FsStore) {σ : FsState C} (db : Database)
    {artifactId : String} (reached : FsRun s (.start C) σ) (present : σ.volume.backingPresent = true)
    (unissued : artifactId ∉ σ.used) (unregistered : ∀ r ∈ db.artifacts, r.artifactId ≠ artifactId) :
    Unknown s σ.volume σ.initialised db artifactId ↔ Hostile artifactId ∨ Opens artifactId := by
  have hinv : FsInv s σ := reached.inv .start
  have missing : σ.volume.sidecar artifactId = none := by
    cases hside : σ.volume.sidecar artifactId with
    | none => rfl
    | some x =>
      obtain ⟨_, _, r, _, hstored, hid⟩ := hinv.sidecar artifactId x hside
      exact absurd (hid ▸ hstored.used) unissued
  exact unknown_iff present missing unregistered

/-- A NUL: `ValueError`, and a 500. -/
def nullId : String := String.ofList [Char.ofNat 0]

/-- 251 letters: the file system refuses the name, and the answer is a 503. -/
def longId : String := String.ofList (List.replicate 251 'a')

/-- A store with its layout there, and no call that ran to its end. -/
theorem sample_layout : ∃ σ : FsState Bool, FsRun collidingStore (.start Bool) σ ∧ σ.volume.backingPresent = true ∧
    σ.used = [] ∧ ∀ id, σ.volume.sidecar id = none := by
  let now : Py.DateTime := ⟨2026, 9, 4, 12, 0, 0, 0, by decide⟩
  have hput : collidingStore.checkPut firstPut = .ok () := by decide
  have here : FsRun collidingStore (.start Bool)
      ((FsState.start Bool).at false .empty false none [] (.running firstPut .checking)) :=
    .step (.refl _) (.call false (.call _ firstPut rfl hput))
  have hbacking : collidingStore.backing .empty false now = .ok (initialise .empty now) := rfl
  obtain ⟨w, hw, reached⟩ := here.backing hbacking
  refine ⟨_, reached, ?_, rfl, fun id => ?_⟩
  · show w.backingPresent = true
    unfold Volume.backingPresent
    rw [hw.root, hw.blobsDir, hw.indexDir, hw.file]
    rfl
  · show w.disk.file (.sidecar id) = none
    rw [hw.file]
    rfl

/-- An identity that was never issued leaves the store as a `ValueError`, another as an `ArtifactStoreError`. -/
theorem odd_ids_are_not_not_found : ∃ σ : FsState Bool, FsRun collidingStore (.start Bool) σ ∧
    σ.volume.backingPresent = true ∧ nullId ∉ σ.used ∧ longId ∉ σ.used ∧
    (∃ e, downloadArtifact collidingStore σ.volume σ.initialised nullId = .error e ∧
      e.isCer = false ∧ statusFor e = 500) ∧
    (∃ e, downloadArtifact collidingStore σ.volume σ.initialised longId = .error e ∧
      e.isA .artifactStoreError = true ∧ statusFor e = 503) ∧
    ¬ Unknown collidingStore σ.volume σ.initialised .empty nullId ∧
    ¬ Unknown collidingStore σ.volume σ.initialised .empty longId := by
  obtain ⟨σ, reached, present, hused, hnone⟩ := sample_layout
  have hnull : ¬ (Hostile nullId ∨ Opens nullId) := by
    unfold Hostile Opens
    decide +kernel
  have hlong : ¬ (Hostile longId ∨ Opens longId) := by
    unfold Hostile Opens
    decide +kernel
  have hempty : ∀ (id : String), ∀ r ∈ Database.empty.artifacts, r.artifactId ≠ id := by
    intro id r hr
    cases hr
  have hname : sidecarName nullId = .ok (nullId ++ ".json") := sidecarName_safe fun h => hnull (Or.inl h)
  have hname' : sidecarName longId = .ok (longId ++ ".json") := sidecarName_safe fun h => hlong (Or.inl h)
  have hrefused : refusedName (nullId ++ ".json") = some .embeddedNull := by decide +kernel
  have hrefused' : refusedName (longId ++ ".json") = some .tooLong := by decide +kernel
  refine ⟨σ, reached, present, by rw [hused]; exact List.not_mem_nil, by rw [hused]; exact List.not_mem_nil,
    ⟨.valueError "embedded null byte", ?_, rfl, rfl⟩,
    ⟨artifactStoreError (s!"failed to read artifact index for {Py.repr longId}: " ++
      nameTooLong (collidingStore.rootPath ++ "/index/" ++ (longId ++ ".json"))), ?_, rfl, rfl⟩,
    fun h => hnull ((unknown_iff present (hnone _) (hempty _)).1 h),
    fun h => hlong ((unknown_iff present (hnone _) (hempty _)).1 h)⟩
  · unfold downloadArtifact FsStore.stat
    rw [hname, ok_bind, hrefused]
    rfl
  · unfold downloadArtifact FsStore.stat
    rw [hname', ok_bind, hrefused']
    rfl

/-- An identity that reads like a path is unknown, and so is one of the right shape. -/
theorem sample_unknown_ids : ∃ σ : FsState Bool, FsRun collidingStore (.start Bool) σ ∧
    Unknown collidingStore σ.volume σ.initialised .empty "../store" ∧
    Unknown collidingStore σ.volume σ.initialised .empty "art_0" := by
  obtain ⟨σ, reached, present, hused, _⟩ := sample_layout
  have hempty : ∀ (id : String), ∀ r ∈ Database.empty.artifacts, r.artifactId ≠ id := by
    intro id r hr
    cases hr
  have hnew : ∀ id : String, id ∉ σ.used := by
    intro id
    rw [hused]
    exact List.not_mem_nil
  refine ⟨σ, reached, ?_, ?_⟩
  · exact (unknown_ids_are_not_found_iff collidingStore .empty reached present (hnew _) (hempty _)).2
      (Or.inl (by unfold Hostile; decide))
  · exact (unknown_ids_are_not_found_iff collidingStore .empty reached present (hnew _) (hempty _)).2
      (Or.inr (by unfold Opens; decide +kernel))

end Cer.Api
