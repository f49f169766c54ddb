import Cer.Artifacts.Presence
import Cer.Metadata.Queries

/-!
# Starting the artifact store

The volume alone cannot tell a first deployment from a volume that was lost, so the
entrypoint asks the metadata store whether artifacts were ever registered.  The question
has three answers, the third being that nobody knows.
-/

namespace Cer

/-- `_metadata_holds_artifact_records`, of what `query_artifacts(limit=1)` returned or raised. -/
def metadataHoldsArtifactRecords : Except Exc (List ArtifactRecord) → Option Bool
  | .ok records => some !records.isEmpty
  | .error _ => none

/-- The store is constructed, and then `_initialise_artifact_store_if_safe`. -/
def initialiseArtifactStoreIfSafe (s : FsStore) (query : Except Exc (List ArtifactRecord)) (v : Volume)
    (now : Py.DateTime) : FsObject :=
  let o := FsObject.new v
  match s.health o.volume o.initialised with
  | (.ok _, initialised) => { o with initialised := initialised }
  | (.error _, initialised) => match metadataHoldsArtifactRecords query with
    | some false => ⟨initialise v now, true⟩
    | some true => (o.call s .markPreviouslyInitialised).2
    | none => { o with initialised := initialised }

theorem start_present {s : FsStore} {v : Volume} (h : v.backingPresent = true)
    (query : Except Exc (List ArtifactRecord)) (now : Py.DateTime) :
    initialiseArtifactStoreIfSafe s query v now = ⟨v, true⟩ := by
  unfold initialiseArtifactStoreIfSafe FsStore.health FsObject.new
  dsimp only
  rw [h]
  rfl

theorem start_absent {s : FsStore} {v : Volume} (h : v.backingPresent = false)
    (query : Except Exc (List ArtifactRecord)) (now : Py.DateTime) :
    initialiseArtifactStoreIfSafe s query v now = match metadataHoldsArtifactRecords query with
      | some false => ⟨initialise v now, true⟩
      | some true => ⟨v, true⟩
      | none => ⟨v, false⟩ := by
  unfold initialiseArtifactStoreIfSafe FsStore.health FsObject.new
  dsimp only
  rw [h]
  rfl

/-- The query of one record tells whether there is any. -/
theorem holds_of_query {env : Env} {db : Database} (h : WellFormed env db) :
    metadataHoldsArtifactRecords (queryArtifacts db none none 1 0) = some !db.artifacts.isEmpty := by
  obtain ⟨listing, hhistory, hpages⟩ := h.queryArtifacts_pages none none
  have hpage := hpages.page 1 0 (by omega) (by omega) (by omega) (by omega)
  rw [hpage]
  show some (!((listing.drop 0).take 1).isEmpty) = some (!db.artifacts.isEmpty)
  cases hrows : db.artifacts with
  | nil =>
    cases hl : listing with
    | nil => rfl
    | cons x rest =>
      have hx := (hhistory.mem x).1 (by rw [hl]; exact List.mem_cons_self)
      obtain ⟨⟨r, hr, _⟩, _⟩ := hx
      rw [hrows] at hr
      cases hr
  | cons row rows =>
    have hmem : row ∈ db.artifacts := by rw [hrows]; exact List.mem_cons_self
    obtain ⟨a, _, _, _, _, hread⟩ := (h.artifacts.origin row hmem).read
    have hlisted : a ∈ listing :=
      (hhistory.mem a).2 ⟨⟨row, hmem, hread⟩, fun v hv => (by cases hv), fun v hv => (by cases hv)⟩
    cases hl : listing with
    | nil =>
      rw [hl] at hlisted
      cases hlisted
    | cons x rest => rfl

end Cer
