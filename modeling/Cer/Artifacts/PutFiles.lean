import Cer.Artifacts.Integrity
import Cer.Artifacts.Presence

/-!
# What one put leaves on the volume

However a put ends, at most the layout, the blob of its bytes and one sidecar are new.
-/

namespace Cer

open Py

section put
variable {s : FsStore} {v w : Volume} {a : PutArgs} {i j : Bool} {x : UuidHex} {now : DateTime}

/-- A layout holds what was there. -/
theorem initialise_files (v : Volume) (now : DateTime) : (initialise v now).backingPresent = true ∧
    (∀ sha, (initialise v now).blob sha = v.blob sha) ∧ ∀ id, (initialise v now).sidecar id = v.sidecar id := by
  unfold initialise Volume.backingPresent Volume.blob Volume.sidecar
  by_cases hm : (v.disk.file .marker).isSome = true
  · simp [hm]
  · simp only [if_neg hm]
    refine ⟨?_, fun _ => AtomicFile.Disk.write_file_of_ne _ _ (by simp),
      fun _ => AtomicFile.Disk.write_file_of_ne _ _ (by simp)⟩
    rw [AtomicFile.Disk.write_file_self]
    rfl

theorem backing_files (h : s.backing v i now = .ok w) : w.backingPresent = true ∧
    (∀ sha, w.blob sha = v.blob sha) ∧
    ∀ id, w.sidecar id = v.sidecar id := by
  unfold FsStore.backing at h
  by_cases hp : v.backingPresent = true
  · rw [if_pos hp] at h
    cases h
    exact ⟨hp, fun _ => rfl, fun _ => rfl⟩
  · rw [if_neg hp] at h
    obtain ⟨_, _, rfl⟩ := map_eq_ok h
    exact initialise_files v now

theorem storeBlob_files (h : s.storeBlob v a = .ok w) : w.blob (s.computed a) = some a.data ∧
    (∀ sha y, v.blob sha = some y → w.blob sha = some y) ∧
    (∀ sha y, w.blob sha = some y → v.blob sha = some y ∨ sha = s.computed a ∧ y = a.data) ∧
    (∀ id, w.sidecar id = v.sidecar id) ∧ w.backingPresent = v.backingPresent := by
  have hpresent := storeBlob_present h
  unfold FsStore.storeBlob at h
  split at h
  · next existing he =>
    split at h
    · next hd =>
      cases h
      rw [he, hd]
      exact ⟨rfl, fun _ _ => id, fun _ _ => Or.inl, fun _ => rfl, rfl⟩
    · cases h
  · next hn =>
    cases h
    refine ⟨AtomicFile.Disk.write_file_self _ _ _, fun sha y hy => ?_, fun sha y hy => ?_, fun id =>
      AtomicFile.Disk.write_file_of_ne _ _ (by simp), hpresent⟩
    · by_cases hsha : sha = s.computed a
      · rw [hsha, hn] at hy
        cases hy
      · exact (AtomicFile.Disk.write_file_of_ne _ _ fun hb => hsha (StorePath.blob.inj hb)).trans hy
    · by_cases hsha : sha = s.computed a
      · rw [hsha] at hy
        exact Or.inr ⟨hsha, (Option.some.inj ((AtomicFile.Disk.write_file_self _ _ _).symm.trans hy)).symm⟩
      · exact Or.inl ((AtomicFile.Disk.write_file_of_ne _ _ fun hb => hsha (StorePath.blob.inj hb)).symm.trans hy)

/-- A put that answers leaves its record stored and everything else as it was. -/
structure PutLeaves (s : FsStore) (v w : Volume) (used : List String) (a : PutArgs)
    (r : ArtifactRecord) : Prop where
  stored : Stored s w used a r
  present : w.backingPresent = true
  grows : v.Grows w
  blob : ∀ sha y, w.blob sha = some y → v.blob sha = some y ∨ sha = s.env.sha256 a.data ∧ y = a.data
  sidecar : ∀ id y, w.sidecar id = some y → v.sidecar id = some y ∨ id = r.artifactId

theorem put_leaves {r : ArtifactRecord} {used : List String} (h : s.put v i a x now = (.ok r, w, j))
    (fresh : v.sidecar (newArtifactId x) = none) (minted : newArtifactId x ∈ used) : PutLeaves s v w used a r := by
  obtain ⟨hc, rfl, _, v₁, v₂, hb, hs, rfl⟩ := FsStore.put_ok h
  obtain ⟨hpresent, hblobs, hsidecars⟩ := backing_files hb
  obtain ⟨hblob, hkeep, honly, hside, hpresent'⟩ := storeBlob_files hs
  have hwblob : ∀ sha,
    ({ v₂ with disk := v₂.disk.write (.sidecar (newArtifactId x)) (s.encode (s.newRecord a x now)) } :
      Volume).blob sha = v₂.blob sha := fun sha => AtomicFile.Disk.write_file_of_ne _ _ (by simp)
  refine ⟨⟨FsStore.newRecord_valid hc x now, rfl, rfl, ⟨x, rfl⟩, minted, ?_,
    AtomicFile.Disk.write_file_self _ _ _⟩,
    ?_, ⟨fun sha y hy => ?_, fun id y hy => ?_⟩, fun sha y hy => ?_, fun id y hy => ?_⟩
  · rw [hwblob]
    exact hblob
  · have hv₂ := hpresent'.trans hpresent
    unfold Volume.backingPresent at hv₂ ⊢
    rw [AtomicFile.Disk.write_file_of_ne _ _ (by simp)]
    exact hv₂
  · rw [hwblob]
    exact hkeep sha y (by rw [hblobs]; exact hy)
  · by_cases hid : id = newArtifactId x
    · rw [hid, fresh] at hy
      cases hy
    · refine (AtomicFile.Disk.write_file_of_ne _ _ fun hb => hid (StorePath.sidecar.inj hb)).trans ?_
      exact (hside id).trans ((hsidecars id).trans hy)
  · rw [hwblob] at hy
    rw [← hblobs]
    exact honly sha y hy
  · by_cases hid : id = newArtifactId x
    · exact Or.inr hid
    · left
      have hy' : v₂.sidecar id = some y :=
        (AtomicFile.Disk.write_file_of_ne _ _ fun hb => hid (StorePath.sidecar.inj hb)).symm.trans hy
      rw [hside, hsidecars] at hy'
      exact hy'

/-- A put that raises leaves the blobs and the sidecars, and the layout where it was. -/
theorem put_raises {e : Exc} (h : s.put v i a x now = (.error e, w, j)) : (∀ sha, w.blob sha = v.blob sha) ∧
    (∀ id, w.sidecar id = v.sidecar id) ∧ (w = v ∧ j = i ∨ w.backingPresent = true ∧ j = true) := by
  rcases (FsStore.put_error h).2 with ⟨rfl, rfl⟩ | ⟨hb, hj⟩
  · exact ⟨fun _ => rfl, fun _ => rfl, Or.inl ⟨rfl, rfl⟩⟩
  · obtain ⟨hpresent, hblobs, hsidecars⟩ := backing_files hb
    exact ⟨hblobs, hsidecars, Or.inr ⟨hpresent, hj⟩⟩

/-- Layout is made only for a store that never saw one. -/
theorem backing_from (h : s.backing v i now = .ok w) : v.backingPresent = true ∨ i = false := by
  by_cases hp : v.backingPresent = true
  · exact Or.inl hp
  · right
    unfold FsStore.backing FsStore.requireLiveBacking at h
    rw [if_neg hp] at h
    cases i with
    | false => rfl
    | true =>
      rw [Bool.eq_false_iff.2 hp] at h
      cases h

/-- A put, however it ends: at most the layout, its own blob and its own sidecar are new. -/
structure PutKeeps (s : FsStore) (v w : Volume) (i j : Bool) (a : PutArgs) (x : UuidHex) : Prop where
  layout : w = v ∧ j = i ∨ w.backingPresent = true ∧ j = true ∧ (v.backingPresent = true ∨ i = false)
  grows : v.Grows w
  blob : ∀ sha y, w.blob sha = some y → v.blob sha = some y ∨ sha = s.env.sha256 a.data ∧ y = a.data
  sidecar : ∀ id y, w.sidecar id = some y → v.sidecar id = some y ∨ id = newArtifactId x

theorem put_keeps {res : Except Exc ArtifactRecord} (h : s.put v i a x now = (res, w, j))
    (fresh : v.sidecar (newArtifactId x) = none) : PutKeeps s v w i j a x := by
  cases res with
  | ok r =>
    obtain ⟨_, hr, hj, v₁, _, hb, _⟩ := FsStore.put_ok h
    obtain ⟨_, hpresent, hgrows, hblob, hside⟩ := put_leaves h fresh (List.mem_singleton_self _)
    refine ⟨Or.inr ⟨hpresent, hj, backing_from hb⟩, hgrows, hblob, fun id y hy => ?_⟩
    rw [hr] at hside
    exact hside id y hy
  | error e =>
    obtain ⟨hblobs, hsidecars, _⟩ := put_raises h
    refine ⟨?_, ⟨fun sha y hy => (hblobs sha).trans hy, fun id y hy => (hsidecars id).trans hy⟩,
      fun sha y hy => Or.inl ((hblobs sha).symm.trans hy), fun id y hy => Or.inl ((hsidecars id).symm.trans hy)⟩
    rcases (FsStore.put_error h).2 with hsame | ⟨hb, hj⟩
    · exact Or.inl hsame
    · exact Or.inr ⟨backing_present hb, hj, backing_from hb⟩

/-- A checked put goes through where its layout is there or may be made, unless other bytes have its digest. -/
theorem put_new (hc : s.checkPut a = .ok ()) (hb : v.backingPresent = true ∨ i = false)
    (hblob : ∀ y, v.blob (s.computed a) = some y → y = a.data) (x : UuidHex) (now : DateTime) :
    ∃ w, s.put v i a x now = (.ok (s.newRecord a x now), w, true) := by
  obtain ⟨v₁, hv₁⟩ : ∃ v₁, s.backing v i now = .ok v₁ := by
    cases h : s.backing v i now with
    | ok v₁ => exact ⟨v₁, rfl⟩
    | error e =>
      obtain ⟨hp, hi, _⟩ := FsStore.backing_error h
      rcases hb with hb | hb
      · rw [hp] at hb
        cases hb
      · rw [hi] at hb
        cases hb
  obtain ⟨v₂, hv₂⟩ : ∃ v₂, s.storeBlob v₁ a = .ok v₂ := by
    unfold FsStore.storeBlob
    rw [(backing_files hv₁).2.1]
    cases hx : v.blob (s.computed a) with
    | none => exact ⟨_, rfl⟩
    | some y => exact ⟨v₁, if_pos (hblob y hx)⟩
  rw [FsStore.put_checked hc, hv₁]
  dsimp only
  rw [hv₂]
  exact ⟨_, rfl⟩

end put

/-- An identity without a sidecar is not registered, as far as a layout that is there can tell. -/
theorem stat_unknown {s : FsStore} {v : Volume} (hp : v.backingPresent = true) (i : Bool) {x : UuidHex}
    (missing : v.sidecar (newArtifactId x) = none) :
    ∃ m, s.stat v i (newArtifactId x) = .error (ErrorClass.notFound.exc m) := by
  obtain ⟨hname, hopens⟩ := sidecarName_new x
  unfold FsStore.stat FsStore.requireLiveBacking
  rw [hname, ok_bind, hopens, missing, hp, Bool.not_true, Bool.and_false]
  exact ⟨_, rfl⟩

end Cer
