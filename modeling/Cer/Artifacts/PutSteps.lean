import Cer.Artifacts.FsStore

/-!
# `put`, one file-system step at a time

Any number of `put` calls take their steps in any order, a call may fail at any of them,
and the process may crash between any two.  `CallStep` is one step of one call,
`FsInv` the invariant; a step of one call leaves the others what `Frame` says, so
`FsInv.advance` asks of each step only what it does to its own call and which files it
adds.
-/

namespace Cer

open AtomicFile

/-! ## Calls -/

/-- Where a call of `put` stands; each constructor names the step that is next. -/
inductive Stage
  | checking
  | requiring
  | makingRoot
  | makingBlobs
  | makingIndex
  | seekingMarker
  | marker (text : Bytes) (w : Writer)
  | waiting
  | looking
  | blob (w : Writer)
  | recording
  | sidecar (record : ArtifactRecord) (w : Writer)
  | returning (record : ArtifactRecord)

inductive Call
  | idle
  | running (a : PutArgs) (stage : Stage)
  | returned (a : PutArgs) (record : ArtifactRecord)
  | raised (a : PutArgs) (e : Exc)
  /-- A file operation failed: `ArtifactStoreError`. -/
  | failed (a : PutArgs)
  /-- The process crashed under it. -/
  | lost (a : PutArgs)

def Stage.temp? : Stage → Option Nat
  | .marker _ w => w.temp?
  | .blob w => w.temp?
  | .sidecar _ w => w.temp?
  | _ => none

/-- The identity the call has minted and not yet written. -/
def Stage.minted : Stage → Option String
  | .sidecar record _ => some record.artifactId
  | _ => none

def Call.temp? : Call → Option Nat
  | .running _ stage => stage.temp?
  | _ => none

def Call.minted : Call → Option String
  | .running _ stage => stage.minted
  | _ => none

def Call.args : Call → Option PutArgs
  | .idle => none
  | .running a _ | .returned a _ | .raised a _ | .failed a | .lost a => some a

/-- What a crash leaves of a call. -/
def Call.crashed : Call → Call
  | .running a _ => .lost a
  | c => c

structure FsState (C : Type) where
  volume : Volume
  initialised : Bool
  lock : Option C
  /-- The identities minted so far. -/
  used : List String
  calls : C → Call

section machine
variable {C : Type} [DecidableEq C]

def FsState.to (σ : FsState C) (c : C) (call : Call) : FsState C :=
  { σ with calls := Function.update σ.calls c call }

def FsState.withDisk (σ : FsState C) (d : Disk StorePath UInt8) : FsState C :=
  { σ with volume := { σ.volume with disk := d } }

/-- A fresh root, and no call. -/
def FsState.start (C : Type) : FsState C := ⟨.empty, false, none, [], fun _ => .idle⟩

/-- One step of the call `c`. -/
inductive CallStep (s : FsStore) (c : C) : FsState C → FsState C → Prop
  | refuse (σ : FsState C) (a : PutArgs) (e : Exc) (here : σ.calls c = .idle) (bad : s.checkPut a = .error e) :
    CallStep s c σ (σ.to c (.raised a e))
  | call (σ : FsState C) (a : PutArgs) (here : σ.calls c = .idle) (ok : s.checkPut a = .ok ()) :
    CallStep s c σ (σ.to c (.running a .checking))
  -- `_backing_present`, `_require_live_backing`, `initialise`
  | present (σ : FsState C) (a : PutArgs) (here : σ.calls c = .running a .checking)
    (there : σ.volume.backingPresent = true) :
    CallStep s c σ ({ σ with initialised := true }.to c (.running a .waiting))
  -- also the answer where a path cannot be looked at
  | absent (σ : FsState C) (a : PutArgs) (here : σ.calls c = .running a .checking) :
    CallStep s c σ (σ.to c (.running a .requiring))
  | vanished (σ : FsState C) (a : PutArgs) (here : σ.calls c = .running a .requiring)
    (gone : σ.volume.backingPresent = false) (was : σ.initialised = true) :
    CallStep s c σ (σ.to c (.raised a (s.backingGone "register a new artifact")))
  | unknown (σ : FsState C) (a : PutArgs) (here : σ.calls c = .running a .requiring)
    (live : σ.initialised = false ∨ σ.volume.backingPresent = true) :
    CallStep s c σ (σ.to c (.running a .makingRoot))
  | makeRoot (σ : FsState C) (a : PutArgs) (here : σ.calls c = .running a .makingRoot) :
    CallStep s c σ ({ σ with volume := { σ.volume with root := true } }.to c (.running a .makingBlobs))
  | makeBlobs (σ : FsState C) (a : PutArgs) (here : σ.calls c = .running a .makingBlobs) :
    CallStep s c σ ({ σ with volume := { σ.volume with blobsDir := true } }.to c (.running a .makingIndex))
  | makeIndex (σ : FsState C) (a : PutArgs) (here : σ.calls c = .running a .makingIndex) :
    CallStep s c σ ({ σ with volume := { σ.volume with indexDir := true } }.to c (.running a .seekingMarker))
  | markerThere (σ : FsState C) (a : PutArgs) (here : σ.calls c = .running a .seekingMarker)
    (there : (σ.volume.disk.file .marker).isSome = true) :
    CallStep s c σ ({ σ with initialised := true }.to c (.running a .waiting))
  | markerMissing (σ : FsState C) (a : PutArgs) (now : Py.DateTime) (here : σ.calls c = .running a .seekingMarker)
    (missing : (σ.volume.disk.file .marker).isSome = false) :
    CallStep s c σ (σ.to c (.running a (.marker (markerText now) .creating)))
  | markerStep (σ : FsState C) (a : PutArgs) (text : Bytes) (w w' : Writer) (d : Disk StorePath UInt8)
    (here : σ.calls c = .running a (.marker text w)) (write : Step text σ.volume.disk w d w') :
    CallStep s c σ ((σ.withDisk d).to c (.running a (.marker text w')))
  | markerReplace (σ : FsState C) (a : PutArgs) (text : Bytes) (t : Nat)
    (here : σ.calls c = .running a (.marker text (.synced t))) :
    CallStep s c σ ({ σ.withDisk (σ.volume.disk.replace t .marker) with initialised := true }.to c
      (.running a .waiting))
  -- `_store_blob`
  | lock (σ : FsState C) (a : PutArgs) (here : σ.calls c = .running a .waiting) (free : σ.lock = none) :
    CallStep s c σ ({ σ with lock := some c }.to c (.running a .looking))
  | same (σ : FsState C) (a : PutArgs) (here : σ.calls c = .running a .looking)
    (there : σ.volume.blob (s.computed a) = some a.data) :
    CallStep s c σ ({ σ with lock := none }.to c (.running a .recording))
  | collide (σ : FsState C) (a : PutArgs) (existing : Bytes) (here : σ.calls c = .running a .looking)
    (there : σ.volume.blob (s.computed a) = some existing) (differs : existing ≠ a.data) :
    CallStep s c σ ({ σ with lock := none }.to c (.raised a (digestCollision (s.computed a))))
  | missing (σ : FsState C) (a : PutArgs) (here : σ.calls c = .running a .looking)
    (missing : σ.volume.blob (s.computed a) = none) :
    CallStep s c σ (σ.to c (.running a (.blob .creating)))
  | blobStep (σ : FsState C) (a : PutArgs) (w w' : Writer) (d : Disk StorePath UInt8)
    (here : σ.calls c = .running a (.blob w)) (write : Step a.data σ.volume.disk w d w') :
    CallStep s c σ ((σ.withDisk d).to c (.running a (.blob w')))
  | blobReplace (σ : FsState C) (a : PutArgs) (t : Nat) (here : σ.calls c = .running a (.blob (.synced t))) :
    CallStep s c σ ({ σ.withDisk (σ.volume.disk.replace t (.blob (s.computed a))) with lock := none }.to c
      (.running a .recording))
  -- the record and its sidecar; the identity drawn is a new one
  | mint (σ : FsState C) (a : PutArgs) (u : UuidHex) (now : Py.DateTime) (here : σ.calls c = .running a .recording)
    (fresh : newArtifactId u ∉ σ.used) :
    CallStep s c σ ({ σ with used := newArtifactId u :: σ.used }.to c
      (.running a (.sidecar (s.newRecord a u now) .creating)))
  | sidecarStep (σ : FsState C) (a : PutArgs) (r : ArtifactRecord) (w w' : Writer) (d : Disk StorePath UInt8)
    (here : σ.calls c = .running a (.sidecar r w)) (write : Step (s.encode r) σ.volume.disk w d w') :
    CallStep s c σ ((σ.withDisk d).to c (.running a (.sidecar r w')))
  | sidecarReplace (σ : FsState C) (a : PutArgs) (r : ArtifactRecord) (t : Nat)
    (here : σ.calls c = .running a (.sidecar r (.synced t))) :
    CallStep s c σ ((σ.withDisk (σ.volume.disk.replace t (.sidecar r.artifactId))).to c
      (.running a (.returning r)))
  | return_ (σ : FsState C) (a : PutArgs) (r : ArtifactRecord) (here : σ.calls c = .running a (.returning r)) :
    CallStep s c σ (σ.to c (.returned a r))
  -- an `OSError`: the temporary file is unlinked, unless that fails too, and the lock is released
  | ioError (σ : FsState C) (a : PutArgs) (stage : Stage) (d : Disk StorePath UInt8)
    (here : σ.calls c = .running a stage)
    (cleanup : d = σ.volume.disk ∨ ∃ t, stage.temp? = some t ∧ d = σ.volume.disk.discard t) :
    CallStep s c σ ({ σ.withDisk d with lock := if σ.lock = some c then none else σ.lock }.to c (.failed a))

/-- A step of a call, or a crash and a new process, which looks at the layout it finds. -/
inductive FsStep (s : FsStore) : FsState C → FsState C → Prop
  | call {σ τ : FsState C} (c : C) (step : CallStep s c σ τ) : FsStep s σ τ
  | crash (σ : FsState C) : FsStep s σ
      { σ with initialised := σ.volume.backingPresent, lock := none, calls := fun c => (σ.calls c).crashed }

inductive FsRun (s : FsStore) : FsState C → FsState C → Prop
  | refl (σ : FsState C) : FsRun s σ σ
  | step {σ τ υ : FsState C} (run : FsRun s σ τ) (step : FsStep s τ υ) : FsRun s σ υ

theorem FsRun.trans {s : FsStore} {σ τ υ : FsState C} (run : FsRun s σ τ) (later : FsRun s τ υ) : FsRun s σ υ := by
  induction later with
  | refl => exact run
  | step _ step ih => exact .step ih step

end machine

/-! ## The invariant -/

section invariant
variable {C : Type}

/-- The record's sidecar and blob are in place, complete, and the put's. -/
structure Stored (s : FsStore) (v : Volume) (used : List String) (a : PutArgs) (r : ArtifactRecord) : Prop where
  valid : r.Valid
  sha256 : r.sha256 = s.env.sha256 a.data
  size : r.sizeBytes = a.data.length
  minted : ∃ u, r.artifactId = newArtifactId u
  used : r.artifactId ∈ used
  blob : v.blob r.sha256 = some a.data
  sidecar : v.sidecar r.artifactId = some (s.encode r)

def Volume.dirs (v : Volume) : Prop := v.root = true ∧ v.blobsDir = true ∧ v.indexDir = true

def StageInv (s : FsStore) (σ : FsState C) (c : C) (a : PutArgs) : Stage → Prop
  | .checking | .requiring | .makingRoot | .waiting => True
  | .makingBlobs => σ.volume.root = true
  | .makingIndex => σ.volume.root = true ∧ σ.volume.blobsDir = true
  | .seekingMarker => σ.volume.dirs
  | .marker text w => σ.volume.dirs ∧ Holds σ.volume.disk text w
  | .looking => σ.lock = some c
  | .blob w => σ.lock = some c ∧ σ.volume.blob (s.computed a) = none ∧ Holds σ.volume.disk a.data w
  | .recording => σ.volume.blob (s.computed a) = some a.data
  | .sidecar r w => r.Valid ∧ r.sha256 = s.computed a ∧ r.sizeBytes = a.data.length ∧
      (∃ u, r.artifactId = newArtifactId u) ∧ r.artifactId ∈ σ.used ∧ σ.volume.blob r.sha256 = some a.data ∧
      σ.volume.sidecar r.artifactId = none ∧ Holds σ.volume.disk (s.encode r) w
  | .returning r => Stored s σ.volume σ.used a r

def CallInv (s : FsStore) (σ : FsState C) (c : C) : Call → Prop
  | .running a stage => s.checkPut a = .ok () ∧ StageInv s σ c a stage
  | .returned a r => Stored s σ.volume σ.used a r
  | .idle | .raised _ _ | .failed _ | .lost _ => True

structure FsInv (s : FsStore) (σ : FsState C) : Prop where
  live : σ.initialised = true → σ.volume.backingPresent = true
  blob : ∀ sha x, σ.volume.blob sha = some x →
    s.env.sha256 x = sha ∧ ∃ c a, (σ.calls c).args = some a ∧ a.data = x
  sidecar : ∀ id x, σ.volume.sidecar id = some x →
    ∃ c a r, (σ.calls c).args = some a ∧ Stored s σ.volume σ.used a r ∧ r.artifactId = id
  call : ∀ c, CallInv s σ c (σ.calls c)
  temps : ∀ c c' t, c ≠ c' → (σ.calls c).temp? = some t → (σ.calls c').temp? ≠ some t
  minted : ∀ c c' id, c ≠ c' → (σ.calls c).minted = some id → (σ.calls c').minted ≠ some id

/-- What a step of the call `c` leaves to the others. -/
structure Frame (c : C) (σ σ' : FsState C) : Prop where
  calls : ∀ c', c' ≠ c → σ'.calls c' = σ.calls c'
  dirs : (σ.volume.root = true → σ'.volume.root = true) ∧ (σ.volume.blobsDir = true → σ'.volume.blobsDir = true) ∧
    (σ.volume.indexDir = true → σ'.volume.indexDir = true)
  blobs : ∀ sha x, σ.volume.blob sha = some x → σ'.volume.blob sha = some x
  newBlobs : (∀ sha, σ'.volume.blob sha = σ.volume.blob sha) ∨ σ.lock = some c
  sidecars : ∀ id x, σ.volume.sidecar id = some x → σ'.volume.sidecar id = some x
  newSidecars : ∀ id, σ'.volume.sidecar id = σ.volume.sidecar id ∨ (σ.calls c).minted = some id
  temps : ∀ t, t < σ.volume.disk.next → (σ.calls c).temp? ≠ some t → σ'.volume.disk.temp t = σ.volume.disk.temp t
  next : σ.volume.disk.next ≤ σ'.volume.disk.next
  used : ∀ id ∈ σ.used, id ∈ σ'.used
  lock : ∀ c', c' ≠ c → σ.lock = some c' → σ'.lock = some c'

/-- What a step of the call `c` comes to. -/
structure Advance (s : FsStore) (c : C) (σ σ' : FsState C) : Prop where
  inv : FsInv s σ'
  frame : Frame c σ σ'

theorem Stored.mono {s : FsStore} {v v' : Volume} {used used' : List String} {a : PutArgs} {r : ArtifactRecord}
    (h : Stored s v used a r) (hb : ∀ sha x, v.blob sha = some x → v'.blob sha = some x)
    (hs : ∀ id x, v.sidecar id = some x → v'.sidecar id = some x) (hu : ∀ id ∈ used, id ∈ used') :
    Stored s v' used' a r :=
  { h with used := hu _ h.used, blob := hb _ _ h.blob, sidecar := hs _ _ h.sidecar }

section frame
variable {s : FsStore} {σ σ' : FsState C} {c : C}

theorem Frame.dirs_mono (f : Frame c σ σ') (h : σ.volume.dirs) : σ'.volume.dirs :=
  ⟨f.dirs.1 h.1, f.dirs.2.1 h.2.1, f.dirs.2.2 h.2.2⟩

/-- The others keep their invariant. -/
theorem Frame.callInv (f : Frame c σ σ') (h : FsInv s σ) {c' : C} (hne : c' ≠ c) :
    CallInv s σ' c' (σ'.calls c') := by
  rw [f.calls c' hne]
  have hinv := h.call c'
  have hholds : ∀ {text : Bytes} {w : Writer}, (∀ t, w.temp? = some t → (σ.calls c').temp? = some t) →
      Holds σ.volume.disk text w → Holds σ'.volume.disk text w := by
    intro text w htemp hw
    refine hw.frame (fun t ht => ?_) f.next
    exact f.temps t (hw.lt_next ht) (h.temps c' c t hne (htemp t ht))
  cases hcall : σ.calls c' with
  | running a stage =>
    rw [hcall] at hinv
    obtain ⟨hok, hst⟩ := hinv
    refine ⟨hok, ?_⟩
    cases stage with
    | checking => trivial
    | requiring => trivial
    | makingRoot => trivial
    | waiting => trivial
    | makingBlobs => exact f.dirs.1 hst
    | makingIndex => exact ⟨f.dirs.1 hst.1, f.dirs.2.1 hst.2⟩
    | seekingMarker => exact f.dirs_mono hst
    | marker text w =>
      refine ⟨f.dirs_mono hst.1, hholds (fun t ht => ?_) hst.2⟩
      rw [hcall]
      exact ht
    | looking => exact f.lock c' hne hst
    | blob w =>
      obtain ⟨hl, hn, hw⟩ := hst
      refine ⟨f.lock c' hne hl, ?_, hholds (fun t ht => ?_) hw⟩
      · -- only the holder of the lock adds blobs
        rcases f.newBlobs with hsame | hlock
        · rw [hsame]
          exact hn
        · rw [hl] at hlock
          exact absurd (Option.some.inj hlock) hne
      · rw [hcall]
        exact ht
    | recording => exact f.blobs _ _ hst
    | sidecar r w =>
      obtain ⟨h1, h2, h3, h4, h5, h6, h7, hw⟩ := hst
      refine ⟨h1, h2, h3, h4, f.used _ h5, f.blobs _ _ h6, ?_, hholds (fun t ht => ?_) hw⟩
      · rcases f.newSidecars r.artifactId with hsame | hmint
        · rw [hsame]
          exact h7
        · refine absurd hmint (h.minted c' c r.artifactId hne ?_)
          rw [hcall]
          rfl
      · rw [hcall]
        exact ht
    | returning r => exact Stored.mono hst f.blobs f.sidecars f.used
  | returned a r =>
    rw [hcall] at hinv
    exact Stored.mono hinv f.blobs f.sidecars f.used
  | idle => trivial
  | raised a e => trivial
  | failed a => trivial
  | lost a => trivial

/-- The temporary file of a call is an old one. -/
theorem CallInv.temp_lt {call : Call} (h : CallInv s σ c call) {t : Nat} (ht : call.temp? = some t) :
    t < σ.volume.disk.next := by
  cases call with
  | running a stage =>
    cases stage with
    | marker text w => exact h.2.2.lt_next ht
    | blob w => exact h.2.2.2.lt_next ht
    | sidecar r w => exact h.2.2.2.2.2.2.2.2.lt_next ht
    | _ => cases ht
  | _ => cases ht

/-- The identity a call has minted is used up. -/
theorem CallInv.minted_used {call : Call} (h : CallInv s σ c call) {id : String} (hid : call.minted = some id) :
    id ∈ σ.used := by
  cases call with
  | running a stage =>
    cases stage with
    | sidecar r w =>
      rw [← Option.some.inj hid]
      exact h.2.2.2.2.2.1
    | _ => cases hid
  | _ => cases hid

/-- **A step keeps the invariant** when it frames the others, establishes its own call's part, and
says where its new files come from. -/
theorem FsInv.advance (h : FsInv s σ) (f : Frame c σ σ') (own : CallInv s σ' c (σ'.calls c))
    (live : σ'.initialised = true → σ'.volume.backingPresent = true)
    (args : ∀ a, (σ.calls c).args = some a → (σ'.calls c).args = some a)
    (blob : ∀ sha x, σ'.volume.blob sha = some x → σ.volume.blob sha = some x ∨
      s.env.sha256 x = sha ∧ ∃ a, (σ'.calls c).args = some a ∧ a.data = x)
    (sidecar : ∀ id x, σ'.volume.sidecar id = some x → σ.volume.sidecar id = some x ∨
      ∃ a r, (σ'.calls c).args = some a ∧ Stored s σ'.volume σ'.used a r ∧ r.artifactId = id)
    (temp : ∀ t, (σ'.calls c).temp? = some t → (σ.calls c).temp? = some t ∨ σ.volume.disk.next ≤ t)
    (minted : ∀ id, (σ'.calls c).minted = some id → (σ.calls c).minted = some id ∨ id ∉ σ.used) :
    Advance s c σ σ' := by
  have hargs : ∀ {c' a}, (σ.calls c').args = some a → (σ'.calls c').args = some a := by
    intro c' a ha
    by_cases hc : c' = c
    · rw [hc] at ha ⊢
      exact args a ha
    · rw [f.calls c' hc]
      exact ha
  refine ⟨⟨live, fun sha x hx => ?_, fun id x hx => ?_, fun c' => ?_, ?_, ?_⟩, f⟩
  · rcases blob sha x hx with hold | ⟨hsha, a, ha, hdata⟩
    · obtain ⟨hsha, c', a, ha, hdata⟩ := h.blob sha x hold
      exact ⟨hsha, c', a, hargs ha, hdata⟩
    · exact ⟨hsha, c, a, ha, hdata⟩
  · rcases sidecar id x hx with hold | ⟨a, r, ha, hst, hid⟩
    · obtain ⟨c', a, r, ha, hst, hid⟩ := h.sidecar id x hold
      exact ⟨c', a, r, hargs ha, hst.mono f.blobs f.sidecars f.used, hid⟩
    · exact ⟨c, a, r, ha, hst, hid⟩
  · by_cases hc : c' = c
    · rw [hc]
      exact own
    · exact f.callInv h hc
  · -- a new temporary file is newer than every other call's
    have hother : ∀ c' t, c' ≠ c → (σ'.calls c).temp? = some t → (σ.calls c').temp? ≠ some t := by
      intro c' t hc ht ht'
      rcases temp t ht with hold | hnew
      · exact h.temps c c' t (Ne.symm hc) hold ht'
      · exact absurd ((h.call c').temp_lt ht') (Nat.not_lt.2 hnew)
    intro c1 c2 t hne h1 h2
    by_cases hc1 : c1 = c
    · rw [hc1] at h1 hne
      rw [f.calls c2 (Ne.symm hne)] at h2
      exact hother c2 t (Ne.symm hne) h1 h2
    · rw [f.calls c1 hc1] at h1
      by_cases hc2 : c2 = c
      · rw [hc2] at h2
        exact hother c1 t hc1 h2 h1
      · rw [f.calls c2 hc2] at h2
        exact h.temps c1 c2 t hne h1 h2
  · have hother : ∀ c' id, c' ≠ c → (σ'.calls c).minted = some id → (σ.calls c').minted ≠ some id := by
      intro c' id hc hid hid'
      rcases minted id hid with hold | hnew
      · exact h.minted c c' id (Ne.symm hc) hold hid'
      · exact hnew ((h.call c').minted_used hid')
    intro c1 c2 id hne h1 h2
    by_cases hc1 : c1 = c
    · rw [hc1] at h1 hne
      rw [f.calls c2 (Ne.symm hne)] at h2
      exact hother c2 id (Ne.symm hne) h1 h2
    · rw [f.calls c1 hc1] at h1
      by_cases hc2 : c2 = c
      · rw [hc2] at h2
        exact hother c1 id hc1 h2 h1
      · rw [f.calls c2 hc2] at h2
        exact h.minted c1 c2 id hne h1 h2

end frame

end invariant

/-! ## Every step keeps it -/

section steps
variable {C : Type} [DecidableEq C] {s : FsStore} {σ : FsState C} {c : C}

/-- A step that leaves every file in place. -/
theorem FsInv.keepFiles (h : FsInv s σ) {v : Volume} {initialised : Bool} {lock : Option C} {used : List String}
    {call : Call} (own : CallInv s ⟨v, initialised, lock, used, Function.update σ.calls c call⟩ c call)
    (file : v.disk.file = σ.volume.disk.file)
    (temps : ∀ t, t < σ.volume.disk.next → (σ.calls c).temp? ≠ some t → v.disk.temp t = σ.volume.disk.temp t)
    (next : σ.volume.disk.next ≤ v.disk.next)
    (dirs : (σ.volume.root = true → v.root = true) ∧ (σ.volume.blobsDir = true → v.blobsDir = true) ∧
      (σ.volume.indexDir = true → v.indexDir = true))
    (live : initialised = true → v.backingPresent = true)
    (hlock : ∀ c', c' ≠ c → σ.lock = some c' → lock = some c') (hused : ∀ id ∈ σ.used, id ∈ used)
    (args : ∀ a, (σ.calls c).args = some a → call.args = some a)
    (temp : ∀ t, call.temp? = some t → (σ.calls c).temp? = some t ∨ σ.volume.disk.next ≤ t)
    (minted : ∀ id, call.minted = some id → (σ.calls c).minted = some id ∨ id ∉ σ.used) :
    Advance s c σ ⟨v, initialised, lock, used, Function.update σ.calls c call⟩ := by
  have hblob : ∀ sha, v.blob sha = σ.volume.blob sha := fun sha => congrFun file _
  have hside : ∀ id, v.sidecar id = σ.volume.sidecar id := fun id => congrFun file _
  have hself : Function.update σ.calls c call c = call := Function.update_self ..
  refine h.advance (c := c) ⟨fun c' hc => Function.update_of_ne hc _ _, dirs, fun sha x hx => (hblob sha).trans hx,
    Or.inl hblob, fun id x hx => (hside id).trans hx, fun id => Or.inl (hside id), temps, next, hused, hlock⟩
    ?_ live ?_ (fun sha x hx => Or.inl ((hblob sha).symm.trans hx))
      (fun id x hx => Or.inl ((hside id).symm.trans hx))
    ?_ ?_
  · dsimp only
    rw [hself]
    exact own
  · dsimp only
    rw [hself]
    exact args
  · dsimp only
    rw [hself]
    exact temp
  · dsimp only
    rw [hself]
    exact minted

/-- A step that leaves the disk alone. -/
theorem FsInv.keepDisk (h : FsInv s σ) {initialised : Bool} {lock : Option C} {used : List String} {call : Call}
    (own : CallInv s ⟨σ.volume, initialised, lock, used, Function.update σ.calls c call⟩ c call)
    (live : initialised = true → σ.volume.backingPresent = true)
    (hlock : ∀ c', c' ≠ c → σ.lock = some c' → lock = some c') (hused : ∀ id ∈ σ.used, id ∈ used)
    (args : ∀ a, (σ.calls c).args = some a → call.args = some a) (temp : call.temp? = none)
    (minted : ∀ id, call.minted = some id → (σ.calls c).minted = some id ∨ id ∉ σ.used) :
    Advance s c σ ⟨σ.volume, initialised, lock, used, Function.update σ.calls c call⟩ :=
  h.keepFiles own rfl (fun _ _ _ => rfl) (Nat.le_refl _) ⟨id, id, id⟩ live hlock hused args
    (fun t ht => by rw [temp] at ht; cases ht) minted

/-- A step of one of the call's writes. -/
theorem FsInv.writeStep (h : FsInv s σ) {text : Bytes} {w w' : Writer} {d : Disk StorePath UInt8} {call : Call}
    (write : Step text σ.volume.disk w d w') (htemp : (σ.calls c).temp? = w.temp?) (htemp' : call.temp? = w'.temp?)
    (own : CallInv s ((σ.withDisk d).to c call) c call) (args : (σ.calls c).args = call.args)
    (minted : (σ.calls c).minted = call.minted) : Advance s c σ ((σ.withDisk d).to c call) := by
  refine h.keepFiles own write.file (fun t ht hne => write.temp_other ht ?_) write.next ⟨id, id, id⟩ (fun hi => ?_)
    (fun _ _ hl => hl) (fun _ hu => hu) (fun a ha => args ▸ ha) (fun t ht => ?_) fun id hid =>
      Or.inl (minted.trans hid)
  · rw [← htemp]
    exact hne
  · have hlive := h.live hi
    unfold Volume.backingPresent at hlive ⊢
    dsimp only [FsState.withDisk]
    rw [write.file]
    exact hlive
  · rw [htemp'] at ht
    rw [htemp]
    exact write.temp? ht

theorem dirs_present {v : Volume} (h : v.dirs) (hm : (v.disk.file .marker).isSome = true) :
    v.backingPresent = true := by
  obtain ⟨h1, h2, h3⟩ := h
  unfold Volume.backingPresent
  rw [h1, h2, h3, hm]
  rfl

theorem present_mono {v v' : Volume} (h : v.backingPresent = true)
    (dirs : (v.root = true → v'.root = true) ∧ (v.blobsDir = true → v'.blobsDir = true) ∧
      (v.indexDir = true → v'.indexDir = true))
    (marker : (v.disk.file .marker).isSome = true → (v'.disk.file .marker).isSome = true) :
    v'.backingPresent = true := by
  unfold Volume.backingPresent at h
  simp only [Bool.and_eq_true] at h
  obtain ⟨⟨⟨h1, h2⟩, h3⟩, h4⟩ := h
  exact dirs_present ⟨dirs.1 h1, dirs.2.1 h2, dirs.2.2 h3⟩ (marker h4)

/-- The end of a write: its text stands at the path, every other file is where it was. -/
theorem FsInv.replace_temps (d : Disk StorePath UInt8) {t : Nat} (p : StorePath) {temp? : Option Nat}
    (htemp : temp? = some t) : ∀ u, u < d.next → temp? ≠ some u → (d.replace t p).temp u = d.temp u := by
  intro u _ hne
  refine d.replace_temp_of_ne p fun he => hne ?_
  rw [htemp, he]

/-- The end of a write moves the call's temporary file to a path: the marker's, a blob's that was
free, or the sidecar's of the identity the call has minted. -/
theorem FsInv.replaceStep (h : FsInv s σ) {path : StorePath} {t : Nat} {a : PutArgs} {stage stage' : Stage}
    {initialised : Bool} {lock : Option C} (here : σ.calls c = .running a stage) (temp : stage.temp? = some t)
    (noTemp : (Call.running a stage').temp? = none) (noMinted : (Call.running a stage').minted = none)
    (own : CallInv s ⟨{ σ.volume with disk := σ.volume.disk.replace t path }, initialised, lock, σ.used,
      Function.update σ.calls c (.running a stage')⟩ c (.running a stage'))
    (live : initialised = true →
      Volume.backingPresent { σ.volume with disk := σ.volume.disk.replace t path } = true)
    (hlock : ∀ c', c' ≠ c → σ.lock = some c' → lock = some c')
    (blob : ∀ sha, path = .blob sha → σ.volume.blob sha = none ∧ σ.lock = some c ∧
      ∀ x, (σ.volume.disk.replace t path).file path = some x → s.env.sha256 x = sha ∧ a.data = x)
    (sidecar : ∀ id, path = .sidecar id → σ.volume.sidecar id = none ∧ (σ.calls c).minted = some id ∧
      ∃ r, Stored s { σ.volume with disk := σ.volume.disk.replace t path } σ.used a r ∧ r.artifactId = id) :
    Advance s c σ ⟨{ σ.volume with disk := σ.volume.disk.replace t path }, initialised, lock, σ.used,
      Function.update σ.calls c (.running a stage')⟩ := by
  have hfile : ∀ q, q ≠ path → (σ.volume.disk.replace t path).file q = σ.volume.disk.file q :=
    fun q hq => σ.volume.disk.replace_file_of_ne t hq
  have hself : Function.update σ.calls c (.running a stage') c = .running a stage' := Function.update_self ..
  have htemps := FsInv.replace_temps σ.volume.disk path ((congrArg Call.temp? here).trans temp)
  have hblobs : ∀ sha x, σ.volume.disk.file (.blob sha) = some x →
      (σ.volume.disk.replace t path).file (.blob sha) = some x := by
    intro sha x hx
    by_cases hp : StorePath.blob sha = path
    · have hnone : σ.volume.disk.file (.blob sha) = none := (blob sha hp.symm).1
      rw [hnone] at hx
      cases hx
    · exact (hfile _ hp).trans hx
  have hnew : (∀ sha, (σ.volume.disk.replace t path).file (.blob sha) = σ.volume.disk.file (.blob sha)) ∨
      σ.lock = some c := by
    cases path with
    | blob sha => exact Or.inr (blob sha rfl).2.1
    | marker | sidecar id => exact Or.inl fun sha => hfile _ fun he => by cases he
  have hsidecars : ∀ id x, σ.volume.disk.file (.sidecar id) = some x →
      (σ.volume.disk.replace t path).file (.sidecar id) = some x := by
    intro id x hx
    by_cases hp : StorePath.sidecar id = path
    · have hnone : σ.volume.disk.file (.sidecar id) = none := (sidecar id hp.symm).1
      rw [hnone] at hx
      cases hx
    · exact (hfile _ hp).trans hx
  have hminted : ∀ id, (σ.volume.disk.replace t path).file (.sidecar id) = σ.volume.disk.file (.sidecar id) ∨
      (σ.calls c).minted = some id := by
    intro id
    by_cases hp : StorePath.sidecar id = path
    · exact Or.inr (sidecar id hp.symm).2.1
    · exact Or.inl (hfile _ hp)
  refine h.advance (c := c) ⟨fun c' hc => Function.update_of_ne hc _ _, ⟨id, id, id⟩,
    hblobs, hnew, hsidecars, hminted,
    htemps, Nat.le_refl _, fun _ => id, hlock⟩ ?_ live (fun b hb => ?_) (fun sha x hx => ?_) (fun id x hx => ?_)
    (fun u hu => ?_) fun id hid => ?_
  · dsimp only
    rw [hself]
    exact own
  · dsimp only
    rw [hself]
    rw [here] at hb
    exact hb
  · by_cases hp : StorePath.blob sha = path
    · subst hp
      obtain ⟨hsha, hdata⟩ := (blob sha rfl).2.2 x hx
      refine Or.inr ⟨hsha, a, ?_, hdata⟩
      dsimp only
      rw [hself]
      rfl
    · exact Or.inl ((hfile _ hp).symm.trans hx)
  · by_cases hp : StorePath.sidecar id = path
    · obtain ⟨_, _, r, hst, hid⟩ := sidecar id hp.symm
      refine Or.inr ⟨a, r, ?_, hst, hid⟩
      dsimp only
      rw [hself]
      rfl
    · exact Or.inl ((hfile _ hp).symm.trans hx)
  · dsimp only at hu
    rw [hself, noTemp] at hu
    cases hu
  · dsimp only at hid
    rw [hself, noMinted] at hid
    cases hid

theorem FsInv.callStep (h : FsInv s σ) {σ' : FsState C} (hs : CallStep s c σ σ') : Advance s c σ σ' := by
  have hinv := h.call c
  -- what a call that stays in flight keeps
  have hargs : ∀ {a : PutArgs} {stage stage' : Stage}, σ.calls c = .running a stage →
      ∀ b, (σ.calls c).args = some b → (Call.running a stage').args = some b := by
    intro a stage stage' here b hb
    rw [here] at hb
    exact hb
  have hheld : ∀ {lock : Option C}, σ.lock = some c → ∀ c', c' ≠ c → σ.lock = some c' → lock = some c' := by
    intro lock hl c' hne hl'
    rw [hl] at hl'
    exact absurd (Option.some.inj hl').symm hne
  cases hs with
  | refuse a e here bad =>
    refine h.keepDisk trivial h.live (fun _ _ => id) (fun _ => id) (fun b hb => ?_) rfl fun id hid => by cases hid
    rw [here] at hb
    cases hb
  | call a here ok =>
    refine h.keepDisk ⟨ok, trivial⟩ h.live (fun _ _ => id) (fun _ => id)
      (fun b hb => ?_) rfl fun id hid => by cases hid
    rw [here] at hb
    cases hb
  | present a here there =>
    rw [here] at hinv
    exact h.keepDisk ⟨hinv.1, trivial⟩ (fun _ => there) (fun _ _ => id) (fun _ => id) (hargs here) rfl
      fun id hid => by cases hid
  | vanished a here gone was =>
    refine h.keepDisk trivial h.live (fun _ _ => id) (fun _ => id) (fun b hb => ?_) rfl fun id hid => by cases hid
    rw [here] at hb
    exact hb
  | absent a here =>
    rw [here] at hinv
    exact h.keepDisk ⟨hinv.1, trivial⟩ h.live (fun _ _ => id) (fun _ => id)
      (hargs here) rfl fun id hid => by cases hid
  | unknown a here live =>
    rw [here] at hinv
    exact h.keepDisk ⟨hinv.1, trivial⟩ h.live (fun _ _ => id) (fun _ => id)
      (hargs here) rfl fun id hid => by cases hid
  | makeRoot a here =>
    rw [here] at hinv
    exact h.keepFiles ⟨hinv.1, rfl⟩ rfl (fun _ _ _ => rfl) (Nat.le_refl _) ⟨fun _ => rfl, id, id⟩
      (fun hi => present_mono (h.live hi) ⟨fun _ => rfl, id, id⟩ id) (fun _ _ => id) (fun _ => id) (hargs here)
      (fun t ht => by cases ht) fun id hid => by cases hid
  | makeBlobs a here =>
    rw [here] at hinv
    exact h.keepFiles ⟨hinv.1, hinv.2, rfl⟩ rfl (fun _ _ _ => rfl) (Nat.le_refl _) ⟨id, fun _ => rfl, id⟩
      (fun hi => present_mono (h.live hi) ⟨id, fun _ => rfl, id⟩ id) (fun _ _ => id) (fun _ => id) (hargs here)
      (fun t ht => by cases ht) fun id hid => by cases hid
  | makeIndex a here =>
    rw [here] at hinv
    exact h.keepFiles ⟨hinv.1, hinv.2.1, hinv.2.2, rfl⟩ rfl (fun _ _ _ => rfl) (Nat.le_refl _)
      ⟨id, id, fun _ => rfl⟩
      (fun hi => present_mono (h.live hi) ⟨id, id, fun _ => rfl⟩ id) (fun _ _ => id) (fun _ => id) (hargs here)
      (fun t ht => by cases ht) fun id hid => by cases hid
  | markerThere a here there =>
    rw [here] at hinv
    exact h.keepDisk ⟨hinv.1, trivial⟩ (fun _ => dirs_present hinv.2 there) (fun _ _ => id)
      (fun _ => id) (hargs here)
      rfl fun id hid => by cases hid
  | markerMissing a now here missing =>
    rw [here] at hinv
    exact h.keepDisk ⟨hinv.1, hinv.2, trivial⟩ h.live (fun _ _ => id) (fun _ => id) (hargs here) rfl
      fun id hid => by cases hid
  | markerStep a text w w' d here write =>
    rw [here] at hinv
    exact h.writeStep write (by rw [here]; rfl) rfl ⟨hinv.1, hinv.2.1, write.holds hinv.2.2⟩ (by rw [here]; rfl)
      (by rw [here]; rfl)
  | markerReplace a text t here =>
    rw [here] at hinv
    obtain ⟨hok, hdirs, hholds⟩ := hinv
    have hmarker := hholds.replace StorePath.marker
    refine h.replaceStep here rfl rfl rfl ⟨hok, trivial⟩ (fun _ => dirs_present hdirs ?_) (fun _ _ => id)
      (fun sha he => by cases he) fun id he => by cases he
    dsimp only
    rw [hmarker]
    rfl
  | lock a here free =>
    rw [here] at hinv
    exact h.keepDisk ⟨hinv.1, rfl⟩ h.live (fun c' _ hl => by rw [free] at hl; cases hl)
      (fun _ => id) (hargs here) rfl
      fun id hid => by cases hid
  | same a here there =>
    rw [here] at hinv
    exact h.keepDisk ⟨hinv.1, there⟩ h.live (hheld hinv.2) (fun _ => id) (hargs here) rfl fun id hid =>
      by cases hid
  | collide a existing here there differs =>
    rw [here] at hinv
    refine h.keepDisk trivial h.live (hheld hinv.2) (fun _ => id) (fun b hb => ?_) rfl fun id hid => by cases hid
    rw [here] at hb
    exact hb
  | missing a here missing =>
    rw [here] at hinv
    exact h.keepDisk ⟨hinv.1, hinv.2, missing, trivial⟩ h.live (fun _ _ => id) (fun _ => id) (hargs here) rfl
      fun id hid => by cases hid
  | blobStep a w w' d here write =>
    rw [here] at hinv
    obtain ⟨hok, hlock, hnone, hholds⟩ := hinv
    have hnone' : d.file (.blob (s.computed a)) = none := by
      rw [write.file]
      exact hnone
    exact h.writeStep write (by rw [here]; rfl) rfl ⟨hok, hlock, hnone', write.holds hholds⟩ (by rw [here]; rfl)
      (by rw [here]; rfl)
  | blobReplace a t here =>
    rw [here] at hinv
    obtain ⟨hok, hlock, hnone, hholds⟩ := hinv
    have hnew := hholds.replace (StorePath.blob (s.computed a))
    have hmarker : (σ.volume.disk.replace t (.blob (s.computed a))).file .marker = σ.volume.disk.file .marker :=
      σ.volume.disk.replace_file_of_ne t (by simp)
    refine h.replaceStep here rfl rfl rfl ⟨hok, hnew⟩
      (fun hi => present_mono (h.live hi) ⟨id, id, id⟩ fun hm => ?_)
      (hheld hlock) (fun sha he => ?_) fun id he => by cases he
    · dsimp only
      rw [hmarker]
      exact hm
    · -- the path was free, so no blob is overwritten
      obtain rfl := StorePath.blob.inj he
      refine ⟨hnone, hlock, fun x hx => ?_⟩
      obtain rfl := Option.some.inj (hnew.symm.trans hx)
      exact ⟨rfl, rfl⟩
  | mint a u now here fresh =>
    rw [here] at hinv
    obtain ⟨hok, hblob⟩ := hinv
    have hnone : σ.volume.sidecar (newArtifactId u) = none := by
      cases hx : σ.volume.sidecar (newArtifactId u) with
      | none => rfl
      | some x =>
        obtain ⟨_, _, r, _, hst, hid⟩ := h.sidecar _ x hx
        exact absurd (hid ▸ hst.used) fresh
    refine h.keepDisk ⟨hok, s.newRecord_valid hok u now, rfl, rfl, ⟨u, rfl⟩, List.mem_cons_self ..,
      hblob, hnone, trivial⟩
      h.live (fun _ _ => id) (fun _ hu => List.mem_cons_of_mem _ hu) (hargs here) rfl fun id hid => Or.inr ?_
    rw [← Option.some.inj hid]
    exact fresh
  | sidecarStep a r w w' d here write =>
    rw [here] at hinv
    obtain ⟨hok, h1, h2, h3, h4, h5, h6, h7, hholds⟩ := hinv
    have h6' : d.file (.blob r.sha256) = some a.data := by
      rw [write.file]
      exact h6
    have h7' : d.file (.sidecar r.artifactId) = none := by
      rw [write.file]
      exact h7
    exact h.writeStep write (by rw [here]; rfl) rfl ⟨hok, h1, h2, h3, h4, h5, h6', h7', write.holds hholds⟩
      (by rw [here]; rfl) (by rw [here]; rfl)
  | sidecarReplace a r t here =>
    rw [here] at hinv
    obtain ⟨hok, h1, h2, h3, h4, h5, h6, h7, hholds⟩ := hinv
    have hnew := hholds.replace (StorePath.sidecar r.artifactId)
    have hfile : ∀ p, p ≠ StorePath.sidecar r.artifactId →
        (σ.volume.disk.replace t (.sidecar r.artifactId)).file p = σ.volume.disk.file p :=
      fun p hp => σ.volume.disk.replace_file_of_ne t hp
    have hstored : Stored s { σ.volume with disk := σ.volume.disk.replace t (.sidecar r.artifactId) } σ.used a r :=
      ⟨h1, h2, h3, h4, h5, (hfile _ (by simp)).trans h6, hnew⟩
    refine h.replaceStep here rfl rfl rfl ⟨hok, hstored⟩
      (fun hi => present_mono (h.live hi) ⟨id, id, id⟩ fun hm => ?_) (fun _ _ => id)
      (fun sha he => by cases he) fun id he => ?_
    · dsimp only
      rw [hfile _ (by simp)]
      exact hm
    · obtain rfl := StorePath.sidecar.inj he
      exact ⟨h7, by rw [here]; rfl, r, hstored, rfl⟩
  | return_ a r here =>
    rw [here] at hinv
    refine h.keepDisk hinv.2 h.live (fun _ _ => id) (fun _ => id) (fun b hb => ?_) rfl fun id hid => by cases hid
    rw [here] at hb
    exact hb
  | ioError a stage d here cleanup =>
    have hd : d.file = σ.volume.disk.file ∧ d.next = σ.volume.disk.next ∧
        ∀ t, (σ.calls c).temp? ≠ some t → d.temp t = σ.volume.disk.temp t := by
      rcases cleanup with rfl | ⟨t, ht, rfl⟩
      · exact ⟨rfl, rfl, fun _ _ => rfl⟩
      · refine ⟨rfl, rfl, fun u hu => Function.update_of_ne (fun he => hu ?_) _ _⟩
        rw [here, he]
        exact ht
    refine h.keepFiles trivial hd.1 (fun t _ hne => hd.2.2 t hne) (Nat.le_of_eq hd.2.1.symm) ⟨id, id, id⟩
      (fun hi => present_mono (h.live hi) ⟨id, id, id⟩ fun hm => ?_) (fun c' hne hl => ?_) (fun _ => id)
      (fun b hb => ?_) (fun t ht => by cases ht) fun id hid => by cases hid
    · dsimp only [FsState.withDisk]
      rw [hd.1]
      exact hm
    · rw [if_neg, hl]
      rw [hl]
      exact fun he => hne (Option.some.inj he)
    · rw [here] at hb
      exact hb

omit [DecidableEq C] in
/-- A crash keeps every file; each call in flight is lost. -/
theorem FsInv.crash (h : FsInv s σ) : FsInv s
    { σ with initialised := σ.volume.backingPresent, lock := none, calls := fun c => (σ.calls c).crashed } := by
  have hargs : ∀ c, (σ.calls c).crashed.args = (σ.calls c).args := fun c => by cases σ.calls c <;> rfl
  have htemp : ∀ c, (σ.calls c).crashed.temp? = none := fun c => by cases σ.calls c <;> rfl
  have hminted : ∀ c, (σ.calls c).crashed.minted = none := fun c => by cases σ.calls c <;> rfl
  refine ⟨fun hi => hi, fun sha x hx => ?_, fun id x hx => ?_, fun c => ?_, fun c c' t _ ht => ?_,
    fun c c' id _ hid => ?_⟩
  · obtain ⟨hsha, c, a, ha, hdata⟩ := h.blob sha x hx
    exact ⟨hsha, c, a, (hargs c).trans ha, hdata⟩
  · obtain ⟨c, a, r, ha, hst, hid⟩ := h.sidecar id x hx
    exact ⟨c, a, r, (hargs c).trans ha, hst, hid⟩
  · have hc := h.call c
    dsimp only
    cases hcall : σ.calls c with
    | returned a r =>
      rw [hcall] at hc
      exact hc
    | _ => trivial
  · dsimp only at ht
    rw [htemp] at ht
    cases ht
  · dsimp only at hid
    rw [hminted] at hid
    cases hid

theorem FsStep.inv {σ' : FsState C} (hs : FsStep s σ σ') (h : FsInv s σ) : FsInv s σ' := by
  cases hs with
  | call c step => exact (h.callStep step).inv
  | crash => exact h.crash

omit [DecidableEq C] in
theorem FsInv.start : FsInv s (.start C) := by
  refine ⟨fun hi => ?_, fun sha x hx => ?_, fun id x hx => ?_, fun c => trivial,
    fun c c' t _ ht => ?_, fun c c' id _ hid => ?_⟩
  · cases hi
  · cases hx
  · cases hx
  · cases ht
  · cases hid

theorem FsRun.inv {σ' : FsState C} (run : FsRun s σ σ') (h : FsInv s σ) : FsInv s σ' := by
  induction run with
  | refl => exact h
  | step _ hs ih => exact hs.inv ih

end steps

end Cer
