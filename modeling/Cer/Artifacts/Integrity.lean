import Cer.Artifacts.PutSteps
import Cer.Artifacts.Sidecar

/-!
# What the artifact store keeps, whatever the order of steps and crashes

A run never changes a blob or a sidecar (`FsRun.grows`) and never forgets a call that
returned (`FsRun.returned`), so what a returned put stored is read back at any later
time.  A put whose digest other bytes hold is refused (`FsRun.refused`).  The results are
put together in `artifact_store_integrity`.
-/

namespace Cer

open AtomicFile

/-! ## What a run keeps -/

section runs
variable {C : Type} [DecidableEq C] {s : FsStore} {σ σ' : FsState C}

/-- Every blob and sidecar stays what it is. -/
structure Volume.Grows (v v' : Volume) : Prop where
  blobs : ∀ sha x, v.blob sha = some x → v'.blob sha = some x
  sidecars : ∀ id x, v.sidecar id = some x → v'.sidecar id = some x

theorem Volume.Grows.refl (v : Volume) : v.Grows v := ⟨fun _ _ => id, fun _ _ => id⟩

theorem FsStep.grows (hs : FsStep s σ σ') (h : FsInv s σ) : σ.volume.Grows σ'.volume := by
  cases hs with
  | call c step => exact ⟨(h.callStep step).frame.blobs, (h.callStep step).frame.sidecars⟩
  | crash => exact .refl _

theorem FsRun.grows (run : FsRun s σ σ') (h : FsInv s σ) : σ.volume.Grows σ'.volume := by
  induction run with
  | refl => exact .refl _
  | step run hs ih =>
    have hg := hs.grows (run.inv h)
    exact ⟨fun sha x hx => hg.blobs sha x (ih.blobs sha x hx),
      fun id x hx => hg.sidecars id x (ih.sidecars id x hx)⟩

/-- Only a call that is idle or running takes steps. -/
theorem CallStep.active {c : C} (hs : CallStep s c σ σ') :
    σ.calls c = .idle ∨ ∃ a stage, σ.calls c = .running a stage := by
  cases hs with
  | refuse a e here bad => exact Or.inl here
  | call a here ok => exact Or.inl here
  | _ a => exact Or.inr ⟨a, _, by assumption⟩

theorem FsStep.returned (hs : FsStep s σ σ') (h : FsInv s σ) {c : C} {a : PutArgs} {r : ArtifactRecord}
    (hret : σ.calls c = .returned a r) : σ'.calls c = .returned a r := by
  cases hs with
  | call c' step =>
    by_cases hc : c = c'
    · subst hc
      rcases step.active with hi | ⟨b, stage, hb⟩
      · rw [hret] at hi
        cases hi
      · rw [hret] at hb
        cases hb
    · rw [(h.callStep step).frame.calls c hc]
      exact hret
  | crash =>
    dsimp only
    rw [hret]
    rfl

theorem FsRun.returned (run : FsRun s σ σ') (h : FsInv s σ) {c : C} {a : PutArgs} {r : ArtifactRecord}
    (hret : σ.calls c = .returned a r) : σ'.calls c = .returned a r := by
  induction run with
  | refl => exact hret
  | step run hs ih => exact hs.returned (run.inv h) ih

/-- Stages in which the call has not stored its bytes. -/
def Stage.beforeBlob : Stage → Prop
  | .checking | .requiring | .makingRoot | .makingBlobs | .makingIndex | .seekingMarker | .marker _ _ | .waiting
  | .looking => True
  | .blob _ | .recording | .sidecar _ _ | .returning _ => False

/-- What becomes of a put whose digest other bytes hold. -/
def Refused (s : FsStore) (a : PutArgs) : Call → Prop
  | .running b stage => b = a ∧ stage.beforeBlob
  | .raised b e => b = a ∧ e = digestCollision (s.computed a)
  | .failed b | .lost b => b = a
  | .idle | .returned _ _ => False

theorem Refused.minted {a : PutArgs} {call : Call} (h : Refused s a call) : call.minted = none := by
  cases call with
  | running b stage =>
    cases stage with
    | sidecar r w => exact absurd h.2 id
    | _ => rfl
  | _ => rfl

omit [DecidableEq C] in
/-- A running call whose digest other bytes hold has not stored its own. -/
theorem FsInv.refused (h : FsInv s σ) {c : C} {a : PutArgs} {stage : Stage} {x : Bytes}
    (here : σ.calls c = .running a stage) (there : σ.volume.blob (s.computed a) = some x) (differs : x ≠ a.data) :
    Refused s a (σ.calls c) := by
  have hc := h.call c
  rw [here] at hc ⊢
  refine ⟨rfl, ?_⟩
  have hnot : σ.volume.blob (s.computed a) ≠ some a.data := by
    rw [there]
    exact fun he => differs (Option.some.inj he)
  cases stage with
  | blob w =>
    have hnone : σ.volume.blob (s.computed a) = none := hc.2.2.1
    rw [there] at hnone
    cases hnone
  | recording => exact absurd hc.2 hnot
  | sidecar r w =>
    obtain ⟨_, _, hsha, _, _, _, hb, _⟩ := hc
    rw [hsha] at hb
    exact absurd hb hnot
  | returning r =>
    have hb := hc.2.blob
    rw [hc.2.sha256] at hb
    exact absurd hb hnot
  | _ => trivial

theorem CallStep.refused {c : C} {a : PutArgs} {x : Bytes} (hs : CallStep s c σ σ') (h : FsInv s σ)
    (there : σ.volume.blob (s.computed a) = some x) (differs : x ≠ a.data) (hr : Refused s a (σ.calls c)) :
    Refused s a (σ'.calls c) := by
  have hself : ∀ (τ : FsState C) (call : Call), (τ.to c call).calls c = call :=
    fun τ call => Function.update_self ..
  cases hs with
  | refuse b e here bad | call b here ok =>
    rw [here] at hr
    exact absurd hr id
  | vanished b here gone was =>
    rw [h.live was] at gone
    cases gone
  | collide b existing here _ _ =>
    rw [here] at hr
    rw [hself]
    exact ⟨hr.1, by rw [hr.1]⟩
  | same b here match_ =>
    rw [here] at hr
    obtain ⟨rfl, _⟩ := hr
    rw [there] at match_
    exact absurd (Option.some.inj match_) differs
  | missing b here missing =>
    rw [here] at hr
    obtain ⟨rfl, _⟩ := hr
    rw [there] at missing
    cases missing
  | ioError b stage d here cleanup =>
    rw [here] at hr
    rw [hself]
    exact hr.1
  | blobStep b w w' d here write | blobReplace b t here | mint b u now here fresh
  | sidecarStep b r w w' d here write
  | sidecarReplace b r t here | return_ b r here =>
    rw [here] at hr
    exact absurd hr.2 id
  | present b here there | absent b here | unknown b here live | makeRoot b here
  | makeBlobs b here | makeIndex b here
  | markerThere b here there | markerMissing b now here missing | markerStep b text w w' d here write
  | markerReplace b text t here | lock b here free =>
    rw [here] at hr
    rw [hself]
    exact ⟨hr.1, trivial⟩

theorem FsStep.refused (hs : FsStep s σ σ') (h : FsInv s σ) {c : C} {a : PutArgs} {x : Bytes}
    (there : σ.volume.blob (s.computed a) = some x) (differs : x ≠ a.data) (hr : Refused s a (σ.calls c)) :
    Refused s a (σ'.calls c) := by
  cases hs with
  | call c' step =>
    by_cases hc : c = c'
    · subst hc
      exact step.refused h there differs hr
    · rw [(h.callStep step).frame.calls c hc]
      exact hr
  | crash =>
    dsimp only
    cases hcall : σ.calls c with
    | running b stage =>
      rw [hcall] at hr
      exact hr.1
    | _ =>
      rw [hcall] at hr
      exact hr

theorem FsRun.refused (run : FsRun s σ σ') (h : FsInv s σ) {c : C} {a : PutArgs} {x : Bytes}
    (there : σ.volume.blob (s.computed a) = some x) (differs : x ≠ a.data) (hr : Refused s a (σ.calls c)) :
    Refused s a (σ'.calls c) := by
  induction run with
  | refl => exact hr
  | step run hs ih => exact hs.refused (run.inv h) ((run.grows h).blobs _ _ there) differs ih

end runs

/-! ## A put that runs alone -/

section alone
variable {C : Type} [DecidableEq C] {s : FsStore} {σ : FsState C} {c : C}

/-- `σ` after steps of `c` alone. -/
def FsState.at (σ : FsState C) (c : C) (v : Volume) (initialised : Bool) (lock : Option C) (used : List String)
    (call : Call) : FsState C := ⟨v, initialised, lock, used, Function.update σ.calls c call⟩

theorem FsState.at_calls (v : Volume) (i : Bool) (l : Option C) (used : List String) (call : Call) :
    (σ.at c v i l used call).calls c = call := Function.update_self ..

theorem FsState.at_at (v v' : Volume) (i i' : Bool) (l l' : Option C) (used used' : List String)
    (call call' : Call) :
    (σ.at c v i l used call).at c v' i' l' used' call' = σ.at c v' i' l' used' call' := by
  unfold FsState.at
  rw [Function.update_idem]

/-- A state, as one that a call has reached. -/
theorem FsState.at_self {call : Call} (h : σ.calls c = call) :
    σ = σ.at c σ.volume σ.initialised σ.lock σ.used call := by
  unfold FsState.at
  rw [← h, Function.update_eq_self]

theorem FsRun.next {v v' : Volume} {i i' : Bool} {l l' : Option C} {used used' : List String} {call call' : Call}
    (run : FsRun s σ (σ.at c v i l used call))
    (step : CallStep s c (σ.at c v i l used call) ((σ.at c v i l used call).at c v' i' l' used' call')) :
    FsRun s σ (σ.at c v' i' l' used' call') := by
  rw [FsState.at_at] at step
  exact .step run (.call c step)

/-- A write at the given stages, from its start to its last sync. -/
theorem FsRun.writes {text : Bytes} {v : Volume} {i : Bool} {l : Option C} {used : List String} {a : PutArgs}
    {stageOf : Writer → Stage}
    (each : ∀ d w d' w', Step text d w d' w' →
      CallStep s c (σ.at c { v with disk := d } i l used (.running a (stageOf w)))
      ((σ.at c { v with disk := d } i l used (.running a (stageOf w))).at c { v with disk := d' } i l used
        (.running a (stageOf w')))) {d d' : Disk StorePath UInt8} {w w' : Writer} (steps : Steps text d w d' w')
    (run : FsRun s σ (σ.at c { v with disk := d } i l used (.running a (stageOf w)))) :
    FsRun s σ (σ.at c { v with disk := d' } i l used (.running a (stageOf w'))) := by
  induction steps with
  | refl _ _ => exact run
  | step first _ ih => exact ih (run.next (each _ _ _ _ first))

/-- The same layout and the same files; temporary files aside. -/
structure Volume.Same (v v' : Volume) : Prop where
  root : v.root = v'.root
  blobsDir : v.blobsDir = v'.blobsDir
  indexDir : v.indexDir = v'.indexDir
  file : v.disk.file = v'.disk.file

theorem Volume.Same.refl (v : Volume) : v.Same v := ⟨rfl, rfl, rfl, rfl⟩

theorem Volume.Same.blob {v v' : Volume} (h : v.Same v') (sha256 : String) : v.blob sha256 = v'.blob sha256 :=
  congrFun h.file _

/-- The end of a write, seen from the files. -/
theorem replace_same {d d' : Disk StorePath UInt8} {text : Bytes} {t : Nat}
    (steps : Steps text d .creating d' (.synced t))
    (p : StorePath) : (d'.replace t p).file = (d.write p text).file := by
  have hholds := steps.holds trivial
  have htemp : d'.temp t = some text := hholds.1
  unfold Disk.replace Disk.write
  dsimp only
  rw [steps.file, htemp]

variable {a : PutArgs} {v : Volume} {used : List String}

/-- From the presence check to the lock. -/
theorem FsRun.backing {i : Bool} {v' : Volume} {now : Py.DateTime} (hb : s.backing v i now = .ok v')
    (run : FsRun s σ (σ.at c v i none used (.running a .checking))) :
    ∃ w, w.Same v' ∧ FsRun s σ (σ.at c w true none used (.running a .waiting)) := by
  unfold FsStore.backing at hb
  by_cases hp : v.backingPresent = true
  · rw [if_pos hp] at hb
    cases hb
    exact ⟨v, .refl v, run.next (.present _ a (FsState.at_calls ..) hp)⟩
  · rw [if_neg hp] at hb
    have hnew : i = false := by
      cases i with
      | false => rfl
      | true =>
        unfold FsStore.requireLiveBacking at hb
        rw [Bool.not_eq_true] at hp
        rw [hp] at hb
        cases hb
    have hv : v' = initialise v now := by
      rw [hnew] at hb
      exact (Except.ok.inj hb).symm
    have r1 := run.next (.absent _ a (FsState.at_calls ..))
    have r2 := r1.next (.unknown _ a (FsState.at_calls ..) (Or.inl hnew))
    have r3 := r2.next (.makeRoot _ a (FsState.at_calls ..))
    have r4 := r3.next (.makeBlobs _ a (FsState.at_calls ..))
    have r5 := r4.next (.makeIndex _ a (FsState.at_calls ..))
    by_cases hm : (v.disk.file .marker).isSome = true
    · refine ⟨{ v with root := true, blobsDir := true, indexDir := true }, ?_,
        r5.next (.markerThere _ a (FsState.at_calls ..) hm)⟩
      rw [hv]
      unfold initialise
      rw [if_pos hm]
      exact ⟨rfl, rfl, rfl, rfl⟩
    · obtain ⟨d, t, steps⟩ := Steps.exists_synced (markerText now) v.disk
      have r6 := r5.next (.markerMissing _ a now (FsState.at_calls ..) (Bool.eq_false_iff.2 hm))
      have r7 := FsRun.writes (v := { v with root := true, blobsDir := true, indexDir := true })
        (fun d w d' w' hstep => .markerStep _ a _ w w' d' (FsState.at_calls ..) hstep) steps r6
      refine ⟨_, ?_, r7.next (.markerReplace _ a _ t (FsState.at_calls ..))⟩
      rw [hv]
      unfold initialise
      rw [if_neg hm]
      exact ⟨rfl, rfl, rfl, replace_same steps .marker⟩

/-- From the lock to its release, where the blob is stored. -/
theorem FsRun.storeBlob {v' w : Volume} (hs : s.storeBlob v a = .ok v') (hv : w.Same v)
    (run : FsRun s σ (σ.at c w true none used (.running a .waiting))) :
    ∃ w', w'.Same v' ∧ FsRun s σ (σ.at c w' true none used (.running a .recording)) := by
  have r1 : FsRun s σ (σ.at c w true (some c) used (.running a .looking)) :=
    run.next (.lock _ a (FsState.at_calls ..) rfl)
  unfold FsStore.storeBlob at hs
  cases hblob : v.blob (s.computed a) with
  | some existing =>
    rw [hblob] at hs
    dsimp only at hs
    by_cases he : existing = a.data
    · rw [if_pos he] at hs
      cases hs
      rw [← hv.blob, he] at hblob
      exact ⟨w, hv, r1.next (.same _ a (FsState.at_calls ..) hblob)⟩
    · rw [if_neg he] at hs
      cases hs
  | none =>
    rw [hblob] at hs
    cases hs
    rw [← hv.blob] at hblob
    obtain ⟨d, t, steps⟩ := Steps.exists_synced a.data w.disk
    have r2 : FsRun s σ (σ.at c w true (some c) used (.running a (.blob .creating))) :=
      r1.next (.missing _ a (FsState.at_calls ..) hblob)
    have r3 := FsRun.writes (v := w)
      (fun d w d' w' hstep => .blobStep _ a w w' d' (FsState.at_calls ..) hstep) steps r2
    refine ⟨{ w with disk := d.replace t (.blob (s.computed a)) }, ⟨hv.root, hv.blobsDir, hv.indexDir, ?_⟩,
      r3.next (.blobReplace _ a t (FsState.at_calls ..))⟩
    refine (replace_same steps (.blob (s.computed a))).trans ?_
    unfold Disk.write
    dsimp only
    rw [hv.file]

theorem FsRun.collide {w : Volume} {e : Exc} (hs : s.storeBlob v a = .error e) (hv : w.Same v)
    (run : FsRun s σ (σ.at c w true none used (.running a .waiting))) :
    FsRun s σ (σ.at c w true none used (.raised a e)) := by
  have r1 : FsRun s σ (σ.at c w true (some c) used (.running a .looking)) :=
    run.next (.lock _ a (FsState.at_calls ..) rfl)
  obtain ⟨rfl, existing, hblob, hd⟩ := FsStore.storeBlob_error hs
  rw [← hv.blob] at hblob
  exact r1.next (.collide _ a existing (FsState.at_calls ..) hblob hd)

theorem FsRun.register {w : Volume} {u : UuidHex} {now : Py.DateTime} (hv : w.Same v)
    (fresh : newArtifactId u ∉ used)
    (run : FsRun s σ (σ.at c w true none used (.running a .recording))) :
    ∃ w', w'.Same { v with disk := v.disk.write (.sidecar (newArtifactId u)) (s.encode (s.newRecord a u now)) } ∧
      FsRun s σ (σ.at c w' true none (newArtifactId u :: used) (.returned a (s.newRecord a u now))) := by
  obtain ⟨d, t, steps⟩ := Steps.exists_synced (s.encode (s.newRecord a u now)) w.disk
  have r1 : FsRun s σ (σ.at c w true none (newArtifactId u :: used)
    (.running a (.sidecar (s.newRecord a u now) .creating))) :=
    run.next (.mint _ a u now (FsState.at_calls ..) fresh)
  have r2 := FsRun.writes (v := w)
    (fun d w d' w' hstep => .sidecarStep _ a _ w w' d' (FsState.at_calls ..) hstep) steps r1
  have r3 : FsRun s σ (σ.at c { w with disk := d.replace t (.sidecar (newArtifactId u)) } true none
      (newArtifactId u :: used) (.running a (.returning (s.newRecord a u now)))) :=
    r2.next (.sidecarReplace _ a _ t (FsState.at_calls ..))
  refine ⟨{ w with disk := d.replace t (.sidecar (newArtifactId u)) }, ⟨hv.root, hv.blobsDir, hv.indexDir, ?_⟩,
    r3.next (.return_ _ a _ (FsState.at_calls ..))⟩
  refine (replace_same steps (.sidecar (newArtifactId u))).trans ?_
  unfold Disk.write
  dsimp only
  rw [hv.file]

/-- How a put has ended. -/
def Call.ended (a : PutArgs) : Except Exc ArtifactRecord → Call
  | .ok r => .returned a r
  | .error e => .raised a e

/-- **The steps of a put that runs alone come to what `put` computes.** -/
theorem FsRun.put (u : UuidHex) (now : Py.DateTime) (idle : σ.calls c = .idle) (free : σ.lock = none)
    (fresh : newArtifactId u ∉ σ.used) :
    ∃ w used, w.Same (s.put σ.volume σ.initialised a u now).2.1 ∧
      FsRun s σ (σ.at c w (s.put σ.volume σ.initialised a u now).2.2 none used
        (.ended a (s.put σ.volume σ.initialised a u now).1)) := by
  have hstart : ∀ {υ}, CallStep s c σ υ → FsRun s σ υ := fun step => .step (.refl σ) (.call c step)
  have hto : ∀ call, σ.to c call = σ.at c σ.volume σ.initialised none σ.used call := fun call => by
    unfold FsState.to FsState.at
    rw [← free]
  cases hc : s.checkPut a with
  | error e =>
    refine ⟨σ.volume, σ.used, ?_, ?_⟩
    · unfold FsStore.put
      rw [hc]
      exact .refl _
    · have r := hstart (.refuse σ a e idle hc)
      rw [hto] at r
      unfold FsStore.put
      rw [hc]
      exact r
  | ok _ =>
    rw [FsStore.put_checked hc]
    have r1 := hstart (.call σ a idle hc)
    rw [hto] at r1
    cases hb : s.backing σ.volume σ.initialised now with
    | error e =>
      -- the layout was there once and is gone
      obtain ⟨hp, hi, rfl⟩ := FsStore.backing_error hb
      have r2 := r1.next (.absent _ a (FsState.at_calls ..))
      exact ⟨σ.volume, σ.used, .refl _, r2.next (.vanished _ a (FsState.at_calls ..) hp hi)⟩
    | ok v =>
      obtain ⟨w, hw, r2⟩ := r1.backing hb
      dsimp only
      cases hs : s.storeBlob v a with
      | error e => exact ⟨w, σ.used, hw, r2.collide hs hw⟩
      | ok v' =>
        obtain ⟨w', hw', r3⟩ := r2.storeBlob hs hw
        obtain ⟨w'', hw'', r4⟩ := FsRun.register hw' fresh r3
        exact ⟨w'', _, hw'', r4⟩

end alone

/-! ## Reading back -/

section reading
variable {s : FsStore} {v : Volume} {used : List String} {a : PutArgs} {r : ArtifactRecord}

theorem Stored.stat (h : Stored s v used a r) (initialised : Bool) :
    s.stat v initialised r.artifactId = .ok r := by
  obtain ⟨u, hu⟩ := h.minted
  have hside := h.sidecar
  rw [hu] at hside ⊢
  obtain ⟨hname, hopens⟩ := sidecarName_new u
  unfold FsStore.stat
  rw [hname]
  simp only [bind, Except.bind]
  rw [hopens, hside]
  dsimp only
  rw [s.decode_encode r h.valid]

theorem Stored.get (h : Stored s v used a r) (initialised : Bool) :
    s.get v initialised r.artifactId = .ok a.data := by
  unfold FsStore.get
  simp only [h.stat initialised, ok_bind, h.blob]
  exact if_neg (not_not_intro h.sha256.symm)

theorem FsStore.stat_ok {initialised : Bool} {id : String} (h : s.stat v initialised id = .ok r) :
    ∃ y, v.sidecar id = some y ∧ s.decode y = some r := by
  unfold FsStore.stat at h
  obtain ⟨name, _, h⟩ := bind_ok h
  cases hname : refusedName name with
  | some why =>
    rw [hname] at h
    cases why <;> cases h
  | none =>
    rw [hname] at h
    cases hside : v.sidecar id with
    | none =>
      rw [hside] at h
      obtain ⟨_, _, h⟩ := bind_ok h
      cases h
    | some y =>
      rw [hside] at h
      dsimp only at h
      cases hdec : s.decode y with
      | none =>
        rw [hdec] at h
        cases h
      | some r' =>
        rw [hdec] at h
        cases h
        exact ⟨y, rfl, hdec⟩

/-- Bytes that are served have the digest on record, whatever the volume holds. -/
theorem FsStore.get_ok {initialised : Bool} {id : String} {x : Bytes} (h : s.get v initialised id = .ok x) :
    ∃ y r, v.sidecar id = some y ∧ s.decode y = some r ∧ v.blob r.sha256 = some x ∧ s.env.sha256 x = r.sha256 := by
  unfold FsStore.get at h
  cases hstat : s.stat v initialised id with
  | error e =>
    rw [hstat] at h
    cases h
  | ok r =>
    obtain ⟨y, hy, hdec⟩ := FsStore.stat_ok hstat
    rw [hstat] at h
    simp only [bind, Except.bind] at h
    cases hblob : v.blob r.sha256 with
    | none =>
      rw [hblob] at h
      cases h
    | some data =>
      rw [hblob] at h
      dsimp only at h
      by_cases hd : s.env.sha256 data = r.sha256
      · rw [if_neg (not_not_intro hd)] at h
        cases h
        exact ⟨y, r, hy, hdec, hblob, hd⟩
      · rw [if_pos hd] at h
        cases h

end reading

/-! ## The guarantees -/

/-- **Integrity of the artifact store.**  In every state the calls and crashes can reach:

1. a sidecar at its path is the whole text of a valid record of that id, and the blob it names is there;
2. a blob at its path is all of the bytes of some put, and has that digest;
3. no blob and no sidecar changes later;
4. what a put returned is read back later, record and bytes;
5. a put whose digest other bytes hold raises `ImmutabilityError` unless a fault or a crash
   ends it first, and no step of it writes a sidecar;
6. with blobs altered from outside, bytes that are served still have the digest on record. -/
theorem artifact_store_integrity {C : Type} [DecidableEq C] (s : FsStore) {σ τ : FsState C}
    (reached : FsRun s (.start C) σ) (later : FsRun s σ τ) :
    (∀ id x, σ.volume.sidecar id = some x → ∃ (r : ArtifactRecord) (a : PutArgs), x = s.encode r ∧
      s.decode x = some r ∧ r.artifactId = id ∧
      r.sha256 = s.env.sha256 a.data ∧ r.sizeBytes = a.data.length ∧ σ.volume.blob r.sha256 = some a.data) ∧
    (∀ sha256 x, σ.volume.blob sha256 = some x → s.env.sha256 x = sha256 ∧
      ∃ c a, (σ.calls c).args = some a ∧ a.data = x) ∧
    ((∀ sha256 x, σ.volume.blob sha256 = some x → τ.volume.blob sha256 = some x) ∧
      ∀ id x, σ.volume.sidecar id = some x → τ.volume.sidecar id = some x) ∧
    (∀ c a r, σ.calls c = .returned a r → ∀ initialised,
      s.get τ.volume initialised r.artifactId = .ok a.data ∧ s.stat τ.volume initialised r.artifactId = .ok r) ∧
    (∀ c a stage x, σ.calls c = .running a stage → σ.volume.blob (s.computed a) = some x → x ≠ a.data →
      Refused s a (τ.calls c) ∧ ∀ υ, CallStep s c τ υ → ∀ id, υ.volume.sidecar id = τ.volume.sidecar id) ∧
    (∀ v : Volume, (∀ id, v.sidecar id = τ.volume.sidecar id) → ∀ initialised id x,
      s.get v initialised id = .ok x → ∃ y r, τ.volume.sidecar id = some y ∧ s.decode y = some r ∧
        s.env.sha256 x = r.sha256) := by
  have hσ : FsInv s σ := reached.inv .start
  have hτ : FsInv s τ := later.inv hσ
  have hgrows := later.grows hσ
  refine ⟨fun id x hx => ?_, fun sha256 x hx => hσ.blob sha256 x hx, ⟨hgrows.blobs, hgrows.sidecars⟩,
    fun c a r hc initialised => ?_, fun c a stage x hc hx hne => ?_, fun v hv initialised id x hx => ?_⟩
  · obtain ⟨_, a, r, _, hst, hid⟩ := hσ.sidecar id x hx
    have henc : x = s.encode r := by
      have hside := hst.sidecar
      rw [hid, hx] at hside
      exact Option.some.inj hside
    refine ⟨r, a, henc, ?_, hid, hst.sha256, hst.size, hst.blob⟩
    rw [henc]
    exact s.decode_encode r hst.valid
  · have hcall := hτ.call c
    rw [later.returned hσ hc] at hcall
    exact ⟨hcall.get initialised, hcall.stat initialised⟩
  · have hr := later.refused hσ hx hne (hσ.refused hc hx hne)
    refine ⟨hr, fun υ step id => ?_⟩
    rcases (hτ.callStep step).frame.newSidecars id with hsame | hminted
    · exact hsame
    · rw [hr.minted] at hminted
      cases hminted
  · obtain ⟨y, r, hy, hdec, _, hsha⟩ := FsStore.get_ok hx
    exact ⟨y, r, (hv id).symm.trans hy, hdec, hsha⟩

/-- Two texts with one digest: the digest is the same for all. -/
def collidingEnv : Env where
  sha256 _ := String.ofList (List.replicate 64 '0')
  sha256_length _ := by decide
  sha256_hex _ := by decide
  floats := Py.FloatText.exact
  intMaxStrDigits := 4300
  maxDepth := 255

def firstPut : PutArgs := ⟨[1], "text/plain", "one.txt", none⟩

def secondPut : PutArgs := ⟨[2], "text/plain", "two.txt", none⟩

def firstUuid : UuidHex := ⟨String.ofList (List.replicate 32 'a'), by decide, by decide⟩

def collidingStore : FsStore := .reference collidingEnv

def firstRecord : ArtifactRecord :=
  collidingStore.newRecord firstPut firstUuid ⟨2026, 9, 4, 12, 0, 0, 0, by decide⟩

/-- The first put returns; the second, with other bytes under the same digest, is refused. -/
theorem sample_collision_is_refused : ∃ σ τ : FsState Bool, FsRun collidingStore (.start Bool) σ ∧
    FsRun collidingStore σ τ ∧ σ.calls false = .returned firstPut firstRecord ∧
    collidingStore.get τ.volume true firstRecord.artifactId = .ok [1] ∧
    collidingStore.stat τ.volume true firstRecord.artifactId = .ok firstRecord ∧
    τ.calls true = .raised secondPut (digestCollision (collidingStore.computed secondPut)) ∧
    Refused collidingStore secondPut (τ.calls true) := by
  let now : Py.DateTime := ⟨2026, 9, 4, 12, 0, 0, 0, by decide⟩
  have hfirst : collidingStore.checkPut firstPut = .ok () := by decide
  have hsecond : collidingStore.checkPut secondPut = .ok () := by decide
  obtain ⟨w, used, hw, r1⟩ := @FsRun.put Bool _ collidingStore (.start Bool) false firstPut
    firstUuid now rfl rfl (by unfold FsState.start; exact List.not_mem_nil)
  rw [FsStore.put_checked hfirst] at hw r1
  have hblob : w.blob (collidingStore.computed secondPut) = some [1] := (hw.blob _).trans rfl
  have hpresent : w.backingPresent = true := by
    unfold Volume.backingPresent
    rw [hw.root, hw.blobsDir, hw.indexDir, hw.file]
    rfl
  let σ₁ : FsState Bool := (FsState.start Bool).at false w true none used (.returned firstPut firstRecord)
  let σ : FsState Bool := σ₁.at true w true none used (.running secondPut .checking)
  have reached : FsRun collidingStore (.start Bool) σ := .step r1 (.call true (.call σ₁ secondPut rfl hsecond))
  -- the second put goes on alone
  have here : FsRun collidingStore σ (σ.at true w true none used (.running secondPut .checking)) := by
    rw [FsState.at_at]
    exact .refl σ
  have hbacking : collidingStore.backing w true now = .ok w := by
    unfold FsStore.backing
    rw [if_pos hpresent]
  obtain ⟨w₂, hw₂, r2⟩ := here.backing hbacking
  have hcollide : collidingStore.storeBlob w secondPut =
    .error (digestCollision (collidingStore.computed secondPut)) := by
    unfold FsStore.storeBlob
    rw [hblob]
    rfl
  have later := r2.collide hcollide hw₂
  obtain ⟨_, _, _, hkept, hrefused, _⟩ := artifact_store_integrity collidingStore reached later
  have hret : σ.calls false = .returned firstPut firstRecord := rfl
  obtain ⟨hget, hstat⟩ := hkept false firstPut firstRecord hret true
  have hcall : σ.calls true = .running secondPut .checking := FsState.at_calls ..
  exact ⟨σ, _, reached, later, hret, hget, hstat, FsState.at_calls ..,
    (hrefused true secondPut .checking [1] hcall hblob (by decide)).1⟩

end Cer
