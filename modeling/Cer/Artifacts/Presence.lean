import Cer.Artifacts.FsStore
import Mathlib.Data.List.Induction

/-!
# A store whose backing comes and goes

One `FilesystemArtifactStore` object over its life: its methods are called, each as one
step, and between the calls anything may happen to the volume.  `Seen` is the history the
flag `_initialised` stands for: the whole layout was observed, or the object was told so.
An object that has seen its layout refuses while any part of it is missing, and changes
nothing; one that never has makes a layout on its first valid `put`.
-/

namespace Cer

/-- A call of a method, with what `put` draws. -/
inductive FsCall
  | put (a : PutArgs) (u : UuidHex) (now : Py.DateTime)
  | get (artifactId : String)
  | stat (artifactId : String)
  | exists (artifactId : String)
  | health
  | markPreviouslyInitialised

inductive FsEvent
  | call (c : FsCall)
  /-- The volume is now another: parts of it were removed, or put back. -/
  | outside (v : Volume)

/-- The object, and the volume it stands on. -/
structure FsObject where
  volume : Volume
  initialised : Bool

/-- `__init__`. -/
def FsObject.new (v : Volume) : FsObject := ⟨v, v.backingPresent⟩

inductive FsAnswer
  | record (r : ArtifactRecord)
  | bytes (data : Bytes)
  | bool (b : Bool)
  | none

section object
variable (s : FsStore)

/-- What a call returns or raises, and what it leaves. -/
def FsObject.call (o : FsObject) : FsCall → Except Exc FsAnswer × FsObject
  | .put a u now =>
    let r := s.put o.volume o.initialised a u now
    (r.1.map .record, ⟨r.2.1, r.2.2⟩)
  | .get artifactId => ((s.get o.volume o.initialised artifactId).map .bytes, o)
  | .stat artifactId => ((s.stat o.volume o.initialised artifactId).map .record, o)
  | .exists artifactId => (.ok (.bool (FsStore.exists o.volume artifactId)), o)
  | .health =>
    let r := s.health o.volume o.initialised
    (r.1.map fun _ => .none, { o with initialised := r.2 })
  | .markPreviouslyInitialised => (.ok .none, { o with initialised := true })

def FsObject.step (o : FsObject) : FsEvent → FsObject
  | .call c => (o.call s c).2
  | .outside v => { o with volume := v }

/-- The object after a run. -/
def FsObject.after (o : FsObject) (events : List FsEvent) : FsObject := events.foldl (FsObject.step s) o

/-- The event shows the object its whole layout, or says that it was there. -/
def FsObject.Observes (o : FsObject) : FsEvent → Prop
  -- `put` finds the layout or makes it, once its arguments passed
  | .call (.put a u now) => s.checkPut a = .ok () ∧ (o.step s (.call (.put a u now))).volume.backingPresent = true
  | .call .health => o.volume.backingPresent = true
  | .call .markPreviouslyInitialised => True
  | _ => False

/-- The layout was there for the constructor, or some event since observed it. -/
def Seen (v : Volume) (events : List FsEvent) : Prop :=
  v.backingPresent = true ∨
    ∃ earlier e later, events = earlier ++ e :: later ∧ ((FsObject.new v).after s earlier).Observes s e

end object

/-- The answer is an `ArtifactStoreError`, which no `NotFoundError` is. -/
def StoreFailure {α : Type} (x : Except Exc α) : Prop :=
  ∃ e, x = .error e ∧ e.isA .artifactStoreError = true ∧ e.isA .notFound = false

/-- The object refuses, and leaves the volume as it is. -/
structure FsObject.Refuses (s : FsStore) (o : FsObject) : Prop where
  put : ∀ a u now, StoreFailure (o.call s (.put a u now)).1
  health : StoreFailure (o.call s .health).1
  untouched : ∀ c, (o.call s c).2.volume = o.volume
  stat : ∀ id, IsArtHex id → o.volume.sidecar id = none → StoreFailure (o.call s (.stat id)).1
  get : ∀ id, IsArtHex id → o.volume.sidecar id = none → StoreFailure (o.call s (.get id)).1

/-- A valid put leaves the layout there, and is refused only over a blob of other content. -/
structure FsObject.Creates (s : FsStore) (o : FsObject) (a : PutArgs) (u : UuidHex)
    (now : Py.DateTime) : Prop where
  present : (o.call s (.put a u now)).2.volume.backingPresent = true
  answer : (∃ r, (o.call s (.put a u now)).1 = .ok (.record r)) ∨
    ∃ x, o.volume.blob (s.computed a) = some x ∧ x ≠ a.data ∧
      (o.call s (.put a u now)).1 = .error (digestCollision (s.computed a))

/-! ## One call -/

section calls
variable {s : FsStore} {o : FsObject}

theorem storeFailure_map {α β : Type} {x : Except Exc α} {f : α → β} (h : StoreFailure x) :
    StoreFailure (x.map f) := by
  obtain ⟨e, rfl, he⟩ := h
  exact ⟨e, rfl, he⟩

theorem storeFailure_backingGone (refusingTo : String) {α : Type} :
    StoreFailure (.error (s.backingGone refusingTo) : Except Exc α) := ⟨_, rfl, rfl, rfl⟩

/-- What `put` refuses its arguments with is an `ArtifactStoreError`. -/
theorem checkPut_error {a : PutArgs} {e : Exc} (h : s.checkPut a = .error e) :
    e.isA .artifactStoreError = true ∧ e.isA .notFound = false := by
  unfold FsStore.checkPut at h
  split at h
  · cases h
    exact ⟨rfl, rfl⟩
  · split at h
    · cases h
      exact ⟨rfl, rfl⟩
    · split at h
      · cases h
        exact ⟨rfl, rfl⟩
      · split at h
        · cases h
        · split at h
          · cases h
            exact ⟨rfl, rfl⟩
          · cases h

theorem put_refused {a : PutArgs} {e : Exc} (h : s.checkPut a = .error e) (v : Volume) (i : Bool) (u : UuidHex)
    (now : Py.DateTime) : s.put v i a u now = (.error e, v, i) := by
  unfold FsStore.put
  rw [h]

/-- A store that was there and is not writes nothing. -/
theorem put_gone (gone : o.volume.backingPresent = false) (was : o.initialised = true) (a : PutArgs) (u : UuidHex)
    (now : Py.DateTime) : ∃ e, s.put o.volume o.initialised a u now = (.error e, o.volume, o.initialised) ∧
      e.isA .artifactStoreError = true ∧ e.isA .notFound = false := by
  cases hc : s.checkPut a with
  | error e => exact ⟨e, put_refused hc _ _ u now, checkPut_error hc⟩
  | ok _ =>
    refine ⟨s.backingGone "register a new artifact", ?_, rfl, rfl⟩
    have hb : s.backing o.volume o.initialised now = .error (s.backingGone "register a new artifact") := by
      unfold FsStore.backing FsStore.requireLiveBacking
      rw [gone, was]
      rfl
    rw [FsStore.put_checked hc, hb]

theorem backing_present {v v' : Volume} {i : Bool} {now : Py.DateTime} (h : s.backing v i now = .ok v') :
    v'.backingPresent = true := by
  unfold FsStore.backing at h
  by_cases hp : v.backingPresent = true
  · rw [if_pos hp] at h
    cases h
    exact hp
  · rw [if_neg hp] at h
    cases hl : s.requireLiveBacking v i "register a new artifact" with
    | error e =>
      rw [hl] at h
      cases h
    | ok _ =>
      rw [hl] at h
      cases h
      -- the marker is what was there, or the new one
      unfold initialise Volume.backingPresent
      by_cases hm : (v.disk.file .marker).isSome = true
      · simp [hm]
      · simp [hm, AtomicFile.Disk.write]

theorem storeBlob_present {v v' : Volume} {a : PutArgs} (h : s.storeBlob v a = .ok v') :
    v'.backingPresent = v.backingPresent := by
  unfold FsStore.storeBlob at h
  split at h
  · split at h
    · cases h
      rfl
    · cases h
  · cases h
    unfold Volume.backingPresent
    rw [AtomicFile.Disk.write_file_of_ne _ _ (by simp)]

/-- A put whose layout is there or made: what it leaves, and what it answers. -/
theorem put_backed {a : PutArgs} {v w : Volume} {i : Bool} {now : Py.DateTime} (hc : s.checkPut a = .ok ())
    (hb : s.backing v i now = .ok w) (u : UuidHex) :
    (s.put v i a u now).2.2 = true ∧ (s.put v i a u now).2.1.backingPresent = true ∧
      ((∃ r, (s.put v i a u now).1 = .ok r) ∨
        ∃ x, v.blob (s.computed a) = some x ∧ x ≠ a.data ∧
          (s.put v i a u now).1 = .error (digestCollision (s.computed a))) := by
  have hpresent := backing_present hb
  have hblob : w.blob (s.computed a) = v.blob (s.computed a) := by
    unfold FsStore.backing at hb
    by_cases hp : v.backingPresent = true
    · rw [if_pos hp] at hb
      cases hb
      rfl
    · rw [if_neg hp] at hb
      obtain ⟨_, _, rfl⟩ := map_eq_ok hb
      unfold initialise Volume.blob
      by_cases hm : (v.disk.file .marker).isSome = true
      · simp only [if_pos hm]
      · simp only [if_neg hm]
        exact AtomicFile.Disk.write_file_of_ne _ _ (by simp)
  rw [FsStore.put_checked hc, hb]
  dsimp only
  cases hs : s.storeBlob w a with
  | error e =>
    refine ⟨rfl, hpresent, Or.inr ?_⟩
    obtain ⟨rfl, x, hx, hd⟩ := FsStore.storeBlob_error hs
    exact ⟨x, hblob.symm.trans hx, hd, rfl⟩
  | ok v' =>
    refine ⟨rfl, ?_, Or.inl ⟨_, rfl⟩⟩
    have hv' := (storeBlob_present hs).trans hpresent
    unfold Volume.backingPresent at hv' ⊢
    rw [AtomicFile.Disk.write_file_of_ne _ _ (by simp)]
    exact hv'

/-- `stat` of an identity with no sidecar, where the layout has gone. -/
theorem stat_gone (gone : o.volume.backingPresent = false) (was : o.initialised = true)
    {id : String} (hid : IsArtHex id)
    (missing : o.volume.sidecar id = none) : StoreFailure (s.stat o.volume o.initialised id) := by
  have hlive : ∀ refusingTo, s.requireLiveBacking o.volume o.initialised refusingTo =
    .error (s.backingGone refusingTo) := by
    intro refusingTo
    unfold FsStore.requireLiveBacking
    rw [gone, was]
    rfl
  obtain ⟨hname, hnull⟩ := sidecarName_artHex hid
  unfold FsStore.stat
  rw [hname, ok_bind]
  cases hr : refusedName (id ++ ".json") with
  | none =>
    dsimp only
    rw [missing]
    dsimp only
    rw [hlive]
    exact storeFailure_backingGone _
  | some why =>
    cases why with
    | embeddedNull =>
      unfold refusedName at hr
      rw [if_neg (by simpa using hnull)] at hr
      split at hr <;> cases hr
    | tooLong => exact ⟨_, rfl, rfl, rfl⟩

end calls

/-! ## Runs -/

section runs
variable {s : FsStore}

theorem FsObject.after_snoc (o : FsObject) (events : List FsEvent) (e : FsEvent) :
    o.after s (events ++ [e]) = (o.after s events).step s e := List.foldl_concat ..

/-- An event sets the flag where it observes the layout, and never clears it. -/
theorem FsObject.step_initialised (o : FsObject) (e : FsEvent) :
    (o.step s e).initialised = true ↔ o.initialised = true ∨ o.Observes s e := by
  cases e with
  | outside v => exact (or_iff_left id).symm
  | call c =>
    cases c with
    | get | stat | «exists» => exact (or_iff_left id).symm
    | markPreviouslyInitialised => exact iff_of_true rfl (Or.inr trivial)
    | health =>
      show (s.health o.volume o.initialised).2 = true ↔ o.initialised = true ∨ o.volume.backingPresent = true
      unfold FsStore.health
      by_cases hp : o.volume.backingPresent = true
      · rw [if_pos hp]
        exact iff_of_true rfl (Or.inr hp)
      · rw [if_neg hp]
        exact (or_iff_left hp).symm
    | put a u now =>
      show (s.put o.volume o.initialised a u now).2.2 = true ↔ o.initialised = true ∨
        (s.checkPut a = .ok () ∧ (s.put o.volume o.initialised a u now).2.1.backingPresent = true)
      cases hc : s.checkPut a with
      | error e =>
        rw [put_refused hc]
        exact (or_iff_left fun h => by cases h.1).symm
      | ok _ =>
        cases hb : s.backing o.volume o.initialised now with
        | ok w =>
          obtain ⟨hflag, hpresent, _⟩ := put_backed hc hb u
          exact iff_of_true hflag (Or.inr ⟨rfl, hpresent⟩)
        | error e =>
          obtain ⟨hgone, hwas, _⟩ := FsStore.backing_error hb
          obtain ⟨e', hput, _⟩ := put_gone hgone hwas a u now
          rw [hput]
          exact iff_of_true hwas (Or.inl hwas)

/-- **The flag is the history.** -/
theorem initialised_iff_seen (v : Volume) (events : List FsEvent) :
    ((FsObject.new v).after s events).initialised = true ↔ Seen s v events := by
  induction events using List.reverseRecOn with
  | nil =>
    refine ⟨Or.inl, ?_⟩
    rintro (h | ⟨earlier, e, later, hnil, _⟩)
    · exact h
    · exact absurd hnil.symm (by simp)
  | append_singleton events e ih =>
    rw [FsObject.after_snoc, FsObject.step_initialised, ih]
    constructor
    · rintro ((h | ⟨earlier, x, later, rfl, hx⟩) | h)
      · exact Or.inl h
      · exact Or.inr ⟨earlier, x, later ++ [e], by simp, hx⟩
      · exact Or.inr ⟨events, e, [], rfl, h⟩
    · rintro (h | ⟨earlier, x, later, heq, hx⟩)
      · exact Or.inl (Or.inl h)
      · -- the last event, or one before it
        rcases List.eq_nil_or_concat later with rfl | ⟨later, y, rfl⟩
        · obtain ⟨rfl, hex⟩ := List.append_inj' heq rfl
          obtain rfl : e = x := (List.cons.inj hex).1
          exact Or.inr hx
        · rw [List.concat_eq_append, ← List.cons_append, ← List.append_assoc] at heq
          exact Or.inl (Or.inr ⟨earlier, x, later, (List.append_inj' heq rfl).1, hx⟩)

theorem FsObject.refuses {o : FsObject} (gone : o.volume.backingPresent = false) (was : o.initialised = true) :
    o.Refuses s := by
  have hhealth : s.health o.volume o.initialised =
      (.error (artifactStoreError
        (s!"artifact store at {s.rootPath} is not initialised, or its backing storage is " ++
        "missing (root/blobs/index/marker not all present) — call initialise() first, or the volume may have been " ++
        "unmounted or deleted")), o.initialised) := by
    unfold FsStore.health
    rw [if_neg (by rw [gone]; exact Bool.false_ne_true)]
  refine ⟨fun a u now => ?_, ?_, fun c => ?_, fun id hid missing => ?_, fun id hid missing => ?_⟩
  · obtain ⟨e, hput, he⟩ := put_gone gone was a u now
    refine ⟨e, ?_, he⟩
    unfold FsObject.call
    dsimp only
    rw [hput]
    rfl
  · unfold FsObject.call
    dsimp only
    rw [hhealth]
    exact ⟨_, rfl, rfl, rfl⟩
  · cases c with
    | get | stat | «exists» | health | markPreviouslyInitialised => rfl
    | put a u now =>
      obtain ⟨e, hput, _⟩ := put_gone gone was a u now
      show (s.put o.volume o.initialised a u now).2.1 = o.volume
      rw [hput]
  · exact storeFailure_map (stat_gone gone was hid missing)
  · obtain ⟨e, hstat, he⟩ := stat_gone (s := s) gone was hid missing
    refine storeFailure_map ⟨e, ?_, he⟩
    unfold FsStore.get
    rw [hstat]
    rfl

/-- A store that never saw its layout makes one. -/
theorem FsObject.creates {o : FsObject} (fresh : o.initialised = false) {a : PutArgs} (hc : s.checkPut a = .ok ())
    (u : UuidHex) (now : Py.DateTime) : o.Creates s a u now := by
  cases hb : s.backing o.volume o.initialised now with
  | error e =>
    obtain ⟨_, hwas, _⟩ := FsStore.backing_error hb
    rw [fresh] at hwas
    cases hwas
  | ok w =>
    obtain ⟨_, hpresent, hanswer⟩ := put_backed hc hb u
    refine ⟨hpresent, ?_⟩
    rcases hanswer with ⟨r, hr⟩ | ⟨x, hx, hne, he⟩
    · refine Or.inl ⟨r, ?_⟩
      unfold FsObject.call
      dsimp only
      rw [hr]
      rfl
    · refine Or.inr ⟨x, hx, hne, ?_⟩
      unfold FsObject.call
      dsimp only
      rw [he]
      rfl

/-- **An object that has seen its backing refuses while any part is missing**, whatever calls and
losses came before, and recreates nothing; one that has not makes its layout on its first valid put. -/
theorem seen_store_refuses (s : FsStore) (v : Volume) (events : List FsEvent) :
    (Seen s v events → ((FsObject.new v).after s events).volume.backingPresent = false →
      ((FsObject.new v).after s events).Refuses s) ∧
    (¬ Seen s v events → ∀ a u now, s.checkPut a = .ok () →
      ((FsObject.new v).after s events).Creates s a u now) := by
  have hflag := initialised_iff_seen (s := s) v events
  refine ⟨fun hseen gone => FsObject.refuses gone (hflag.2 hseen),
    fun hseen a u now hc => FsObject.creates ?_ hc u now⟩
  exact Bool.eq_false_iff.2 fun h => hseen (hflag.1 h)

end runs

end Cer
