import Cer.Artifacts.PutFiles

/-!
# The order of puts

`FsStore.put` is one step, as the runs of the registry take it.  A process takes many, other
threads take theirs in between, and any of them may fail or be lost.  `puts_are_serial`: all the
same the store reads as if the puts that have come to their sidecar had been made at once, one after
the other, in an order that later steps only extend; and what a call returns is what its put in that
order answers. -/

namespace Cer

open AtomicFile

/-- A put that has taken effect: whose it is, of what, and what it drew. -/
structure PutEntry (C : Type) where
  call : C
  args : PutArgs
  uuid : UuidHex
  now : Py.DateTime

section order
variable {C : Type} (s : FsStore)

/-- The puts are made at once, one after the other, on a fresh root, and each answers with its record. -/
inductive InOrder : List (PutEntry C) → Volume → Bool → Prop
  | nil : InOrder [] .empty false
  | put {l : List (PutEntry C)} {v w : Volume} {i : Bool} (before : InOrder l v i) (e : PutEntry C)
    (answers : s.put v i e.args e.uuid e.now = (.ok (s.newRecord e.args e.uuid e.now), w, true)) :
    InOrder (l ++ [e]) w true

/-- Two volumes, each with its flag, that no reader tells apart. -/
def ReadsAs (v : Volume) (i : Bool) (w : Volume) (j : Bool) : Prop :=
  ∀ id, s.stat v i id = s.stat w j id ∧ s.get v i id = s.get w j id ∧ FsStore.exists v id = FsStore.exists w id

/-- The call's sidecar stands, or stood when it failed. -/
def Call.Past (a : PutArgs) : Call → Prop
  | .running b (.returning _) | .returned b _ | .failed b | .lost b => b = a
  | _ => False

/-- The store reads as after the puts of `l`: one each of calls that are past their sidecar, and of
every call that returned. -/
structure Serial (σ : FsState C) (l : List (PutEntry C)) : Prop where
  reads : ∃ w i, InOrder s l w i ∧ ReadsAs s σ.volume σ.initialised w i
  once : (l.map PutEntry.call).Nodup
  past : ∀ e ∈ l, (σ.calls e.call).Past e.args
  returned : ∀ c a r, σ.calls c = .returned a r → ∃ e ∈ l, e.call = c ∧ e.args = a ∧ r = s.newRecord a e.uuid e.now

/-! ## What a step means to the order -/

/-- The call returns the record, or has returned it. -/
def Call.Answers (a : PutArgs) (r : ArtifactRecord) : Call → Prop
  | .running b (.returning q) | .returned b q => b = a ∧ q = r
  | _ => False

/-- A move of a call that stores no sidecar. -/
structure Moves (x y : Call) : Prop where
  past : ∀ a, x.Past a → y.Past a
  answers : ∀ a r, y.Answers a r → x.Answers a r
  drawn : ∀ a r w, y = .running a (.sidecar r w) →
    (∃ u now, r = s.newRecord a u now) ∨ ∃ w', x = .running a (.sidecar r w')

variable {s}

theorem Moves.refl (x : Call) : Moves s x x := ⟨fun _ => id, fun _ _ => id, fun _ _ w h => Or.inr ⟨w, h⟩⟩

/-- A call that is not yet past moves on to where it neither answers nor writes its sidecar. -/
theorem Moves.early {x y : Call} (hx : ∀ a, ¬ x.Past a) (hy : ∀ a r, ¬ y.Answers a r)
    (hd : ∀ a r w, y ≠ .running a (.sidecar r w)) : Moves s x y :=
  ⟨fun a h => absurd h (hx a), fun a r h => absurd h (hy a r), fun a r w h => absurd h (hd a r w)⟩

/-- A call in flight ends with a failure. -/
theorem Moves.ended {a : PutArgs} {stage : Stage} {y : Call} (hy : y = .failed a ∨ y = .lost a) :
    Moves s (.running a stage) y := by
  refine ⟨fun b h => ?_, fun b r h => ?_, fun b r w h => ?_⟩
  · have hab : a = b := by
      cases stage with
      | returning r => exact h
      | _ => exact False.elim h
    rcases hy with rfl | rfl <;> exact hab
  · rcases hy with rfl | rfl <;> exact False.elim h
  · rcases hy with rfl | rfl <;> cases h

theorem Moves.crashed (x : Call) : Moves s x x.crashed := by
  cases x with
  | running a stage => exact .ended (Or.inr rfl)
  | _ => exact .refl _

variable [DecidableEq C] {σ τ : FsState C} {c : C}

/-- **A step stores the call's sidecar, or no sidecar at all.** -/
theorem CallStep.moves (hs : CallStep s c σ τ) :
    (∃ a r t, σ.calls c = .running a (.sidecar r (.synced t)) ∧
      τ = (σ.withDisk (σ.volume.disk.replace t (.sidecar r.artifactId))).to c (.running a (.returning r))) ∨
    (∀ id, τ.volume.sidecar id = σ.volume.sidecar id) ∧ Moves s (σ.calls c) (τ.calls c) := by
  have hto : ∀ {υ : FsState C} {call : Call}, (υ.to c call).calls c = call := Function.update_self ..
  have hearly : ∀ {υ : FsState C} {x call : Call}, σ.calls c = x → (∀ a, ¬ x.Past a) →
    (∀ a r, ¬ call.Answers a r) →
      (∀ a r w, call ≠ .running a (.sidecar r w)) → Moves s (σ.calls c) ((υ.to c call).calls c) := by
    intro υ x call here hx hy hd
    rw [here, hto]
    exact .early hx hy hd
  have hfile : ∀ {d : Disk StorePath UInt8} (id : String), d.file = σ.volume.disk.file →
      d.file (.sidecar id) = σ.volume.disk.file (.sidecar id) := fun id h => congrFun h _
  cases hs with
  | sidecarReplace a r t here => exact Or.inl ⟨a, r, t, here, rfl⟩
  | markerStep a text w w' d here write =>
    exact Or.inr ⟨fun id => hfile id write.file,
      hearly here (fun _ h => h) (fun _ _ h => h) fun _ _ _ h => by cases h⟩
  | markerReplace a text t here =>
    exact Or.inr ⟨fun id => Disk.replace_file_of_ne _ t (by simp),
      hearly here (fun _ h => h) (fun _ _ h => h) fun _ _ _ h => by cases h⟩
  | blobStep a w w' d here write =>
    exact Or.inr ⟨fun id => hfile id write.file,
      hearly here (fun _ h => h) (fun _ _ h => h) fun _ _ _ h => by cases h⟩
  | blobReplace a t here =>
    exact Or.inr ⟨fun id => Disk.replace_file_of_ne _ t (by simp),
      hearly here (fun _ h => h) (fun _ _ h => h) fun _ _ _ h => by cases h⟩
  | mint a u now here fresh =>
    refine Or.inr ⟨fun _ => rfl, ?_⟩
    rw [here, hto]
    refine ⟨fun _ h => False.elim h, fun _ _ h => False.elim h, fun b r w h => ?_⟩
    cases h
    exact Or.inl ⟨u, now, rfl⟩
  | sidecarStep a r w w' d here write =>
    refine Or.inr ⟨fun id => hfile id write.file, ?_⟩
    rw [here, hto]
    refine ⟨fun _ h => False.elim h, fun _ _ h => False.elim h, fun b q x h => ?_⟩
    cases h
    exact Or.inr ⟨w, rfl⟩
  | return_ a r here =>
    refine Or.inr ⟨fun _ => rfl, ?_⟩
    rw [here, hto]
    exact ⟨fun _ h => h, fun _ _ h => h, fun _ _ _ h => by cases h⟩
  | ioError a stage d here cleanup =>
    refine Or.inr ⟨fun id => ?_, ?_⟩
    · rcases cleanup with rfl | ⟨t, _, rfl⟩ <;> rfl
    · rw [here, hto]
      exact .ended (Or.inl rfl)
  | _ =>
    refine Or.inr ⟨fun _ => rfl, hearly (by assumption) (fun _ => ?_) (fun _ _ => ?_) fun _ _ _ h => ?_⟩
    · exact id
    · exact id
    · cases h

/-! ## The order grows -/

/-- A volume written by puts in the order of `l` has the sidecars of the run's, and the blobs they name. -/
structure Written (s : FsStore) (σ : FsState C) (l : List (PutEntry C)) (w : Volume) (i : Bool) : Prop where
  inOrder : InOrder s l w i
  live : w.backingPresent = true ∨ i = false
  sidecars : ∀ id, w.sidecar id = σ.volume.sidecar id
  blobs : ∀ sha x, w.blob sha = some x → σ.volume.blob sha = some x
  stored : ∀ id x, w.sidecar id = some x → ∃ a r, Stored s w σ.used a r ∧ r.artifactId = id

/-- `l` has the calls that are past their sidecar. -/
structure Entered (s : FsStore) (σ : FsState C) (l : List (PutEntry C)) : Prop where
  once : (l.map PutEntry.call).Nodup
  past : ∀ e ∈ l, (σ.calls e.call).Past e.args
  answers : ∀ c a r, (σ.calls c).Answers a r → ∃ e ∈ l, e.call = c ∧ e.args = a ∧ r = s.newRecord a e.uuid e.now
  drawn : ∀ c a r x, σ.calls c = .running a (.sidecar r x) → ∃ u now, r = s.newRecord a u now

structure Ordered (s : FsStore) (σ : FsState C) (l : List (PutEntry C)) (w : Volume) (i : Bool) : Prop where
  written : Written s σ l w i
  entered : Entered s σ l

section ordered
variable {l : List (PutEntry C)} {w : Volume} {i : Bool}

omit [DecidableEq C] in
theorem Ordered.start : Ordered s (.start C) [] .empty false where
  written := ⟨.nil, Or.inr rfl, fun _ => rfl, fun _ _ h => h, fun _ _ h => by cases h⟩
  entered := ⟨List.nodup_nil, fun _ h => absurd h List.not_mem_nil, fun _ _ _ h => False.elim h,
    fun _ _ _ _ h => by cases h⟩

omit [DecidableEq C] in
/-- Where no sidecar is stored the order stays. -/
theorem Ordered.quiet (h : Ordered s σ l w i) (sidecars : ∀ id, τ.volume.sidecar id = σ.volume.sidecar id)
    (blobs : ∀ sha x, σ.volume.blob sha = some x → τ.volume.blob sha = some x) (used : ∀ id ∈ σ.used, id ∈ τ.used)
    (moves : ∀ c, Moves s (σ.calls c) (τ.calls c)) : Ordered s τ l w i := by
  obtain ⟨hw, he⟩ := h
  refine ⟨⟨hw.inOrder, hw.live, fun id => (hw.sidecars id).trans (sidecars id).symm,
    fun sha x hx => blobs sha x (hw.blobs sha x hx), fun id x hx => ?_⟩, ⟨he.once,
      fun e hmem => ?_, fun c a r hr => ?_,
    fun c a r x hc => ?_⟩⟩
  · obtain ⟨a, r, hst, hid⟩ := hw.stored id x hx
    exact ⟨a, r, hst.mono (fun _ _ h => h) (fun _ _ h => h) used, hid⟩
  · exact (moves e.call).past e.args (he.past e hmem)
  · exact he.answers c a r ((moves c).answers a r hr)
  · rcases (moves c).drawn a r x hc with hnew | ⟨x', hold⟩
    · exact hnew
    · exact he.drawn c a r x' hold

omit [DecidableEq C] in
/-- Volumes with the same sidecars have the same after the same put, whichever way each of them stores it. -/
theorem PutLeaves.sidecars_eq {v v' w' : Volume} {used : List String} {a : PutArgs} {r : ArtifactRecord}
    (leaves : PutLeaves s w w' used a r) (same : ∀ id, w.sidecar id = v.sidecar id)
    (stored : v'.sidecar r.artifactId = some (s.encode r))
    (others : ∀ id, id ≠ r.artifactId → v'.sidecar id = v.sidecar id) (id : String) :
    w'.sidecar id = v'.sidecar id := by
  by_cases hid : id = r.artifactId
  · rw [hid]
    exact leaves.stored.sidecar.trans stored.symm
  · rw [others id hid, ← same]
    refine Option.ext fun y => ⟨fun hy => ?_, leaves.grows.sidecars id y⟩
    exact (leaves.sidecar id y hy).resolve_right hid

section put
variable {a : PutArgs} {u : UuidHex} {now : Py.DateTime} {x : Writer}

omit [DecidableEq C] in
/-- The volume after one more put at once. -/
theorem Written.put (h : Written s σ l w i) (hinv : FsInv s σ)
    (here : σ.calls c = .running a (.sidecar (s.newRecord a u now) x)) (step : Advance s c σ τ)
    (there : τ.calls c = .running a (.returning (s.newRecord a u now)))
    (others : ∀ id, id ≠ newArtifactId u → τ.volume.sidecar id = σ.volume.sidecar id) :
    ∃ w', Written s τ (l ++ [⟨c, a, u, now⟩]) w' true := by
  have hcall := hinv.call c
  rw [here] at hcall
  obtain ⟨hchecked, _, _, _, _, hused, hblob, hnone, _⟩ := hcall
  have hstands := step.inv.call c
  rw [there] at hstands
  have hfresh : w.sidecar (newArtifactId u) = none := (h.sidecars _).trans hnone
  obtain ⟨w', hput⟩ :=
    put_new hchecked h.live (fun y hy => Option.some.inj ((h.blobs _ y hy).symm.trans hblob)) u now
  have hleaves := put_leaves hput hfresh hused
  have hkeep : ∀ id ∈ σ.used, id ∈ τ.used := step.frame.used
  refine ⟨w', .put h.inOrder _ hput, Or.inl hleaves.present,
    hleaves.sidecars_eq h.sidecars hstands.2.sidecar others,
    fun sha y hy => step.frame.blobs sha y ?_, fun id y hy => ?_⟩
  · rcases hleaves.blob sha y hy with hold | ⟨rfl, rfl⟩
    · exact h.blobs sha y hold
    · exact hblob
  · rcases hleaves.sidecar id y hy with hold | hid
    · obtain ⟨b, q, hst, hid⟩ := h.stored id y hold
      exact ⟨b, q, hst.mono hleaves.grows.blobs hleaves.grows.sidecars hkeep, hid⟩
    · exact ⟨a, _, hleaves.stored.mono (fun _ _ h => h) (fun _ _ h => h) hkeep, hid.symm⟩

omit [DecidableEq C] in
/-- The call whose sidecar is stored is entered last. -/
theorem Entered.put (h : Entered s σ l) (here : σ.calls c = .running a (.sidecar (s.newRecord a u now) x))
    (others : ∀ c', c' ≠ c → τ.calls c' = σ.calls c')
    (there : τ.calls c = .running a (.returning (s.newRecord a u now))) : Entered s τ (l ++ [⟨c, a, u, now⟩]) := by
  -- the call was not past, so it is none of the entries
  have hnew : ∀ e ∈ l, e.call ≠ c := by
    intro e he hc
    have hpast := h.past e he
    rw [hc, here] at hpast
    exact hpast
  refine ⟨?_, fun e he => ?_, fun c' b q hq => ?_, fun c' b q y hy => ?_⟩
  · rw [List.map_append, List.nodup_append]
    refine ⟨h.once, List.nodup_singleton _, fun x hx y hy hxy => ?_⟩
    obtain ⟨e, he, rfl⟩ := List.mem_map.1 hx
    exact hnew e he (hxy.trans (List.mem_singleton.1 hy))
  · rcases List.mem_append.1 he with he | he
    · rw [others e.call (hnew e he)]
      exact h.past e he
    · rw [List.mem_singleton.1 he, there]
      rfl
  · by_cases hc : c' = c
    · rw [hc, there] at hq
      obtain ⟨rfl, rfl⟩ := hq
      exact ⟨_, List.mem_append_right _ (List.mem_singleton_self _), hc.symm, rfl, rfl⟩
    · rw [others c' hc] at hq
      obtain ⟨e, he, hrest⟩ := h.answers c' b q hq
      exact ⟨e, List.mem_append_left _ he, hrest⟩
  · by_cases hc : c' = c
    · rw [hc, there] at hy
      cases hy
    · rw [others c' hc] at hy
      exact h.drawn c' b q y hy

end put

/-- **A sidecar that is stored is a put at once**, made after the others. -/
theorem Ordered.put (h : Ordered s σ l w i) (hinv : FsInv s σ) {a : PutArgs} {r : ArtifactRecord} {t : Nat}
    (here : σ.calls c = .running a (.sidecar r (.synced t)))
    (hτ : τ = (σ.withDisk (σ.volume.disk.replace t (.sidecar r.artifactId))).to c (.running a (.returning r)))
    (step : Advance s c σ τ) : ∃ e w', Ordered s τ (l ++ [e]) w' true := by
  obtain ⟨u, now, rfl⟩ := h.entered.drawn c a r _ here
  have there : τ.calls c = .running a (.returning (s.newRecord a u now)) := by
    rw [hτ]
    exact Function.update_self ..
  have others : ∀ id, id ≠ newArtifactId u → τ.volume.sidecar id = σ.volume.sidecar id := by
    intro id hid
    rw [hτ]
    exact Disk.replace_file_of_ne _ t fun hp => hid (StorePath.sidecar.inj hp)
  obtain ⟨w', hw'⟩ := h.written.put hinv here step there others
  exact ⟨_, w', hw', h.entered.put here step.frame.calls there⟩

theorem FsStep.ordered (hs : FsStep s σ τ) (hinv : FsInv s σ) (h : Ordered s σ l w i) :
    ∃ l' w' i', Ordered s τ (l ++ l') w' i' := by
  cases hs with
  | call c step =>
    have hadv := hinv.callStep step
    rcases step.moves with ⟨a, r, t, here, hτ⟩ | ⟨hsidecars, hmoves⟩
    · obtain ⟨e, w', h'⟩ := h.put hinv here hτ hadv
      exact ⟨[e], w', true, h'⟩
    · refine ⟨[], w, i, ?_⟩
      rw [List.append_nil]
      refine h.quiet hsidecars hadv.frame.blobs hadv.frame.used fun c' => ?_
      by_cases hc : c' = c
      · rw [hc]
        exact hmoves
      · rw [hadv.frame.calls c' hc]
        exact .refl _
  | crash =>
    refine ⟨[], w, i, ?_⟩
    rw [List.append_nil]
    exact h.quiet (fun _ => rfl) (fun _ _ => id) (fun _ => id) fun c => .crashed _

theorem FsRun.ordered (run : FsRun s σ τ) (hinv : FsInv s σ) (h : Ordered s σ l w i) :
    ∃ l' w' i', Ordered s τ (l ++ l') w' i' := by
  induction run with
  | refl => exact ⟨[], w, i, by rwa [List.append_nil]⟩
  | step run hs ih =>
    obtain ⟨l₁, w₁, i₁, h₁⟩ := ih
    obtain ⟨l₂, w₂, i₂, h₂⟩ := hs.ordered (run.inv hinv) h₁
    rw [List.append_assoc] at h₂
    exact ⟨l₁ ++ l₂, w₂, i₂, h₂⟩

end ordered

/-! ## Reading -/

section reading
variable {v w : Volume} {i j : Bool}

/-- An identity neither has reads alike, and nothing is read. -/
theorem reads_missing {id : String} (hv : v.sidecar id = none) (hw : w.sidecar id = none)
    (hi : i = true → v.backingPresent = true) (hj : j = true → w.backingPresent = true) :
    s.stat v i id = s.stat w j id ∧ ∃ e, s.stat v i id = .error e := by
  have hlive : ∀ {u : Volume} {k : Bool} (m : String), (k = true → u.backingPresent = true) →
      s.requireLiveBacking u k m = .ok () := by
    intro u k m hk
    unfold FsStore.requireLiveBacking
    cases k with
    | false => rfl
    | true =>
      rw [hk rfl]
      rfl
  unfold FsStore.stat
  rw [hv, hw]
  cases sidecarName id with
  | error e => exact ⟨rfl, e, rfl⟩
  | ok name =>
    simp only [ok_bind]
    cases refusedName name with
    | some refusal => cases refusal <;> exact ⟨rfl, _, rfl⟩
    | none =>
      simp only [hlive _ hi, hlive _ hj, ok_bind]
      exact ⟨trivial, _, rfl⟩

omit [DecidableEq C] in
theorem Written.readsAs {σ : FsState C} {l : List (PutEntry C)} (h : Written s σ l w i) (hinv : FsInv s σ) :
    ReadsAs s σ.volume σ.initialised w i := by
  intro id
  have hexists : FsStore.exists σ.volume id = FsStore.exists w id := by
    unfold FsStore.exists
    rw [h.sidecars]
  cases hx : w.sidecar id with
  | some x =>
    obtain ⟨a, r, hst, rfl⟩ := h.stored id x hx
    have hst' : Stored s σ.volume σ.used a r :=
      hst.mono h.blobs (fun id y hy => (h.sidecars id).symm.trans hy) fun _ => id
    exact ⟨(hst'.stat _).trans (hst.stat _).symm, (hst'.get _).trans (hst.get _).symm, hexists⟩
  | none =>
    have hi : i = true → w.backingPresent = true :=
      fun hi => h.live.resolve_right (by rw [hi]; exact Bool.noConfusion)
    obtain ⟨hstat, e, he⟩ := @reads_missing s _ _ _ _ id ((h.sidecars id).symm.trans hx) hx hinv.live hi
    refine ⟨hstat, ?_, hexists⟩
    unfold FsStore.get
    rw [← hstat, he]
    rfl

end reading

omit [DecidableEq C] in
theorem Ordered.serial {l : List (PutEntry C)} {w : Volume} {i : Bool} (h : Ordered s σ l w i) (hinv : FsInv s σ) :
    Serial s σ l where
  reads := ⟨w, i, h.written.inOrder, h.written.readsAs hinv⟩
  once := h.entered.once
  past := h.entered.past
  returned c a r hr := h.entered.answers c a r (by rw [hr]; exact ⟨rfl, rfl⟩)

/-- Whatever the interleaving, the failures and the crashes: the puts so far are in an order, which stays
as it is while the run goes on. -/
theorem puts_are_serial (reached : FsRun s (.start C) σ) :
    ∃ l, Serial s σ l ∧ ∀ τ, FsRun s σ τ → ∃ l', Serial s τ (l ++ l') := by
  obtain ⟨l, w, i, h⟩ := reached.ordered .start .start
  rw [List.nil_append] at h
  have hinv := reached.inv .start
  refine ⟨l, h.serial hinv, fun τ later => ?_⟩
  obtain ⟨l', w', i', h'⟩ := later.ordered hinv h
  exact ⟨l', h'.serial (later.inv hinv)⟩

end order

/-- Another put of the same bytes. -/
def twinPut : PutArgs := ⟨[1], "text/plain", "two.txt", none⟩

def twinUuid : UuidHex := ⟨String.ofList (List.replicate 32 'b'), by decide, by decide⟩

def twinRecord : ArtifactRecord := collidingStore.newRecord twinPut twinUuid firstRecord.registeredAt

/-- What the two puts store: the blob they share, and their sidecars. -/
theorem twinPuts_run : ∃ σ : FsState Bool, FsRun collidingStore (.start Bool) σ ∧
    σ.calls false = .returned firstPut firstRecord ∧ σ.calls true = .returned twinPut twinRecord := by
  let now : Py.DateTime := ⟨2026, 9, 4, 12, 0, 0, 0, by decide⟩
  have hfirst : collidingStore.checkPut firstPut = .ok () := by decide
  have htwin : collidingStore.checkPut twinPut = .ok () := by decide
  -- the twin is called, and the first one makes the layout and stores the blob
  let σ₁ : FsState Bool := (FsState.start Bool).to true (.running twinPut .checking)
  have r1 : FsRun collidingStore (.start Bool) σ₁ := .step (.refl _) (.call true (.call _ twinPut rfl htwin))
  have r2 : FsRun collidingStore σ₁ (σ₁.at false .empty false none [] (.running firstPut .checking)) :=
    .step (.refl _) (.call false (.call σ₁ firstPut rfl hfirst))
  have hlayout : collidingStore.backing .empty false now = .ok (initialise .empty now) := rfl
  obtain ⟨w, hw, r3⟩ := r2.backing hlayout
  have hstore : collidingStore.storeBlob (initialise .empty now) firstPut = .ok _ := rfl
  obtain ⟨w₁, hw₁, r4⟩ := r3.storeBlob hstore hw
  -- the twin finds both, and registers
  let σ₂ : FsState Bool := σ₁.at false w₁ true none [] (.running firstPut .recording)
  have r5 : FsRun collidingStore σ₂ (σ₂.at true w₁ true none [] (.running twinPut .checking)) := by
    have hself : σ₂ = σ₂.at true w₁ true none [] (.running twinPut .checking) := FsState.at_self rfl
    rw [← hself]
    exact .refl σ₂
  have hpresent : w₁.backingPresent = true := by
    unfold Volume.backingPresent
    rw [hw₁.root, hw₁.blobsDir, hw₁.indexDir, hw₁.file]
    rfl
  have hblob : w₁.blob (collidingStore.computed twinPut) = some [1] := (hw₁.blob _).trans rfl
  have hthere : collidingStore.backing w₁ true now = .ok w₁ := if_pos hpresent
  have hsame : collidingStore.storeBlob w₁ twinPut = .ok w₁ := by
    unfold FsStore.storeBlob
    rw [hblob]
    rfl
  obtain ⟨w₂, hw₂, r6⟩ := r5.backing hthere
  obtain ⟨w₃, hw₃, r7⟩ := r6.storeBlob hsame hw₂
  obtain ⟨w₄, r8⟩ : ∃ w', FsRun collidingStore σ₂
      (σ₂.at true w' true none [newArtifactId twinUuid] (.returned twinPut twinRecord)) :=
    (FsRun.register hw₃ List.not_mem_nil r7).imp fun _ h => h.2
  -- then the first one registers
  let σ₃ : FsState Bool := σ₂.at true w₄ true none [newArtifactId twinUuid] (.returned twinPut twinRecord)
  have r9 : FsRun collidingStore σ₃
    (σ₃.at false w₄ true none [newArtifactId twinUuid] (.running firstPut .recording)) := by
    have hself : σ₃ = σ₃.at false w₄ true none [newArtifactId twinUuid] (.running firstPut .recording) :=
      FsState.at_self rfl
    rw [← hself]
    exact .refl σ₃
  obtain ⟨w₅, r10⟩ : ∃ w', FsRun collidingStore σ₃
      (σ₃.at false w' true none [newArtifactId firstUuid, newArtifactId twinUuid]
        (.returned firstPut firstRecord)) :=
    (FsRun.register (.refl w₄) (by decide) r9).imp fun _ h => h.2
  exact ⟨_, ((r1.trans r4).trans r8).trans r10, FsState.at_calls .., rfl⟩

/-- Both are in the order. -/
theorem twinPuts_are_serial : ∃ (σ : FsState Bool) (l : List (PutEntry Bool)),
    FsRun collidingStore (.start Bool) σ ∧
    Serial collidingStore σ l ∧ (∃ e ∈ l, e.call = false ∧ e.args = firstPut) ∧
    (∃ e ∈ l, e.call = true ∧ e.args = twinPut) ∧
    ∀ τ, FsRun collidingStore σ τ → ∃ l', Serial collidingStore τ (l ++ l') := by
  obtain ⟨σ, run, hfirst, htwin⟩ := twinPuts_run
  obtain ⟨l, h, hlater⟩ := puts_are_serial run
  obtain ⟨e, he, hcall, hargs, _⟩ := h.returned false _ _ hfirst
  obtain ⟨e', he', hcall', hargs', _⟩ := h.returned true _ _ htwin
  exact ⟨σ, l, run, h, ⟨e, he, hcall, hargs⟩, ⟨e', he', hcall', hargs'⟩, hlater⟩

end Cer
