import Cer.Api.Registration
import Cer.Artifacts.Integrity
import Cer.Artifacts.Startup

/-!
# Runs of the artifact registry

Processes start and stop, registrations are interleaved call by call and may stop after any
of them, other requests write to the metadata store, and the artifact volume may be lost and
put back.  `PostState` remembers beside the two stores which request created which row.
-/

namespace Cer.Api

open Py

/-! ## States and events -/

structure PostState (C : Type) where
  volume : Volume
  /-- The running process's `_initialised`. -/
  process : Option Bool
  db : Database
  /-- The volume as it was when it was last lost. -/
  lost : Volume
  /-- The identities minted so far. -/
  used : List String
  posts : C → Option (ArtifactPost × PostStage)
  arrived : List ArtifactPost
  /-- The rows ever inserted, by their identity, and the requests that inserted them. -/
  created : List (String × ArtifactPost)

inductive PostEvent (C : Type)
  /-- A process starts; its query of the metadata store raises, or is answered. -/
  | start (failure : Option Exc) (now : DateTime)
  | stop
  | arrive (c : C) (post : ArtifactPost)
  /-- The request's next call of a store. -/
  | call (c : C) (draw : Draw)
  | crash (c : C)
  /-- Another request's write, an attachment for one. -/
  | write (w : Write)
  | health
  | lose
  | restore

def PostState.start (C : Type) : PostState C :=
  { volume := .empty, process := none, db := .empty, lost := .empty, used := [],
    posts := fun _ => none, arrived := []
    created := [] }

section system
variable {C : Type} [DecidableEq C] (store : FsStore)

def PostState.stores (σ : PostState C) (initialised : Bool) : Stores := ⟨σ.volume, initialised, σ.db⟩

/-- What a call mints. -/
def PostStage.minted (draw : Draw) : PostStage → List String
  | .storing _ => [newArtifactId draw.uuid4]
  | _ => []

/-- The row a call inserted. -/
def PostStage.inserted (db db' : Database) : PostStage → List String
  | .registering _ record => if db.artifacts.length < db'.artifacts.length then [record.artifactId] else []
  | _ => []

def PostState.called (σ : PostState C) (c : C) (post : ArtifactPost) (stage : PostStage) (initialised : Bool)
    (draw : Draw) : PostState C :=
  let next := stage.next store draw (σ.stores initialised)
  { σ with
    volume := next.2.volume, process := some next.2.initialised, db := next.2.db
    used := stage.minted draw ++ σ.used
    posts := Function.update σ.posts c (some (post, next.1))
    created := (stage.inserted σ.db next.2.db).map (fun id => (id, post)) ++ σ.created }

/-- The requests in flight end with their process. -/
def endPost : Option (ArtifactPost × PostStage) → Option (ArtifactPost × PostStage)
  | some (post, .answered result) => some (post, .answered result)
  | _ => none

/-- One event. -/
inductive PostStep : PostState C → PostEvent C → PostState C → Prop
  | start (σ : PostState C) (failure : Option Exc) (now : DateTime) (stopped : σ.process = none) :
    PostStep σ (.start failure now)
      { σ with
        volume := (initialiseArtifactStoreIfSafe store
          (failure.elim (queryArtifacts σ.db none none 1 0) .error) σ.volume now).volume
        process := some (initialiseArtifactStoreIfSafe store
          (failure.elim (queryArtifacts σ.db none none 1 0) .error) σ.volume now).initialised }
  | stop (σ : PostState C) : PostStep σ .stop { σ with process := none, posts := fun c => endPost (σ.posts c) }
  | arrive (σ : PostState C) (c : C) (post : ArtifactPost) (initialised : Bool)
    (running : σ.process = some initialised)
    (idle : σ.posts c = none) (bytes : post.data.length < 2 ^ 63) : PostStep σ (.arrive c post)
      { σ with
        posts := Function.update σ.posts c (some (post, post.arrive store.maxBytes)),
        arrived := post :: σ.arrived }
  | call (σ : PostState C) (c : C) (draw : Draw) (post : ArtifactPost) (stage : PostStage) (initialised : Bool)
    (running : σ.process = some initialised) (pending : σ.posts c = some (post, stage))
    (unanswered : stage.result = none)
    (fresh : newArtifactId draw.uuid4 ∉ σ.used) :
    PostStep σ (.call c draw) (σ.called store c post stage initialised draw)
  | crash (σ : PostState C) (c : C) : PostStep σ (.crash c)
      { σ with posts := Function.update σ.posts c (endPost (σ.posts c)) }
  | write (σ : PostState C) (w : Write) (initialised : Bool) (running : σ.process = some initialised)
    (valid : w.Valid)
    (other : ∀ a k p, w ≠ .registerArtifact a k p) (rep : Reply) (db : Database)
    (run : w.run store.env σ.db = .ok (rep, db)) : PostStep σ (.write w) { σ with db := db }
  | health (σ : PostState C) (initialised : Bool) (running : σ.process = some initialised) :
    PostStep σ .health { σ with process := some (store.health σ.volume initialised).2 }
  | lose (σ : PostState C) (present : σ.volume.backingPresent = true) :
    PostStep σ .lose { σ with volume := .empty, lost := σ.volume }
  | restore (σ : PostState C) (absent : σ.volume.backingPresent = false) :
    PostStep σ .restore { σ with volume := σ.lost }

/-- A run whose events all satisfy `ok`. -/
inductive PostRun (ok : PostState C → PostEvent C → Prop) : PostState C → PostState C → Prop
  | refl (σ : PostState C) : PostRun ok σ σ
  | step {σ τ υ : PostState C} {e : PostEvent C} (run : PostRun ok σ τ) (good : ok τ e)
      (step : PostStep store τ e υ) :
    PostRun ok σ υ

/-! ## What a call leaves -/

section called
variable {store} {σ : PostState C} {c : C} {draw : Draw} {post : ArtifactPost} {i : Bool}

theorem inserted_self (db : Database) (stage : PostStage) : stage.inserted db db = [] := by
  cases stage with
  | registering u record => exact if_neg (Nat.lt_irrefl _)
  | _ => rfl

/-- The stores are as they were. -/
theorem called_same {stage next : PostStage} (h : stage.next store draw (σ.stores i) = (next, σ.stores i))
    (hminted : stage.minted draw = []) : σ.called store c post stage i draw =
      { σ with process := some i, posts := Function.update σ.posts c (some (post, next)) } := by
  unfold PostState.called
  rw [h]
  dsimp only [PostState.stores]
  rw [hminted, inserted_self]
  rfl

/-- A put has answered. -/
theorem called_put {u : Upload} {r : ArtifactRecord} {w : Volume} {j : Bool}
    (h : store.put σ.volume i u.args draw.uuid4 draw.now = (.ok r, w, j)) :
    σ.called store c post (.storing u) i draw =
      { σ with
        volume := w, process := some j, used := newArtifactId draw.uuid4 :: σ.used
        posts := Function.update σ.posts c (some (post, .registering u (u.attached r))) } := by
  have hnext : (PostStage.storing u).next store draw (σ.stores i) =
    (.registering u (u.attached r), ⟨w, j, σ.db⟩) :=
    next_storing_ok h
  unfold PostState.called
  rw [hnext]
  rfl

/-- A put has raised. -/
theorem called_put_error {u : Upload} {e : Exc} {w : Volume} {j : Bool}
    (h : store.put σ.volume i u.args draw.uuid4 draw.now = (.error e, w, j)) :
    σ.called store c post (.storing u) i draw =
      { σ with
        volume := w, process := some j, used := newArtifactId draw.uuid4 :: σ.used
        posts := Function.update σ.posts c (some (post, .answered (.error e))) } := by
  have hnext : (PostStage.storing u).next store draw (σ.stores i) = (.answered (.error e), ⟨w, j, σ.db⟩) :=
    next_storing_error h
  unfold PostState.called
  rw [hnext]
  rfl

/-- A registration has inserted its row. -/
theorem called_inserted {u : Upload} {record a : ArtifactRecord} {row : ArtifactRow}
    (h : registerArtifact store.env σ.db record (u.scope.map Prod.snd) (u.scope.map Prod.fst) =
      .ok (a, { σ.db with artifacts := σ.db.artifacts ++ [row] })) :
    σ.called store c post (.registering u record) i draw =
      { σ with
        process := some i, db := { σ.db with artifacts := σ.db.artifacts ++ [row] }
        posts := Function.update σ.posts c (some (post, .answered (.ok a)))
        created := (record.artifactId, post) :: σ.created } := by
  have hnext : (PostStage.registering u record).next store draw (σ.stores i) =
      (.answered (.ok a),
        ⟨σ.volume, i, { σ.db with artifacts := σ.db.artifacts ++ [row] }⟩) := next_registering_ok h
  have hlength : σ.db.artifacts.length < (σ.db.artifacts ++ [row]).length := by simp
  unfold PostState.called
  rw [hnext]
  dsimp only [PostStage.inserted]
  rw [if_pos hlength]
  rfl

end called

/-- A process that starts over nothing makes the layout. -/
theorem PostStep.deploy (now : DateTime) : PostStep store (.start C) (.start none now)
    { PostState.start C with volume := initialise .empty now, process := some true } := by
  have hwf : WellFormed store.env .empty := Reachable.wellFormed (.refl _)
  have hstart : initialiseArtifactStoreIfSafe store (queryArtifacts .empty none none 1 0) .empty now =
      ⟨initialise .empty now, true⟩ := by
    rw [start_absent rfl, holds_of_query hwf]
    rfl
  have hstep := @PostStep.start C _ store (PostState.start C) none now rfl
  have hquery : (none : Option Exc).elim (queryArtifacts (PostState.start C).db none none 1 0) .error =
      queryArtifacts .empty none none 1 0 := rfl
  have hvolume : (PostState.start C).volume = .empty := rfl
  rw [hquery, hvolume, hstart] at hstep
  exact hstep

end system

end Cer.Api
