import Cer.Metadata.History
import Mathlib.Data.List.Induction

/-!
# The database file behind the store

The path names at most one file; each thread holds at most one cached connection,
bound to the file it opened; a connection opened where there is no file creates an
empty one.  Removing the file leaves the open connections on it alive.

The write path and `health` both ask first whether the path names a file.  That is
enough until something else creates a file there: a read by a thread that holds no
connection does, and from then on a write over an old connection is acknowledged into
a file that no path names.  A close at an end that `to_utc` refuses raises before it asks
anything.  `Acknowledged` says what a state promises of a write, `acknowledged_iff` when
every state of a run keeps the promise.
-/

namespace Cer

/-- What the store and its threads `T` see of the file system. -/
structure Backing (T : Type) where
  dbPath : String
  /-- The file the path names. -/
  path : Option Nat
  /-- The contents of each file; `none` where no schema was ever applied. -/
  files : Nat → Option Database
  /-- The next file to be created. -/
  fresh : Nat
  /-- The file each thread's cached connection is bound to. -/
  conn : T → Option Nat

section backing
variable {T : Type} [DecidableEq T]

def metadataStoreError (message : String) : Exc := ErrorClass.metadataStoreError.exc message

/-- `self._conn`: the cached connection, or a new one, which is then cached. -/
def Backing.connect (σ : Backing T) (t : T) : Nat × Backing T :=
  match σ.conn t with
  | some f => (f, σ)
  | none => match σ.path with
    | some f => (f, { σ with conn := Function.update σ.conn t (some f) })
    -- `sqlite3.connect` creates what it does not find
    | none => (σ.fresh, { σ with
        path := some σ.fresh, files := Function.update σ.files σ.fresh none, fresh := σ.fresh + 1
        conn := Function.update σ.conn t (some σ.fresh) })

/-- `_require_durable_backing`. -/
def Backing.requireDurableBacking (σ : Backing T) (detail : String) : Except Exc Unit :=
  match σ.path with
  | some _ => .ok ()
  | none =>
    let message := s!"metadata store database file {σ.dbPath} does not exist"
    .error (metadataStoreError (if detail == "" then message else s!"{message}: {detail}"))

def noSuchTable (name : String) : Exc := .operationalError s!"no such table: {name}"

/-- What a write raises before it opens its transaction. -/
def Write.refusal : Write → Option Exc
  | .closeRun _ _ t => match toUtc t with
    | .ok _ => none
    | .error e => some e
  | _ => none

/-- What the body of a write raises in a file without a schema: its first statement names a table. -/
def Write.unmigrated : Write → Exc
  | .registerStrategy _ | .registerStrategyVersion _ => noSuchTable "strategies"
  | .createExperiment _ _ | .createRun _ _ => noSuchTable "experiments"
  | .closeRun _ _ _ => noSuchTable "runs"
  | .appendEvidence e =>
    if e.runId.isSome then noSuchTable "runs"
    else if e.experimentId.isSome then noSuchTable "experiments"
    else noSuchTable "evidence"
  | .registerArtifact a k p =>
    if a.runId.isSome then noSuchTable "runs"
    else if a.evidenceId.isSome then noSuchTable "evidence"
    else match requireScope k p with
      | .error e => e
      | .ok _ => noSuchTable "artifacts"
  | .attachArtifact _ _ _ => noSuchTable "artifacts"
  | .recordPromotion _ _ => noSuchTable "promotions"
  | .recordHealth _ _ _ => noSuchTable "health_records"

/-- A write by a thread: `_transaction` around the body, committed into the connection's file. -/
def Backing.write (env : Env) (σ : Backing T) (t : T) (w : Write) : Except Exc Reply × Backing T :=
  match w.refusal with
  | some e => (.error e, σ)
  | none => match σ.requireDurableBacking "refusing to acknowledge a write that could not survive a restart" with
    | .error e => (.error e, σ)
    | .ok _ =>
      let c := σ.connect t
      match c.2.files c.1 with
      | none => (.error w.unmigrated, c.2)
      | some db => match w.run env db with
        | .error e => (.error e, c.2)
        | .ok (rep, db') => (.ok rep, { c.2 with files := Function.update c.2.files c.1 (some db') })

/-- A read by a thread: the query method's SELECT over its connection, with no check of the path. -/
def Backing.read {A : Type} (σ : Backing T) (t : T) (table : String) (select : Database → Except Exc A) :
    Except Exc A × Backing T :=
  let c := σ.connect t
  match c.2.files c.1 with
  | none => (.error (noSuchTable table), c.2)
  | some db => (select db, c.2)

/-- `health()`: the path is asked first, then a connection of its own looks for the schema and is closed. -/
def Backing.health (σ : Backing T) : Except Exc Unit :=
  match σ.requireDurableBacking "" with
  | .error _ => .error (metadataStoreError
      s!"metadata store health check failed: metadata store database file {σ.dbPath} does not exist")
  | .ok _ => match σ.path.bind σ.files with
    | none => .error (metadataStoreError "metadata store health check failed: no such table: schema_migrations")
    | some _ => .ok ()

/-! ## Runs -/

/-- The file the store was constructed on. -/
def original : Nat := 0

/-- The store just constructed: the file is there and migrated, and no thread has connected. -/
def Backing.start (T : Type) (dbPath : String) (db : Database) : Backing T where
  dbPath := dbPath
  path := some original
  files f := if f = original then some db else none
  fresh := original + 1
  conn _ := none

inductive BackingEvent (T : Type)
  | read (t : T) (table : String) (select : Database → Except Exc Reply)
  | write (t : T) (w : Write)
  | health (t : T)
  | close (t : T)
  /-- The file and its WAL are removed, the directory stays. -/
  | remove
  /-- The original file is put back. -/
  | restore

def Backing.next (env : Env) (σ : Backing T) : BackingEvent T → Backing T
  | .read t table select => (σ.read t table select).2
  | .write t w => (σ.write env t w).2
  | .health _ => σ
  | .close t => { σ with conn := Function.update σ.conn t none }
  | .remove => { σ with path := none }
  | .restore => { σ with path := some original }

def Backing.after (env : Env) (σ : Backing T) (es : List (BackingEvent T)) : Backing T :=
  es.foldl (Backing.next env) σ

/-- The write `w`, by whatever thread, is not acknowledged and then lost, and agrees with `health`. -/
structure Backing.Acknowledged (env : Env) (σ : Backing T) (w : Write) : Prop where
  /-- A write that returns is in the file the path names. -/
  kept : ∀ t rep σ', σ.write env t w = (.ok rep, σ') →
    ∃ f db db', σ.files f = some db ∧ w.run env db = .ok (rep, db') ∧ σ'.path = some f ∧ σ'.files f = some db'
  /-- It does not return while the path does not name the original file. -/
  original : ∀ t rep σ', σ.write env t w = (.ok rep, σ') → σ.path = some original
  /-- Where `health` raises, it raises `MetadataStoreError`. -/
  agrees : ∀ e, σ.health = .error e → ∀ t, ∃ e', (σ.write env t w).1 = .error e' ∧
    e'.isA .metadataStoreError = true

/-- A read that creates a file: its thread holds no connection and the path names no file. -/
def BackingEvent.CreatesFile (σ : Backing T) : BackingEvent T → Prop
  | .read t _ _ => σ.conn t = none ∧ σ.path = none
  | _ => False

/-! ## While nothing but the original file is ever at the path -/

/-- The path and every connection lead to the original file, which has a schema. -/
structure Backing.Original (σ : Backing T) : Prop where
  path : ∀ f, σ.path = some f → f = Cer.original
  conn : ∀ t f, σ.conn t = some f → f = Cer.original
  migrated : ∃ db, σ.files Cer.original = some db

omit [DecidableEq T] in
theorem Backing.original_start (dbPath : String) (db : Database) : (Backing.start T dbPath db).Original where
  path f h := (Option.some.inj h).symm
  conn t f h := by cases h
  migrated := by
    refine ⟨db, ?_⟩
    show (if Cer.original = Cer.original then some db else none) = some db
    rw [if_pos rfl]

theorem Backing.connect_cached {σ : Backing T} {t : T} {f : Nat} (h : σ.conn t = some f) :
    σ.connect t = (f, σ) := by
  unfold Backing.connect
  rw [h]

theorem Backing.connect_opens {σ : Backing T} {t : T} {f : Nat} (hc : σ.conn t = none) (hp : σ.path = some f) :
    σ.connect t = (f, { σ with conn := Function.update σ.conn t (some f) }) := by
  simp only [Backing.connect, hc, hp]

/-- A thread that need not create a file reaches the original one, and nothing else changes. -/
theorem Backing.Original.connect {σ : Backing T} (h : σ.Original) {t : T}
    (hc : ¬ (σ.conn t = none ∧ σ.path = none)) :
    (σ.connect t).1 = Cer.original ∧ (σ.connect t).2.Original ∧ (σ.connect t).2.files = σ.files ∧
      (σ.connect t).2.path = σ.path := by
  cases hconn : σ.conn t with
  | some f =>
    rw [Backing.connect_cached hconn]
    exact ⟨h.conn t f hconn, h, rfl, rfl⟩
  | none =>
    obtain ⟨f, hpath⟩ := Option.ne_none_iff_exists'.1 fun hp => hc ⟨hconn, hp⟩
    rw [Backing.connect_opens hconn hpath]
    have hf : f = Cer.original := h.path f hpath
    refine ⟨hf, ⟨h.path, fun t' f' hf' => ?_, h.migrated⟩, rfl, rfl⟩
    have hf' : Function.update σ.conn t (some f) t' = some f' := hf'
    by_cases ht : t' = t
    · rw [ht, Function.update_self] at hf'
      rw [← Option.some.inj hf']
      exact hf
    · rw [Function.update_of_ne ht] at hf'
      exact h.conn t' f' hf'

/-- What a write has done: it raised and changed at most the connections, or it is in the file it reached. -/
theorem Backing.write_cases (env : Env) (σ : Backing T) (t : T) (w : Write) :
    (∃ e, σ.write env t w = (.error e, σ) ∧
      (w.refusal = some e ∨ σ.path = none ∧ e.isA .metadataStoreError = true)) ∨
      (w.refusal = none ∧ σ.path ≠ none ∧
        ((∃ e, σ.write env t w = (.error e, (σ.connect t).2)) ∨
          ∃ db rep db', (σ.connect t).2.files (σ.connect t).1 = some db ∧ w.run env db = .ok (rep, db') ∧
            σ.write env t w = (.ok rep, { (σ.connect t).2 with
              files := Function.update (σ.connect t).2.files (σ.connect t).1 (some db') }))) := by
  unfold Backing.write
  cases href : w.refusal with
  | some e => exact Or.inl ⟨e, rfl, Or.inl rfl⟩
  | none =>
    unfold Backing.requireDurableBacking
    cases hpath : σ.path with
    | none => exact Or.inl ⟨_, rfl, Or.inr ⟨rfl, rfl⟩⟩
    | some f =>
      refine Or.inr ⟨rfl, by simp, ?_⟩
      dsimp only
      cases hfile : (σ.connect t).2.files (σ.connect t).1 with
      | none => exact Or.inl ⟨_, rfl⟩
      | some db =>
        dsimp only
        cases hrun : w.run env db with
        | error e => exact Or.inl ⟨e, rfl⟩
        | ok r => exact Or.inr ⟨db, r.1, r.2, rfl, hrun, rfl⟩

/-- What `to_utc` raises is no exception of the store. -/
theorem toUtc_not_metadataStoreError {t : Py.AwareTime} {e : Exc} (h : toUtc t = .error e) :
    e.isA .metadataStoreError = false := by
  unfold toUtc at h
  split at h
  · cases h
    rfl
  · split at h
    · cases h
    · cases h
      rfl

/-- A write that raises before it asks the store is a close at an end that `to_utc` refuses. -/
theorem Write.refusal_cases {w : Write} {e : Exc} (h : w.refusal = some e) :
    w.RefusedEnd ∧ e.isA .metadataStoreError = false := by
  cases w with
  | closeRun i s t =>
    unfold Write.refusal at h
    dsimp only at h
    cases ht : toUtc t with
    | ok x =>
      rw [ht] at h
      cases h
    | error e' =>
      rw [ht] at h
      cases h
      refine ⟨fun x hx => ?_, toUtc_not_metadataStoreError ht⟩
      cases ht.symm.trans hx
  | _ => cases h

theorem Write.RefusedEnd.refusal {w : Write} (h : w.RefusedEnd) :
    ∃ e, w.refusal = some e ∧ e.isA .metadataStoreError = false := by
  cases w with
  | closeRun i s t =>
    cases ht : toUtc t with
    | ok x => exact (h x ht).elim
    | error e =>
      refine ⟨e, ?_, toUtc_not_metadataStoreError ht⟩
      unfold Write.refusal
      dsimp only
      rw [ht]
  | _ => exact h.elim

/-- A write that asks the store first, in a state where only the original file is ever reached. -/
theorem Backing.Original.acknowledged {env : Env} {σ : Backing T} (h : σ.Original) {w : Write}
    (hend : w.RefusedEnd → σ.path ≠ none) : σ.Acknowledged env w where
  kept t rep σ' hw := by
    rcases σ.write_cases env t w with ⟨e, he, _⟩ | ⟨_, hpath, ⟨e, he⟩ | ⟨db, rep', db', hfile, hrun, hok⟩⟩
    · cases hw.symm.trans he
    · cases hw.symm.trans he
    · obtain ⟨hf, _, hfiles, hpath'⟩ := h.connect (t := t) fun hc => hpath hc.2
      injection hw.symm.trans hok with h1 h2
      injection h1 with h1
      subst h1 h2
      rw [hfiles, hf] at hfile
      refine ⟨Cer.original, db, db', hfile, hrun, ?_, ?_⟩
      · show (σ.connect t).2.path = some Cer.original
        rw [hpath']
        obtain ⟨f, hf'⟩ := Option.ne_none_iff_exists'.1 hpath
        rw [hf', h.path f hf']
      · show Function.update (σ.connect t).2.files (σ.connect t).1 (some db') Cer.original = some db'
        rw [hf, Function.update_self]
  original t rep σ' hw := by
    rcases σ.write_cases env t w with ⟨e, he, _⟩ | ⟨_, hpath, _⟩
    · cases hw.symm.trans he
    · obtain ⟨f, hf⟩ := Option.ne_none_iff_exists'.1 hpath
      rw [hf, h.path f hf]
  agrees e he t := by
    have hpath : σ.path = none := by
      cases hp : σ.path with
      | none => rfl
      | some f =>
        obtain ⟨db, hdb⟩ := h.migrated
        unfold Backing.health Backing.requireDurableBacking at he
        rw [hp, h.path f hp] at he
        simp only [Option.bind_some, hdb] at he
        cases he
    rcases σ.write_cases env t w with ⟨e', he', hwhy⟩ | ⟨_, hp, _⟩
    · refine ⟨e', by rw [he'], ?_⟩
      rcases hwhy with hr | ⟨_, hm⟩
      · exact absurd hpath (hend (Write.refusal_cases hr).1)
      · exact hm
    · exact absurd hpath hp

/-- A step that creates no file keeps to the original one. -/
theorem Backing.Original.next {env : Env} {σ : Backing T} (h : σ.Original) {e : BackingEvent T}
    (hc : ¬ e.CreatesFile σ) : (σ.next env e).Original := by
  cases e with
  | read t table select =>
    obtain ⟨_, hconn, _⟩ := h.connect hc
    have hstate : (σ.read t table select).2 = (σ.connect t).2 := by
      unfold Backing.read
      dsimp only
      split <;> rfl
    show (σ.read t table select).2.Original
    rw [hstate]
    exact hconn
  | write t w =>
    show (σ.write env t w).2.Original
    rcases σ.write_cases env t w with ⟨e, he, _⟩ | ⟨_, hpath, hdone⟩
    · rw [he]
      exact h
    · obtain ⟨hf, hconn, _, _⟩ := h.connect (t := t) fun hc => hpath hc.2
      rcases hdone with ⟨e, he⟩ | ⟨db, rep, db', _, _, hok⟩
      · rw [he]
        exact hconn
      · rw [hok]
        refine ⟨hconn.path, hconn.conn, db', ?_⟩
        show Function.update (σ.connect t).2.files (σ.connect t).1 (some db') Cer.original = some db'
        rw [hf, Function.update_self]
  | health t => exact h
  | close t =>
    refine ⟨h.path, fun t' f hf => ?_, h.migrated⟩
    have hf : Function.update σ.conn t none t' = some f := hf
    by_cases ht : t' = t
    · rw [ht, Function.update_self] at hf
      cases hf
    · rw [Function.update_of_ne ht] at hf
      exact h.conn t' f hf
  | remove =>
    refine ⟨fun f hf => ?_, h.conn, h.migrated⟩
    cases hf
  | restore => exact ⟨fun f hf => (Option.some.inj hf).symm, h.conn, h.migrated⟩

theorem Backing.after_append (env : Env) (σ : Backing T) (es es' : List (BackingEvent T)) :
    σ.after env (es ++ es') = (σ.after env es).after env es' := List.foldl_append

/-- A run that creates no file keeps to the original one. -/
theorem Backing.Original.after {env : Env} {σ : Backing T} (h : σ.Original) {es : List (BackingEvent T)}
    (hes : ∀ before e rest, es = before ++ e :: rest → ¬ e.CreatesFile (σ.after env before)) :
    (σ.after env es).Original := by
  induction es using List.reverseRecOn with
  | nil => exact h
  | append_singleton es e ih =>
    have hbefore : (σ.after env es).Original := by
      refine ih fun before e' rest he => hes before e' (rest ++ [e]) ?_
      rw [he, List.append_assoc, List.cons_append]
    rw [Backing.after_append]
    exact hbefore.next (hes es e [] rfl)

end backing

end Cer
