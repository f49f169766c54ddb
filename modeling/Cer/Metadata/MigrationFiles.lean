import Cer.Lib.Numerals
import Cer.Lib.Paging
import Cer.Metadata.Migrations
import Cer.Runtime.Env

/-!
# The files of the schema directory

`_load_migrations` reads every file as text, so that its newlines are translated before
the checksum is taken, and `apply_migrations` checks the recorded files and executes the
others in one pass over the version numbers.  `edits_are_caught_iff` says which edits of a
recorded file are caught before anything is executed.
-/

namespace Cer

open Py

/-! ## Reading a file -/

/-- A file of the schema directory, by the text its bytes are the UTF-8 of. -/
structure SchemaFile where
  name : String
  text : String
deriving DecidableEq

def SchemaFile.bytes (f : SchemaFile) : List UInt8 := encodeUtf8 f.text

def lineFeed : Char := Char.ofNat 10
def carriageReturn : Char := Char.ofNat 13

/-- The newlines of a file opened as text: a carriage return, with the line feed that may follow it,
is a line feed. -/
def universalNewlines : List Char → List Char
  | [] => []
  | [c] => [if c = carriageReturn then lineFeed else c]
  | c :: d :: cs =>
    if c = carriageReturn then
      if d = lineFeed then lineFeed :: universalNewlines cs else lineFeed :: universalNewlines (d :: cs)
    else c :: universalNewlines (d :: cs)

/-- `path.read_text(encoding="utf-8")` of a file whose bytes are the UTF-8 of `text`. -/
def readText (text : String) : String := String.ofList (universalNewlines text.toList)

theorem encodeUtf8_inj {a b : String} (h : encodeUtf8 a = encodeUtf8 b) : a = b := by
  unfold encodeUtf8 at h
  have harr : a.toUTF8.data = b.toUTF8.data := Array.toList_inj.1 h
  exact String.toByteArray_inj.1 (ByteArray.ext harr)

/-! ## `_load_migrations` -/

/-- `[A-Za-z0-9_]`. -/
def isWordChar (c : Char) : Bool :=
  ('A' ≤ c && c ≤ 'Z') || ('a' ≤ c && c ≤ 'z') || ('0' ≤ c && c ≤ '9') || c == '_'

/-- The first group of `^(\d+)_[A-Za-z0-9_]+\.sql$`; the dollar stands before a last line feed too. -/
def migrationFilename (name : List Char) : Option (List Char) :=
  let digits := name.takeWhile fun c => (decimalDigit c).isSome
  match name.drop digits.length with
  | [] => none
  | u :: rest =>
    let word := rest.takeWhile isWordChar
    let suffix := rest.drop word.length
    if digits ≠ [] ∧ u = '_' ∧ word ≠ [] ∧ (suffix = ".sql".toList ∨ suffix = ".sql".toList ++ [lineFeed]) then
      some digits
    else none

/-- `_Migration`. -/
structure LoadedMigration where
  version : Nat
  filename : String
  sql : String
  checksum : String
deriving DecidableEq

structure SchemaDirectory where
  path : String
  /-- The files, where the directory exists. -/
  files : Option (List SchemaFile)
  names : ((files.getD []).map (·.name)).Nodup

/-- `schema_dir.glob("*.sql")`. -/
def SchemaDirectory.sqlFiles (dir : SchemaDirectory) : List SchemaFile :=
  (dir.files.getD []).filter fun f => ".sql".toList.isSuffixOf f.name.toList

section load
variable (env : Env)

def SchemaFile.load (f : SchemaFile) : Except Exc LoadedMigration :=
  match migrationFilename f.name.toList with
  | none => .error (ErrorClass.metadataStoreError.exc
      (s!"migration file {Py.repr f.name} does not match the required naming " ++
        "convention '<version>_<description>.sql'"))
  | some digits => match intOfDigits digits with
    | .error m => .error (.valueError m)
    | .ok version => .ok ⟨version, f.name, readText f.text, env.digest (readText f.text)⟩

/-- The files' names as versions, for the message. -/
def versionList (versions : List Nat) : String := "[" ++ ", ".intercalate (versions.map toString) ++ "]"

def loadMigrations (dir : SchemaDirectory) : Except Exc (List LoadedMigration) :=
  match dir.files with
  | none => .error (ErrorClass.metadataStoreError.exc s!"migration schema directory {dir.path} does not exist")
  | some _ => do
    let migrations ← (dir.sqlFiles.mergeSort fun a b => decide (a.name ≤ b.name)).mapM (SchemaFile.load env)
    let versions := migrations.map (·.version)
    if versions.Nodup then .ok (migrations.mergeSort fun a b => decide (a.version ≤ b.version))
    else .error (ErrorClass.metadataStoreError.exc
      s!"duplicate migration version numbers found in {dir.path}: {versionList (versions.mergeSort fun a b => decide (a ≤ b))}")

/-- A migration of the directory. -/
def InDirectory (dir : SchemaDirectory) (m : LoadedMigration) : Prop := ∃ f ∈ dir.sqlFiles, f.load env = .ok m

/-- Every `.sql` file has a well-formed name, and no two have the same number. -/
structure WellNamed (dir : SchemaDirectory) : Prop where
  present : dir.files.isSome = true
  loads : ∀ f ∈ dir.sqlFiles, ∃ m, f.load env = .ok m
  distinct : ∀ f ∈ dir.sqlFiles, ∀ g ∈ dir.sqlFiles, ∀ m n, f.load env = .ok m → g.load env = .ok n →
    m.version = n.version → f = g

variable {env}

theorem load_mapM {files : List SchemaFile} (h : ∀ f ∈ files, ∃ m, f.load env = .ok m) :
    ∃ ms, files.mapM (SchemaFile.load env) = .ok ms ∧ (∀ m, m ∈ ms ↔ ∃ f ∈ files, f.load env = .ok m) ∧
      (files.Nodup → (∀ f ∈ files, ∀ g ∈ files, ∀ m n, f.load env = .ok m → g.load env = .ok n →
        m.version = n.version → f = g) → (ms.map (·.version)).Nodup) := by
  induction files with
  | nil => exact ⟨[], rfl, by simp, fun _ _ => List.nodup_nil⟩
  | cons f files ih =>
    obtain ⟨m, hm⟩ := h f List.mem_cons_self
    obtain ⟨ms, hms, hmem, hnodup⟩ := ih fun g hg => h g (List.mem_cons_of_mem _ hg)
    refine ⟨m :: ms, ?_, fun n => ?_, fun honce hdistinct => ?_⟩
    · rw [List.mapM_cons, hm, ok_bind, hms, ok_bind]
      rfl
    · rw [List.mem_cons, hmem]
      constructor
      · rintro (rfl | ⟨g, hg, hload⟩)
        · exact ⟨f, List.mem_cons_self, hm⟩
        · exact ⟨g, List.mem_cons_of_mem _ hg, hload⟩
      · rintro ⟨g, hg, hload⟩
        rcases List.mem_cons.1 hg with rfl | hg
        · exact Or.inl (Except.ok.inj (hload.symm.trans hm))
        · exact Or.inr ⟨g, hg, hload⟩
    · obtain ⟨hf, honce⟩ := List.nodup_cons.1 honce
      rw [List.map_cons, List.nodup_cons]
      refine ⟨fun hv => ?_, hnodup honce fun g hg k hk => hdistinct g (List.mem_cons_of_mem _ hg) k
        (List.mem_cons_of_mem _ hk)⟩
      obtain ⟨n, hn, hversion⟩ := List.mem_map.1 hv
      obtain ⟨g, hg, hload⟩ := (hmem n).1 hn
      have hsame := hdistinct f List.mem_cons_self g (List.mem_cons_of_mem _ hg) m n hm hload hversion.symm
      rw [hsame] at hf
      exact hf hg

theorem load_checksum {f : SchemaFile} {m : LoadedMigration} (h : f.load env = .ok m) :
    m.checksum = env.digest (readText f.text) := by
  unfold SchemaFile.load at h
  split at h
  · cases h
  · split at h
    · cases h
    · cases h
      rfl

/-- What `_load_migrations` returns of a well-named directory: its migrations, by ascending number. -/
theorem loadMigrations_ok {dir : SchemaDirectory} (h : WellNamed env dir) : ∃ ms, loadMigrations env dir = .ok ms ∧
    ms.Pairwise (fun a b => a.version < b.version) ∧ ∀ m, m ∈ ms ↔ InDirectory env dir m := by
  obtain ⟨files, hfiles⟩ := Option.isSome_iff_exists.1 h.present
  have honce : dir.sqlFiles.Nodup := (List.Nodup.of_map _ dir.names).filter _
  have hperm := List.mergeSort_perm dir.sqlFiles fun a b => decide (a.name ≤ b.name)
  have hloads : ∀ f ∈ dir.sqlFiles.mergeSort fun a b => decide (a.name ≤ b.name), ∃ m, f.load env = .ok m :=
    fun f hf => h.loads f (hperm.mem_iff.1 hf)
  obtain ⟨ms, hms, hmem, hnodup⟩ := load_mapM hloads
  have hversions : (ms.map (·.version)).Nodup := hnodup (hperm.nodup_iff.2 honce) fun f hf g hg =>
    h.distinct f (hperm.mem_iff.1 hf) g (hperm.mem_iff.1 hg)
  refine ⟨ms.mergeSort fun a b => decide (a.version ≤ b.version), ?_, ?_, fun m => ?_⟩
  · unfold loadMigrations
    rw [hfiles]
    dsimp only
    rw [hms, ok_bind, if_pos hversions]
  · exact @Paging.pairwise_sortDesc _ _ _ (fun m : LoadedMigration => OrderDual.toDual m.version) _ hversions
  · rw [List.mem_mergeSort, hmem]
    constructor
    · rintro ⟨f, hf, hload⟩
      exact ⟨f, hperm.mem_iff.1 hf, hload⟩
    · rintro ⟨f, hf, hload⟩
      exact ⟨f, hperm.mem_iff.2 hf, hload⟩

end load

/-! ## `apply_migrations` -/

/-- A database as a migrator sees it: the rows of `schema_migrations`, once that table is there, and the rest. -/
structure Tracked (D : Type) where
  rest : D
  applied : Option (List Recorded)

/-- What `executescript` raised. -/
inductive ScriptError
  /-- A `sqlite3.Error`. -/
  | sqlite (text : String)
  | other (e : Exc)

/-- `conn.executescript`: the database it leaves, and its error. -/
abbrev ExecuteScript (D : Type) := String → Tracked D → Option ScriptError × Tracked D

section apply
variable {D : Type} (executescript : ExecuteScript D)

def Tracked.rows (db : Tracked D) : List Recorded := db.applied.getD []

/-- `CREATE TABLE IF NOT EXISTS schema_migrations`. -/
def Tracked.opened (db : Tracked D) : Tracked D := { db with applied := some db.rows }

def LoadedMigration.recorded (m : LoadedMigration) : Recorded := ⟨m.version, m.filename, m.checksum⟩

def LoadedMigration.failed (m : LoadedMigration) (text : String) : Exc :=
  ErrorClass.metadataStoreError.exc s!"failed applying migration {Py.repr m.filename}: {text}"

def LoadedMigration.modified (m : LoadedMigration) (recorded : String) : Exc :=
  ErrorClass.metadataStoreError.exc
    (s!"migration {Py.repr m.filename} (version {m.version}) has been modified since it was applied to this " ++
      s!"database: recorded checksum {recorded} does not match the current file's checksum {m.checksum}. " ++
      "Migrations are forward-only and must never be edited after being applied -- add a new numbered " ++
      "migration file instead.")

/-- `INSERT OR IGNORE INTO schema_migrations`; a version beyond 64 bits cannot be bound. -/
def Tracked.record (db : Tracked D) (m : LoadedMigration) : Except Exc (Tracked D) :=
  match db.applied with
  | none => .error (m.failed "no such table: schema_migrations")
  | some rs =>
    if 2 ^ 63 ≤ m.version then .error (.overflowError "Python int too large to convert to SQLite INTEGER")
    else if rs.any (·.version == m.version) then .ok db
    else .ok { db with applied := some (rs ++ [m.recorded]) }

/-- How far a call has come: the database, and the files it handed to `executescript`. -/
structure Progress (D : Type) where
  db : Tracked D
  executed : List LoadedMigration

/-- The loop's body; the rows are those read before the loop. -/
def applyFile (rows : List Recorded) (m : LoadedMigration) (p : Progress D) : Option Exc × Progress D :=
  match rows.find? (·.version == m.version) with
  | some r => if r.checksum ≠ m.checksum then (some (m.modified r.checksum), p) else (none, p)
  | none =>
    let executed := p.executed ++ [m]
    match executescript m.sql p.db with
    | (some (.sqlite text), db) => (some (m.failed text), ⟨db, executed⟩)
    | (some (.other e), db) => (some e, ⟨db, executed⟩)
    | (none, db) => match db.record m with
      | .error e => (some e, ⟨db, executed⟩)
      | .ok db => (none, ⟨db, executed⟩)

def applyFiles (rows : List Recorded) : List LoadedMigration → Progress D → Option Exc × Progress D
  | [], p => (none, p)
  | m :: ms, p => match applyFile executescript rows m p with
    | (some e, p) => (some e, p)
    | (none, p) => applyFiles rows ms p

/-- What a call returns or raises, and what it did. -/
structure MigrationCall (D : Type) where
  outcome : Except Exc (Option Nat)
  db : Tracked D
  executed : List LoadedMigration

/-- `apply_migrations(conn, schema_dir)`. -/
def applyDirectory (env : Env) (dir : SchemaDirectory) (db : Tracked D) : MigrationCall D :=
  match loadMigrations env dir with
  | .error e => ⟨.error e, db, []⟩
  | .ok migrations => match applyFiles executescript db.opened.rows migrations ⟨db.opened, []⟩ with
    | (some e, p) => ⟨.error e, p.db, p.executed⟩
    | (none, p) => ⟨.ok (migrations.getLast?.map (·.version)), p.db, p.executed⟩

end apply

/-! ## What the loop does -/

section loop
variable {D : Type} {executescript : ExecuteScript D} {rows : List Recorded} {m : LoadedMigration}
  {ms before : List LoadedMigration} {p : Progress D}

/-- The version is recorded with the file's checksum. -/
def Settled (rows : List Recorded) (m : LoadedMigration) : Prop :=
  ∃ r, rows.find? (·.version == m.version) = some r ∧ r.checksum = m.checksum

/-- The version is not recorded. -/
def Unrecorded (rows : List Recorded) (m : LoadedMigration) : Prop := ∀ r ∈ rows, r.version ≠ m.version

instance (rows : List Recorded) (m : LoadedMigration) : Decidable (Unrecorded rows m) :=
  inferInstanceAs (Decidable (∀ r ∈ rows, r.version ≠ m.version))

theorem find_eq_none : rows.find? (·.version == m.version) = none ↔ Unrecorded rows m := by
  rw [List.find?_eq_none]
  exact forall₂_congr fun r _ => not_congr beq_iff_eq

/-- The files of one kind come first: all of a list, or those before the first of another. -/
theorem first_unsettled (rows : List Recorded) (ms : List LoadedMigration) : (∀ m ∈ ms, Settled rows m) ∨
    ∃ before m after, ms = before ++ m :: after ∧ (∀ b ∈ before, Settled rows b) ∧ ¬ Settled rows m := by
  induction ms with
  | nil => exact Or.inl fun m hm => absurd hm List.not_mem_nil
  | cons n ms ih =>
    by_cases hn : Settled rows n
    · rcases ih with hall | ⟨before, m, after, rfl, hbefore, hm⟩
      · exact Or.inl (List.forall_mem_cons.2 ⟨hn, hall⟩)
      · exact Or.inr ⟨n :: before, m, after, rfl, List.forall_mem_cons.2 ⟨hn, hbefore⟩, hm⟩
    · exact Or.inr ⟨[], n, ms, rfl, fun b hb => absurd hb List.not_mem_nil, hn⟩

theorem applyFiles_settled (h : ∀ b ∈ before, Settled rows b) :
    applyFiles executescript rows (before ++ ms) p = applyFiles executescript rows ms p := by
  induction before with
  | nil => rfl
  | cons b before ih =>
    obtain ⟨⟨r, hr, hsum⟩, hbefore⟩ := List.forall_mem_cons.1 h
    have hb : applyFile executescript rows b p = (none, p) := by
      unfold applyFile
      rw [hr]
      exact if_neg (not_not_intro hsum)
    rw [List.cons_append, applyFiles, hb]
    exact ih hbefore

/-- A file whose recorded checksum is another's ends the call. -/
theorem applyFiles_modified {r : Recorded} (hr : rows.find? (·.version == m.version) = some r)
    (hsum : r.checksum ≠ m.checksum) : applyFiles executescript rows (m :: ms) p =
      (some (m.modified r.checksum), p) := by
  have hm : applyFile executescript rows m p = (some (m.modified r.checksum), p) := by
    unfold applyFile
    rw [hr]
    exact if_pos hsum
  rw [applyFiles, hm]

theorem applyFile_unrecorded (h : Unrecorded rows m) :
    (applyFile executescript rows m p).2.executed = p.executed ++ [m] := by
  unfold applyFile
  rw [find_eq_none.2 h]
  dsimp only
  split
  · rfl
  · rfl
  · split <;> rfl

theorem applyFile_executed : p.executed <+: (applyFile executescript rows m p).2.executed := by
  by_cases h : Unrecorded rows m
  · rw [applyFile_unrecorded h]
    exact List.prefix_append _ _
  · obtain ⟨r, hr⟩ := Option.ne_none_iff_exists'.1 fun hn => h (find_eq_none.1 hn)
    unfold applyFile
    rw [hr]
    dsimp only
    split <;> exact List.prefix_rfl

theorem applyFiles_executed : p.executed <+: (applyFiles executescript rows ms p).2.executed := by
  induction ms generalizing p with
  | nil => exact List.prefix_rfl
  | cons m ms ih =>
    have hm : p.executed <+: (applyFile executescript rows m p).2.executed := applyFile_executed
    rw [applyFiles]
    split
    · next e q heq =>
      rw [heq] at hm
      exact hm
    · next q heq =>
      rw [heq] at hm
      exact hm.trans ih

theorem applyFiles_unrecorded (h : Unrecorded rows m) :
    m ∈ (applyFiles executescript rows (m :: ms) p).2.executed := by
  have hmem : m ∈ (applyFile executescript rows m p).2.executed := by
    rw [applyFile_unrecorded h]
    exact List.mem_append_right _ List.mem_cons_self
  rw [applyFiles]
  split
  · next e q heq =>
    rw [heq] at hmem
    exact hmem
  · next q heq =>
    rw [heq] at hmem
    exact applyFiles_executed.subset hmem

/-- SQLite executes the files one after the other without an error, and each is recorded. -/
inductive Executes (executescript : ExecuteScript D) : List LoadedMigration → Tracked D → Tracked D → Prop
  | nil (db : Tracked D) : Executes executescript [] db db
  | cons {m : LoadedMigration} {ms : List LoadedMigration} {db left recorded done : Tracked D}
    (run : executescript m.sql db = (none, left)) (record : left.record m = .ok recorded)
    (rest : Executes executescript ms recorded done) : Executes executescript (m :: ms) db done

theorem executes_nil {db done : Tracked D} (h : Executes executescript [] db done) : done = db := by
  cases h
  rfl

theorem applyFile_ok {q : Progress D} (h : Unrecorded rows m) : applyFile executescript rows m p = (none, q) ↔
    (∃ left, executescript m.sql p.db = (none, left) ∧ left.record m = .ok q.db) ∧
    q.executed = p.executed ++ [m] := by
  unfold applyFile
  rw [find_eq_none.2 h]
  dsimp only
  constructor
  · intro heq
    split at heq
    · cases heq
    · cases heq
    · next left hrun =>
      split at heq
      · cases heq
      · next db hrecord =>
        cases heq
        exact ⟨⟨left, hrun, hrecord⟩, rfl⟩
  · rintro ⟨⟨left, hrun, hrecord⟩, hexecuted⟩
    rw [hrun]
    dsimp only
    rw [hrecord, ← hexecuted]

/-- Where no recorded file was edited, a call that raises nothing executed the others. -/
theorem applyFiles_ok {q : Progress D} (h : ∀ m ∈ ms, Unrecorded rows m ∨ Settled rows m) :
    applyFiles executescript rows ms p = (none, q) ↔
      Executes executescript (ms.filter (Unrecorded rows ·)) p.db q.db ∧
        q.executed = p.executed ++ ms.filter (Unrecorded rows ·) := by
  induction ms generalizing p with
  | nil =>
    constructor
    · intro heq
      cases heq
      exact ⟨.nil _, (List.append_nil _).symm⟩
    · rintro ⟨hexecutes, hexecuted⟩
      obtain ⟨db, executed⟩ := p
      obtain ⟨db', executed'⟩ := q
      obtain rfl : db' = db := executes_nil hexecutes
      obtain rfl : executed' = executed := hexecuted.trans (List.append_nil _)
      rfl
  | cons m ms ih =>
    obtain ⟨hm, hms⟩ := List.forall_mem_cons.1 h
    by_cases hnew : Unrecorded rows m
    · rw [List.filter_cons_of_pos (by simpa using hnew), applyFiles]
      constructor
      · intro heq
        split at heq
        · cases heq
        · next q' hq' =>
          obtain ⟨⟨left, hrun, hrecord⟩, hexecuted'⟩ := (applyFile_ok hnew).1 hq'
          obtain ⟨hexecutes, hexecuted⟩ := (ih hms).1 heq
          refine ⟨.cons hrun hrecord hexecutes, ?_⟩
          rw [hexecuted, hexecuted', List.append_assoc]
          rfl
      · rintro ⟨hexecutes, hexecuted⟩
        cases hexecutes with
        | @cons _ _ _ left recorded _ hrun hrecord hrest =>
          have hq' : applyFile executescript rows m p = (none, ⟨recorded, p.executed ++ [m]⟩) :=
            (applyFile_ok hnew).2 ⟨⟨left, hrun, hrecord⟩, rfl⟩
          rw [hq']
          refine (ih hms).2 ⟨hrest, ?_⟩
          rw [hexecuted, List.append_assoc]
          rfl
    · have hsettled := hm.resolve_left hnew
      have hskip : applyFiles executescript rows ([m] ++ ms) p = applyFiles executescript rows ms p :=
        applyFiles_settled fun b hb => (List.mem_singleton.1 hb) ▸ hsettled
      rw [List.filter_cons_of_neg (by simpa using hnew)]
      show applyFiles executescript rows ([m] ++ ms) p = (none, q) ↔ _
      rw [hskip]
      exact ih hms

theorem record_rows {db recorded : Tracked D} (hnew : Unrecorded db.rows m) (h : db.record m = .ok recorded) :
    recorded.rows = db.rows ++ [m.recorded] := by
  unfold Tracked.record at h
  split at h
  · cases h
  · next rs happlied =>
    have hrows : db.rows = rs := congrArg (·.getD []) happlied
    have hany : rs.any (·.version == m.version) = false := by
      rw [List.any_eq_false]
      intro r hr he
      exact hnew r (by rw [hrows]; exact hr) (beq_iff_eq.1 he)
    split at h
    · cases h
    · rw [hany] at h
      obtain rfl := Except.ok.inj h
      rw [hrows]
      rfl

/-- Scripts that leave `schema_migrations` alone: its new rows are those of the files. -/
theorem Executes.leaves {db done : Tracked D} (h : Executes executescript ms db done)
    (own : ∀ m ∈ ms, ∀ d, (executescript m.sql d).2.applied = d.applied)
    (ascending : ms.Pairwise fun a b => a.version < b.version) (hnew : ∀ m ∈ ms, Unrecorded db.rows m) :
    done.rows = db.rows ++ ms.map (·.recorded) := by
  induction h with
  | nil db => exact (List.append_nil _).symm
  | @cons m ms db left recorded done run record rest ih =>
    obtain ⟨hown, howns⟩ := List.forall_mem_cons.1 own
    obtain ⟨hm, hms⟩ := List.forall_mem_cons.1 hnew
    have hleft : left.rows = db.rows := by
      have happlied := hown db
      rw [run] at happlied
      exact congrArg (·.getD []) happlied
    have hrecorded := record_rows (by rw [hleft]; exact hm) record
    rw [hleft] at hrecorded
    rw [ih howns ascending.of_cons fun n hn r hr => ?_, hrecorded, List.append_assoc]
    · rfl
    · rw [hrecorded, List.mem_append, List.mem_singleton] at hr
      rcases hr with hr | rfl
      · exact hms n hn r hr
      · exact (List.rel_of_pairwise_cons ascending hn).ne

end loop

/-! ## Edits -/

section edits
variable {D : Type} (executescript : ExecuteScript D) (env : Env) (dir : SchemaDirectory) (original : Nat → String)
  (db : Tracked D)

/-- What is recorded of a version is the checksum of the file that was applied. -/
def Recording : Prop := ∀ r ∈ db.rows, r.checksum = env.digest (readText (original r.version))

/-- The file `f` of the recorded version `m.version`. -/
structure RecordedFile (f : SchemaFile) (m : LoadedMigration) : Prop where
  mem : f ∈ dir.sqlFiles
  load : f.load env = .ok m
  recorded : ¬ Unrecorded db.rows m

/-- The file of some recorded version differs in some byte from the one that was applied. -/
def Edited : Prop := ∃ f m, RecordedFile env dir db f m ∧ f.bytes ≠ encodeUtf8 (original m.version)

/-- The files of the versions that are not recorded, by ascending number. -/
structure Pending (ms : List LoadedMigration) : Prop where
  ascending : ms.Pairwise fun a b => a.version < b.version
  mem : ∀ m, m ∈ ms ↔ InDirectory env dir m ∧ Unrecorded db.rows m

/-- An edit is caught before anything is executed; without one, the pending files are executed, once. -/
structure EditsAreCaught : Prop where
  edited : Edited env dir original db →
    (∃ text, (applyDirectory executescript env dir db).outcome = .error (ErrorClass.metadataStoreError.exc text)) ∧
      (applyDirectory executescript env dir db).executed = []
  unedited : ¬ Edited env dir original db →
    Pending env dir db (applyDirectory executescript env dir db).executed ∧
      ∃ version, (applyDirectory executescript env dir db).outcome = .ok version ∧
        let again := applyDirectory executescript env dir (applyDirectory executescript env dir db).db
        again.outcome = .ok version ∧ again.executed = []

/-- Some edit is one of the text that is read, in a file below which every version is recorded; or
there is no edit, and SQLite executes the pending files without an error, after which every file is
recorded. -/
structure Catchable : Prop where
  edited : Edited env dir original db → ∃ f m, RecordedFile env dir db f m ∧
    readText f.text ≠ readText (original m.version) ∧
      ∀ n, InDirectory env dir n → n.version < m.version → ¬ Unrecorded db.rows n
  unedited : ¬ Edited env dir original db → ∃ ms done, Pending env dir db ms ∧
    Executes executescript ms db.opened done ∧ ∀ m, InDirectory env dir m → Settled done.rows m

variable {executescript env dir original db} {ms : List LoadedMigration}

/-- Two readings of what is pending are one. -/
theorem Pending.unique {ms' : List LoadedMigration} (h : Pending env dir db ms)
    (h' : Pending env dir db ms') : ms = ms' :=
  @Paging.eq_of_sorted _ _ _ (fun m : LoadedMigration => OrderDual.toDual m.version) _ _ h.ascending h'.ascending
    fun m => (h.mem m).trans (h'.mem m).symm

theorem applyDirectory_eq (h : loadMigrations env dir = .ok ms) : applyDirectory executescript env dir db =
    match applyFiles executescript db.rows ms ⟨db.opened, []⟩ with
    | (some e, p) => ⟨.error e, p.db, p.executed⟩
    | (none, p) => ⟨.ok (ms.getLast?.map (·.version)), p.db, p.executed⟩ := by
  unfold applyDirectory
  rw [h]
  rfl

/-- The checksum of a recorded file is the recorded one where its text is read as the applied one's. -/
theorem RecordedFile.settled {f : SchemaFile} {m : LoadedMigration} (h : RecordedFile env dir db f m)
    (recording : Recording env original db) (same : readText f.text = readText (original m.version)) :
    Settled db.rows m := by
  obtain ⟨r, hr⟩ := Option.ne_none_iff_exists'.1 fun hn => h.recorded (find_eq_none.1 hn)
  have hversion : r.version = m.version := by simpa using List.find?_some hr
  refine ⟨r, hr, ?_⟩
  rw [recording r (List.mem_of_find?_eq_some hr), hversion, ← same]
  exact (load_checksum h.load).symm

/-- A call before which every file is recorded executes nothing. -/
theorem applyDirectory_settled (h : loadMigrations env dir = .ok ms) (hall : ∀ m ∈ ms, Settled db.rows m) :
    applyDirectory executescript env dir db = ⟨.ok (ms.getLast?.map (·.version)), db.opened, []⟩ := by
  have happly : applyFiles executescript db.rows (ms ++ []) ⟨db.opened, []⟩ =
      applyFiles executescript db.rows [] ⟨db.opened, []⟩ := applyFiles_settled hall
  rw [List.append_nil] at happly
  rw [applyDirectory_eq h, happly]
  rfl

section unsettled
variable {before after : List LoadedMigration} {m : LoadedMigration}
  (h : loadMigrations env dir = .ok (before ++ m :: after)) (hbefore : ∀ b ∈ before, Settled db.rows b)

include h hbefore

/-- The first file that is not recorded as it is now is executed where its version is not recorded. -/
theorem applyDirectory_unrecorded (hnew : Unrecorded db.rows m) :
    m ∈ (applyDirectory executescript env dir db).executed := by
  have hmem : m ∈ (applyFiles executescript db.rows (m :: after) ⟨db.opened, []⟩).2.executed :=
    applyFiles_unrecorded hnew
  rw [applyDirectory_eq h, applyFiles_settled hbefore]
  split
  · next e p heq =>
    rw [heq] at hmem
    exact hmem
  · next p heq =>
    rw [heq] at hmem
    exact hmem

/-- Where it is, the call ends there. -/
theorem applyDirectory_modified (hrecorded : ¬ Unrecorded db.rows m) (hm : ¬ Settled db.rows m) :
    ∃ text, applyDirectory executescript env dir db =
      ⟨.error (ErrorClass.metadataStoreError.exc text), db.opened, []⟩ := by
  obtain ⟨r, hr⟩ := Option.ne_none_iff_exists'.1 fun hn => hrecorded (find_eq_none.1 hn)
  have hsum : r.checksum ≠ m.checksum := fun he => hm ⟨r, hr, he⟩
  rw [applyDirectory_eq h, applyFiles_settled hbefore, applyFiles_modified hr hsum]
  exact ⟨_, rfl⟩

end unsettled

/-- Where one is not, the call raises or executes something. -/
theorem settled_of_quiet {version : Option Nat} (h : loadMigrations env dir = .ok ms)
    (hok : (applyDirectory executescript env dir db).outcome = .ok version)
    (hquiet : (applyDirectory executescript env dir db).executed = []) : ∀ m ∈ ms, Settled db.rows m := by
  rcases first_unsettled db.rows ms with hall | ⟨before, m, after, rfl, hbefore, hm⟩
  · exact hall
  · by_cases hnew : Unrecorded db.rows m
    · have hexecuted : m ∈ (applyDirectory executescript env dir db).executed :=
        applyDirectory_unrecorded h hbefore hnew
      rw [hquiet] at hexecuted
      cases hexecuted
    · obtain ⟨text, hcall⟩ := @applyDirectory_modified _ executescript env dir db _ _ _ h hbefore hnew hm
      rw [hcall] at hok
      cases hok

theorem settled_or_unrecorded (recording : Recording env original db)
    (unedited : ¬ Edited env dir original db) {m : LoadedMigration} (hm : InDirectory env dir m) :
    Unrecorded db.rows m ∨ Settled db.rows m := by
  by_cases hnew : Unrecorded db.rows m
  · exact Or.inl hnew
  · obtain ⟨f, hf, hload⟩ := hm
    have hfile : RecordedFile env dir db f m := ⟨hf, hload, hnew⟩
    have hbytes : f.bytes = encodeUtf8 (original m.version) := by
      by_contra hbytes
      exact unedited ⟨f, m, hfile, hbytes⟩
    exact Or.inr (hfile.settled recording (by rw [encodeUtf8_inj hbytes]))

/-- Pending files that leave `schema_migrations` alone leave every file recorded. -/
theorem settled_of_executes (recording : Recording env original db)
    (unedited : ¬ Edited env dir original db) {done : Tracked D} (pending : Pending env dir db ms)
    (h : Executes executescript ms db.opened done)
    (own : ∀ m ∈ ms, ∀ d, (executescript m.sql d).2.applied = d.applied) {m : LoadedMigration}
    (hm : InDirectory env dir m) : Settled done.rows m := by
  have hrows := h.leaves own pending.ascending fun n hn => ((pending.mem n).1 hn).2
  rw [show db.opened.rows = db.rows from rfl] at hrows
  rcases settled_or_unrecorded recording unedited hm with hnew | ⟨r, hr, hsum⟩
  · have hmem : m ∈ ms := (pending.mem m).2 ⟨hm, hnew⟩
    have hthere : m.recorded ∈ done.rows := by
      rw [hrows]
      exact List.mem_append_right _ (List.mem_map_of_mem hmem)
    obtain ⟨r, hr⟩ := Option.ne_none_iff_exists'.1 fun hn => find_eq_none.1 hn m.recorded hthere rfl
    refine ⟨r, hr, ?_⟩
    have hversion : r.version = m.version := by simpa using List.find?_some hr
    have hr' := List.mem_of_find?_eq_some hr
    rw [hrows, List.mem_append] at hr'
    rcases hr' with hold | hadded
    · exact absurd hversion (hnew r hold)
    · obtain ⟨n, hn, rfl⟩ := List.mem_map.1 hadded
      have hnodup : (ms.map (·.version)).Nodup := List.pairwise_map.2 (pending.ascending.imp ne_of_lt)
      obtain rfl := List.inj_on_of_nodup_map hnodup hn hmem hversion
      rfl
  · refine ⟨r, ?_, hsum⟩
    rw [hrows, List.find?_append, hr]
    rfl

/-- When an edit is caught: the first file that is not recorded as it is now was recorded. -/
theorem caught_iff (named : WellNamed env dir) (recording : Recording env original db)
    (collisions : ∀ f m, RecordedFile env dir db f m →
      env.NoCollision (readText f.text) (readText (original m.version))) :
    ((∃ text, (applyDirectory executescript env dir db).outcome =
      .error (ErrorClass.metadataStoreError.exc text)) ∧
      (applyDirectory executescript env dir db).executed = []) ↔
    ∃ f m, RecordedFile env dir db f m ∧ readText f.text ≠ readText (original m.version) ∧
      ∀ n, InDirectory env dir n → n.version < m.version → ¬ Unrecorded db.rows n := by
  obtain ⟨ms, hload, hascending, hmem⟩ := loadMigrations_ok named
  have hunsettled : ∀ {f m}, RecordedFile env dir db f m → readText f.text ≠ readText (original m.version) →
      ¬ Settled db.rows m := by
    rintro f m hf htext ⟨r, hr, hsum⟩
    have hversion : r.version = m.version := by simpa using List.find?_some hr
    rw [recording r (List.mem_of_find?_eq_some hr), hversion, load_checksum hf.load] at hsum
    exact htext (collisions f m hf hsum.symm)
  rcases first_unsettled db.rows ms with hall | ⟨before, m, after, hms, hbefore, hm⟩
  · rw [applyDirectory_settled hload hall]
    constructor
    · rintro ⟨⟨text, he⟩, _⟩
      cases he
    · rintro ⟨f, m, hf, htext, _⟩
      exact absurd (hall m ((hmem m).2 ⟨f, hf.mem, hf.load⟩)) (hunsettled hf htext)
  · rw [hms] at hascending
    have hsplit := List.pairwise_append.1 hascending
    rw [hms] at hload
    constructor
    · rintro ⟨_, hquiet⟩
      have hrecorded : ¬ Unrecorded db.rows m := by
        intro hnew
        have hexecuted : m ∈ (applyDirectory executescript env dir db).executed :=
          applyDirectory_unrecorded hload hbefore hnew
        rw [hquiet] at hexecuted
        cases hexecuted
      obtain ⟨f, hf, hload⟩ := (hmem m).1 (by rw [hms]; exact List.mem_append_right _ List.mem_cons_self)
      have hfile : RecordedFile env dir db f m := ⟨hf, hload, hrecorded⟩
      refine ⟨f, m, hfile, fun htext => hm (hfile.settled recording htext), fun n hn hlt hnew => ?_⟩
      have hn := (hmem n).2 hn
      rw [hms] at hn
      rcases List.mem_append.1 hn with hn | hn
      · obtain ⟨r, hr, _⟩ := hbefore n hn
        rw [find_eq_none.2 hnew] at hr
        cases hr
      · rcases List.mem_cons.1 hn with rfl | hn
        · omega
        · have := List.rel_of_pairwise_cons hsplit.2.1 hn
          omega
    · rintro ⟨f, m', hf, htext, hlower⟩
      have hm' := (hmem m').2 ⟨f, hf.mem, hf.load⟩
      rw [hms] at hm'
      have hrecorded : ¬ Unrecorded db.rows m := by
        rcases List.mem_append.1 hm' with hm' | hm'
        · exact absurd (hbefore m' hm') (hunsettled hf htext)
        · rcases List.mem_cons.1 hm' with rfl | hm'
          · exact hf.recorded
          · refine hlower m ((hmem m).1 ?_) (List.rel_of_pairwise_cons hsplit.2.1 hm')
            rw [hms]
            exact List.mem_append_right _ List.mem_cons_self
      obtain ⟨text, hcall⟩ := @applyDirectory_modified _ executescript env dir db _ _ _ hload hbefore hrecorded hm
      rw [hcall]
      exact ⟨⟨text, rfl⟩, rfl⟩

/-- **What `apply_migrations` catches.**  An edited file is caught before anything runs exactly
where the edit is one of the text after the translation of newlines and no pending version comes
before it. -/
theorem edits_are_caught_iff (executescript : ExecuteScript D) (env : Env) (dir : SchemaDirectory)
    (original : Nat → String) (db : Tracked D) (named : WellNamed env dir) (recording : Recording env original db)
    (collisions : ∀ f m, RecordedFile env dir db f m →
      env.NoCollision (readText f.text) (readText (original m.version))) :
    EditsAreCaught executescript env dir original db ↔ Catchable executescript env dir original db := by
  obtain ⟨ms, hload, hascending, hmem⟩ := loadMigrations_ok named
  have hpending : Pending env dir db (ms.filter (Unrecorded db.rows ·)) :=
    ⟨hascending.filter _, fun m => by rw [List.mem_filter, hmem, decide_eq_true_iff]⟩
  have hsettled : ¬ Edited env dir original db → ∀ m ∈ ms, Unrecorded db.rows m ∨ Settled db.rows m :=
    fun hne m hm => settled_or_unrecorded recording hne ((hmem m).1 hm)
  constructor
  · rintro ⟨hedited, hunedited⟩
    refine ⟨fun he => (caught_iff named recording collisions).1 (hedited he), fun hne => ?_⟩
    obtain ⟨_, version, hok, hagain, hquiet⟩ := hunedited hne
    have hdone := settled_of_quiet hload hagain hquiet
    rw [applyDirectory_eq hload] at hok hdone
    split at hok
    · cases hok
    · next p heq =>
      rw [heq] at hdone
      obtain ⟨hexecutes, _⟩ := (applyFiles_ok (hsettled hne)).1 heq
      exact ⟨_, p.db, hpending, hexecutes, fun m hm => hdone m ((hmem m).2 hm)⟩
  · rintro ⟨hedited, hunedited⟩
    refine ⟨fun he => (caught_iff named recording collisions).2 (hedited he), fun hne => ?_⟩
    obtain ⟨ms', done, hms', hexecutes, hdone⟩ := hunedited hne
    obtain rfl := hms'.unique hpending
    have happly : applyFiles executescript db.rows ms ⟨db.opened, []⟩ =
        (none, ⟨done, ms.filter (Unrecorded db.rows ·)⟩) :=
      (applyFiles_ok (hsettled hne)).2 ⟨hexecutes, rfl⟩
    have hcall : applyDirectory executescript env dir db =
        ⟨.ok (ms.getLast?.map (·.version)), done, ms.filter (Unrecorded db.rows ·)⟩ := by
      rw [applyDirectory_eq hload, happly]
    rw [hcall]
    refine ⟨hpending, _, rfl, ?_⟩
    dsimp only
    rw [applyDirectory_settled hload fun m hm => hdone m ((hmem m).1 hm)]
    exact ⟨rfl, rfl⟩

end edits

/-! ### Runs of one file -/

section samples

/-- The directory of one file. -/
def oneFile (text : String) : SchemaDirectory where
  path := "schema"
  files := some [⟨"001_initial.sql", text⟩]
  names := List.nodup_singleton _

/-- A database on which it was applied as `text`. -/
def appliedAs (text : String) : Tracked Unit :=
  ⟨(), some [⟨1, "001_initial.sql", Env.reference.digest (readText text)⟩]⟩

def oneMigration (text : String) : LoadedMigration :=
  ⟨1, "001_initial.sql", readText text, Env.reference.digest (readText text)⟩

theorem oneFile_files (text : String) : (oneFile text).sqlFiles = [⟨"001_initial.sql", text⟩] := by
  have hsuffix : ".sql".toList.isSuffixOf "001_initial.sql".toList = true := by decide
  exact List.filter_cons_of_pos hsuffix

theorem oneFile_load (text : String) :
    (⟨"001_initial.sql", text⟩ : SchemaFile).load .reference = .ok (oneMigration text) := by
  have hname : migrationFilename "001_initial.sql".toList = some ['0', '0', '1'] := by decide
  have hversion : intOfDigits ['0', '0', '1'] = .ok 1 := by decide
  unfold SchemaFile.load
  dsimp only
  rw [hname]
  dsimp only
  rw [hversion]
  rfl

theorem mem_oneFile {text : String} {f : SchemaFile} (h : f ∈ (oneFile text).sqlFiles) :
    f = ⟨"001_initial.sql", text⟩ := by
  rw [oneFile_files] at h
  exact List.mem_singleton.1 h

theorem oneFile_wellNamed (text : String) : WellNamed .reference (oneFile text) where
  present := rfl
  loads f hf := by
    obtain rfl := mem_oneFile hf
    exact ⟨_, oneFile_load text⟩
  distinct f hf g hg _ _ _ _ _ := (mem_oneFile hf).trans (mem_oneFile hg).symm

theorem inDirectory_oneFile {text : String} {m : LoadedMigration} (h : InDirectory .reference (oneFile text) m) :
    m = oneMigration text := by
  obtain ⟨f, hf, hload⟩ := h
  obtain rfl := mem_oneFile hf
  exact Except.ok.inj (hload.symm.trans (oneFile_load text))

theorem recording_oneFile (text : String) : Recording .reference (fun _ => text) (appliedAs text) := by
  intro r hr
  obtain rfl := List.mem_singleton.1 (show r ∈ [_] from hr)
  rfl

theorem recordedFile_oneFile (applied now : String) :
    RecordedFile .reference (oneFile now) (appliedAs applied) ⟨"001_initial.sql", now⟩ (oneMigration now) where
  mem := by
    rw [oneFile_files]
    exact List.mem_singleton_self _
  load := oneFile_load now
  recorded hnew := hnew _ (List.mem_singleton_self _) rfl

theorem edited_oneFile {applied now : String} (h : applied ≠ now) :
    Edited .reference (oneFile now) (fun _ => applied) (appliedAs applied) :=
  ⟨_, _, recordedFile_oneFile applied now, fun hbytes => h (encodeUtf8_inj hbytes).symm⟩

/-- A carriage return that was taken out is not seen, and nothing is raised. -/
theorem newline_edit_is_missed : ∃ applied now : String, WellNamed .reference (oneFile now) ∧
    Recording .reference (fun _ => applied) (appliedAs applied) ∧
      ¬ EditsAreCaught (fun _ db => (none, db)) .reference (oneFile now) (fun _ => applied)
        (appliedAs applied) := by
  refine ⟨"CREATE TABLE t (x);\r\n", "CREATE TABLE t (x);\n", oneFile_wellNamed _,
    recording_oneFile _, fun h => ?_⟩
  have hread : readText "CREATE TABLE t (x);\n" = readText "CREATE TABLE t (x);\r\n" := by decide
  obtain ⟨ms, hload, _, hmem⟩ := loadMigrations_ok (oneFile_wellNamed "CREATE TABLE t (x);\n")
  have hsettled : ∀ m ∈ ms, Settled (appliedAs "CREATE TABLE t (x);\r\n").rows m := by
    intro m hm
    obtain rfl := inDirectory_oneFile ((hmem m).1 hm)
    refine ⟨_, rfl, ?_⟩
    show Env.reference.digest (readText _) = Env.reference.digest (readText _)
    rw [hread]
  obtain ⟨⟨text, hraised⟩, _⟩ := h.edited (edited_oneFile (by decide))
  rw [applyDirectory_settled hload hsettled] at hraised
  cases hraised

/-- An edit that is seen. -/
theorem sample_edit_is_caught : EditsAreCaught (fun _ db => (none, db)) .reference
    (oneFile "CREATE TABLE t (y);\n")
    (fun _ => "CREATE TABLE t (x);\n") (appliedAs "CREATE TABLE t (x);\n") := by
  have hdigest : Env.reference.digest (readText "CREATE TABLE t (y);\n") ≠
      Env.reference.digest (readText "CREATE TABLE t (x);\n") := by
    decide +kernel
  have hedited : Edited .reference (oneFile "CREATE TABLE t (y);\n") (fun _ => "CREATE TABLE t (x);\n")
      (appliedAs "CREATE TABLE t (x);\n") := edited_oneFile (by decide)
  refine (edits_are_caught_iff _ .reference _ _ _ (oneFile_wellNamed _) (recording_oneFile _) fun f m hf => ?_).2
    ⟨fun _ => ⟨_, _, recordedFile_oneFile _ _, by decide, fun n hn hlt => ?_⟩, fun hne => absurd hedited hne⟩
  · obtain rfl := mem_oneFile hf.mem
    exact fun he => absurd he hdigest
  · rw [inDirectory_oneFile hn] at hlt
    exact absurd hlt (lt_irrefl _)

end samples

/-! ## The shipped files -/

section shipped
variable (statements : String → List Statement)

open Ddl

/-- The statements of a script, until one is refused. -/
def runScript : List Statement → Catalog → Option Refusal × Catalog
  | [], c => (none, c)
  | s :: l, c => match c.exec s with
    | .ok c => runScript l c
    | .error r => (some r, c)

/-- SQLite on scripts made of schema statements. -/
def executeDdl : ExecuteScript Catalog := fun sql db =>
  match runScript (statements sql) db.rest with
  | (some r, c) => (some (.sqlite (refusalText r)), { db with rest := c })
  | (none, c) => (none, { db with rest := c })

def LoadedMigration.parsed (m : LoadedMigration) : Migration :=
  ⟨m.version, m.filename, statements m.sql, m.checksum⟩

def SchemaState.tracked (σ : SchemaState) : Tracked Catalog := ⟨σ.catalog, σ.applied⟩

/-- What a call of the directory's files and one of their statements have in common. -/
def Agrees {T : Type} (out : Option Exc × Progress Catalog) (done : Except Exc T) (state : T →
    SchemaState) : Prop :=
  match done with
  | .ok x => out.1 = none ∧ out.2.db = (state x).tracked
  | .error e => out.1 = some e

variable {statements} {σ : SchemaState} {m : LoadedMigration} {executed : List LoadedMigration}
    {snapshot : List Recorded}

theorem run_statements (l : List Statement) (σ : SchemaState) : σ.run (l.map (.ddl (m.parsed statements))) =
    match runScript l σ.catalog with
    | (some r, _) => .error (m.failed (refusalText r))
    | (none, c) => .ok { σ with catalog := c } := by
  induction l generalizing σ with
  | nil => rfl
  | cons s l ih =>
    show (σ.exec (.ddl (m.parsed statements) s) >>= fun σ => σ.run _) = _
    rw [runScript]
    cases hs : σ.catalog.exec s with
    | error r =>
      have hexec : σ.exec (.ddl (m.parsed statements) s) = .error (m.failed (refusalText r)) := by
        simp only [SchemaState.exec, hs]
        rfl
      exact error_bind hexec
    | ok c =>
      have hexec : σ.exec (.ddl (m.parsed statements) s) = .ok { σ with catalog := c } := by
        simp only [SchemaState.exec, hs]
      exact (bind_of_ok hexec).trans (ih _)

theorem exec_record (hfits : m.version < 2 ^ 63) : σ.exec (.record (m.parsed statements)) =
    (σ.tracked.record m).map fun db => ⟨db.rest, db.applied⟩ := by
  cases happlied : σ.applied with
  | none =>
    simp only [Tracked.record, SchemaState.exec, SchemaState.tracked, happlied]
    rfl
  | some rs =>
    simp only [Tracked.record, SchemaState.exec, SchemaState.tracked, happlied, if_neg (Nat.not_le.2 hfits)]
    show (if rs.any (·.version == m.version) then _ else _) = _
    split
    · rw [← happlied]
      rfl
    · rfl

theorem applyFile_parsed (hfits : m.version < 2 ^ 63) :
    Agrees (applyFile (executeDdl statements) snapshot m ⟨σ.tracked, executed⟩)
      (σ.run ((m.parsed statements).pending snapshot)) id := by
  cases hr : snapshot.find? (·.version == m.version) with
  | some r =>
    have hpending : (m.parsed statements).pending snapshot =
        if r.checksum ≠ m.checksum then [.mismatch (m.parsed statements) r.checksum] else [] := by
      unfold Migration.pending
      rw [show snapshot.find? (·.version == (m.parsed statements).version) = some r from hr]
      rfl
    unfold applyFile
    rw [hpending, hr]
    dsimp only
    split
    · rfl
    · exact ⟨rfl, rfl⟩
  | none =>
    have hpending : (m.parsed statements).pending snapshot = (m.parsed statements).actions := by
      unfold Migration.pending
      rw [show snapshot.find? (·.version == (m.parsed statements).version) = none from hr]
    have hactions : σ.run (m.parsed statements).actions =
        σ.run ((statements m.sql).map (.ddl (m.parsed statements)))
          >>= (·.exec (.record (m.parsed statements))) := by
      refine List.foldlM_append.trans (congrArg _ (funext fun τ => ?_))
      exact bind_pure _
    rw [hpending, hactions, run_statements]
    unfold applyFile
    rw [hr]
    cases hrun : runScript (statements m.sql) σ.catalog with
    | mk refusal c =>
      cases refusal with
      | some r =>
        have hscript : executeDdl statements m.sql σ.tracked =
          (some (.sqlite (refusalText r)), ⟨c, σ.applied⟩) := by
          unfold executeDdl
          rw [show runScript (statements m.sql) σ.tracked.rest = (some r, c) from hrun]
          rfl
        rw [hscript]
        rfl
      | none =>
        have hscript : executeDdl statements m.sql σ.tracked = (none, ⟨c, σ.applied⟩) := by
          unfold executeDdl
          rw [show runScript (statements m.sql) σ.tracked.rest = (none, c) from hrun]
          rfl
        have hrecord : ({ σ with catalog := c } : SchemaState).exec (.record (m.parsed statements)) =
            (({ σ with catalog := c } : SchemaState).tracked.record m).map fun db => ⟨db.rest, db.applied⟩ :=
          exec_record hfits
        rw [hscript]
        dsimp only
        rw [ok_bind, hrecord]
        cases hdb : (⟨c, σ.applied⟩ : Tracked Catalog).record m with
        | error e =>
          rw [show ({ σ with catalog := c } : SchemaState).tracked.record m = .error e from hdb]
          rfl
        | ok db =>
          rw [show ({ σ with catalog := c } : SchemaState).tracked.record m = .ok db from hdb]
          exact ⟨rfl, rfl⟩

/-- The loop over the files is the run of their statements. -/
theorem applyFiles_parsed {ms : List LoadedMigration} (hfits : ∀ m ∈ ms, m.version < 2 ^ 63) :
    Agrees (applyFiles (executeDdl statements) snapshot ms ⟨σ.tracked, executed⟩)
      (σ.run (program snapshot (ms.map (·.parsed statements)))) id := by
  induction ms generalizing σ executed with
  | nil => exact ⟨rfl, rfl⟩
  | cons m ms ih =>
    obtain ⟨hm, hms⟩ := List.forall_mem_cons.1 hfits
    have happend : σ.run (program snapshot ((m :: ms).map (·.parsed statements))) =
        σ.run ((m.parsed statements).pending snapshot)
          >>= (·.run (program snapshot (ms.map (·.parsed statements)))) :=
      List.foldlM_append
    have hfile : Agrees (applyFile (executeDdl statements) snapshot m ⟨σ.tracked, executed⟩)
        (σ.run ((m.parsed statements).pending snapshot)) id := applyFile_parsed hm
    rw [happend, applyFiles]
    cases hrun : σ.run ((m.parsed statements).pending snapshot) with
    | error e =>
      rw [hrun] at hfile
      cases hstep : applyFile (executeDdl statements) snapshot m ⟨σ.tracked, executed⟩ with
      | mk failure p =>
        rw [hstep] at hfile
        obtain rfl : failure = some e := hfile
        rfl
    | ok τ =>
      rw [hrun] at hfile
      cases hstep : applyFile (executeDdl statements) snapshot m ⟨σ.tracked, executed⟩ with
      | mk failure p =>
        rw [hstep] at hfile
        obtain ⟨db, executed'⟩ := p
        obtain ⟨rfl, rfl⟩ : failure = none ∧ db = τ.tracked := hfile
        exact ih hms

/-- **The statements are what the files do**: on the shipped files, a call of the directory is
`applyMigrations`. -/
theorem applyDirectory_shipped {env : Env} {dir : SchemaDirectory} {sums : Nat → String}
    {ms : List LoadedMigration}
    (hload : loadMigrations env dir = .ok ms) (hshipped : ms.map (·.parsed statements) = migrations sums)
    (σ : SchemaState) :
    match applyMigrations (migrations sums) σ with
    | .ok (version, done) => (applyDirectory (executeDdl statements) env dir σ.tracked).outcome = .ok version ∧
        (applyDirectory (executeDdl statements) env dir σ.tracked).db = done.tracked
    | .error e => (applyDirectory (executeDdl statements) env dir σ.tracked).outcome = .error e := by
  have hversions : ms.map (·.version) = [1, 2, 3, 4] := by
    have h := congrArg (List.map (·.version)) hshipped
    rw [List.map_map] at h
    exact h
  have hfits : ∀ m ∈ ms, m.version < 2 ^ 63 := by
    intro m hm
    have hmem : m.version ∈ ms.map (·.version) := List.mem_map_of_mem hm
    rw [hversions] at hmem
    simp only [List.mem_cons, List.not_mem_nil, or_false] at hmem
    omega
  have hlast : ms.getLast?.map (·.version) = some 4 := by
    rw [← List.getLast?_map, hversions]
    rfl
  have hopened : SchemaState.exec σ .createTracking = .ok ⟨σ.catalog, some (σ.applied.getD [])⟩ := rfl
  have hrun : σ.run (σ.steps (migrations sums)) =
      (⟨σ.catalog, some (σ.applied.getD [])⟩ : SchemaState).run (program (σ.applied.getD []) (migrations sums)) :=
    bind_of_ok hopened
  have hfiles : Agrees (applyFiles (executeDdl statements) (σ.applied.getD []) ms
        ⟨(⟨σ.catalog, some (σ.applied.getD [])⟩ : SchemaState).tracked, []⟩)
      ((⟨σ.catalog, some (σ.applied.getD [])⟩ : SchemaState).run
        (program (σ.applied.getD []) (ms.map (·.parsed statements)))) id := applyFiles_parsed hfits
  rw [hshipped] at hfiles
  unfold applyMigrations
  rw [hrun, applyDirectory_eq hload]
  have hloop : applyFiles (executeDdl statements) σ.tracked.rows ms ⟨σ.tracked.opened, []⟩ =
      applyFiles (executeDdl statements) (σ.applied.getD []) ms
        ⟨(⟨σ.catalog, some (σ.applied.getD [])⟩ : SchemaState).tracked, []⟩ := rfl
  rw [hloop]
  cases hout : applyFiles (executeDdl statements) (σ.applied.getD []) ms
      ⟨(⟨σ.catalog, some (σ.applied.getD [])⟩ : SchemaState).tracked, []⟩ with
  | mk failure p =>
    rw [hout] at hfiles
    cases hdone : (⟨σ.catalog, some (σ.applied.getD [])⟩ : SchemaState).run
      (program (σ.applied.getD []) (migrations sums)) with
    | error e =>
      rw [hdone] at hfiles
      obtain rfl : failure = some e := hfiles
      rfl
    | ok done =>
      rw [hdone] at hfiles
      obtain ⟨rfl, hdb⟩ : failure = none ∧ p.db = done.tracked := hfiles
      rw [hlast]
      exact ⟨rfl, hdb⟩

end shipped

end Cer
