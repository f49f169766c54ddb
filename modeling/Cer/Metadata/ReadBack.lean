import Cer.Metadata.Queries

/-!
# What is read back

A record that a write inserted and returned, and the same row read at any later time: by
a `get_*`, a `query_*`, a replay, a close or an attach.  `HandsBack` collects the ways a
record leaves the store, `Reads` says that it can be read at all and `Faithful` how it
may differ from the one returned.  `read_back_is_faithful_iff`: it always reads, and they
differ no further, unless a NaN was bound to a REAL column.
-/

namespace Cer

open Py

/-! ## Later readings -/

/-- The write inserted the record it was given, and returned it. -/
structure Inserts (env : Env) (db : Database) (w : Write) (rep : Reply) (db' : Database) : Prop where
  run : w.call env db = .ok (rep, db')
  submitted : w.submitted = some rep
  changed : db' ≠ db

/-- Table and primary identity. -/
def Reply.identity : Reply → TableName × String × String
  | .strategy s => (.strategies, s.strategyId, "")
  | .strategyVersion v => (.strategyVersions, v.strategyId, v.strategyVersion)
  | .experiment e => (.experiments, e.experimentId, "")
  | .run r => (.runs, r.runId, "")
  | .evidence e => (.evidence, e.evidenceId, "")
  | .artifact a => (.artifacts, a.artifactId, "")
  | .promotion t => (.promotions, t.transitionId, "")
  | .health h => (.healthRecords, h.healthId, "")

/-- The database after some more writes. -/
def later (env : Env) (db : Database) (ws : List Write) : Database := ws.foldl (commit env) db

/-- The record leaves the store once the writes have been made after `db`: read from a row, or
returned by one of the reading methods or by the last write. -/
inductive HandsBack (env : Env) (db : Database) : List Write → Reply → Prop
  | row {ws rep} (h : (later env db ws).Holds env rep) : HandsBack env db ws rep
  | getEvidence {ws i e} (h : getEvidence env (later env db ws) i = .ok e) : HandsBack env db ws (.evidence e)
  | getArtifact {ws i a} (h : getArtifact (later env db ws) i = .ok a) : HandsBack env db ws (.artifact a)
  | findArtifact {ws p k a} (h : findArtifactByIdempotencyKey (later env db ws) p k = .ok (some a)) :
    HandsBack env db ws (.artifact a)
  | queryEvidence {ws q limit offset es e} (h : queryEvidence env (later env db ws) q limit offset = .ok es)
    (mem : e ∈ es) : HandsBack env db ws (.evidence e)
  | queryArtifacts {ws i r limit offset xs a} (h : queryArtifacts (later env db ws) i r limit offset = .ok xs)
    (mem : a ∈ xs) : HandsBack env db ws (.artifact a)
  | queryPromotions {ws s v limit offset ts t}
    (h : queryPromotions env (later env db ws) s v limit offset = .ok ts)
    (mem : t ∈ ts) : HandsBack env db ws (.promotion t)
  | queryHealth {ws s v limit offset hs x} (h : queryHealth env (later env db ws) s v limit offset = .ok hs)
    (mem : x ∈ hs) : HandsBack env db ws (.health x)
  | write {ws v rep db'} (h : v.call env (later env db ws) = .ok (rep, db')) : HandsBack env db (ws ++ [v]) rep

/-! ## Faithful readings -/

/-- The same JSON value, up to the order of keys. -/
def SameJson (a b : Json) : Prop := sortKeys a = sortKeys b

/-- Both absent, or both there and related. -/
def SameOpt {α : Type} (R : α → α → Prop) : Option α → Option α → Prop
  | none, none => True
  | some a, some b => R a b
  | _, _ => False

/-- The record read is the one returned, field by field; mappings have the same items.  A run's status and end may
be those a close among the writes gave it, an artifact's links those an attach did. -/
def Faithful (ws : List Write) : Reply → Reply → Prop
  | .strategy s, .strategy s' => s' = s
  | .strategyVersion v, .strategyVersion v' => v' = v
  | .experiment e, .experiment e' => e' = e
  | .run r, .run r' => { r' with status := r.status, endedAt := r.endedAt } = r ∧
      ((∀ s t, Write.closeRun r.runId s t ∉ ws) → r' = r)
  | .evidence e, .evidence e' => { e' with metrics := e.metrics, notes := e.notes } = e ∧
      e'.metrics.Perm e.metrics ∧ SameJson e'.notes e.notes
  | .artifact a, .artifact a' => { a' with runId := a.runId, evidenceId := a.evidenceId } = a ∧
      ((∀ e r, Write.attachArtifact a.artifactId e r ∉ ws) → a' = a)
  | .promotion t, .promotion t' => t' = t
  | .health h, .health h' =>
    { h' with
      regimeDistribution := h.regimeDistribution
      strategyChainStrengthDistribution := h.strategyChainStrengthDistribution
      baselineComparison := h.baselineComparison } = h ∧
      SameOpt List.Perm h'.regimeDistribution h.regimeDistribution ∧
      SameOpt List.Perm h'.strategyChainStrengthDistribution h.strategyChainStrengthDistribution ∧
      SameOpt (fun a b => SameJson (.obj a) (.obj b)) h'.baselineComparison h.baselineComparison
  | _, _ => False

/-- Every row of the record's table decodes, so that no listing of it raises. -/
def Database.Decodes (env : Env) (db : Database) : Reply → Prop
  | .strategy _ => ∀ r ∈ db.strategies, ∃ x, rowToStrategy r = .ok x
  | .strategyVersion _ => ∀ r ∈ db.strategyVersions, ∃ x, rowToStrategyVersion r = .ok x
  | .experiment _ => ∀ r ∈ db.experiments, ∃ x, rowToExperiment r = .ok x
  | .run _ => ∀ r ∈ db.runs, ∃ x, rowToRun r = .ok x
  | .evidence _ => ∀ r ∈ db.evidence, ∃ x, rowToEvidence env r = .ok x
  | .artifact _ => ∀ r ∈ db.artifacts, ∃ x, rowToArtifact r = .ok x
  | .promotion _ => ∀ r ∈ db.promotions, ∃ x, rowToPromotion env r = .ok x
  | .health _ => ∀ r ∈ db.healthRecords, ∃ x, rowToHealth env r = .ok x

/-- The `get_*` of the record's type, where there is one, answers with it. -/
def Database.Gets (env : Env) (db : Database) : Reply → Prop
  | .evidence e => getEvidence env db e.evidenceId = .ok e
  | .artifact a => getArtifact db a.artifactId = .ok a
  | _ => True

/-- The identity of the record can be read: a row decodes to a record of it, which its `get_*` gives too. -/
structure Database.Reads (env : Env) (db : Database) (rep : Reply) : Prop where
  decodes : db.Decodes env rep
  row : ∃ rep', rep'.identity = rep.identity ∧ db.Holds env rep' ∧ db.Gets env rep'

/-- In every later state the row of the record reads, and every reading of it is faithful. -/
structure ReadBackFaithful (env : Env) (db : Database) (rep : Reply) : Prop where
  reads : ∀ ws : List Write, (∀ v ∈ ws, v.Valid) → (later env db ws).Reads env rep
  faithful : ∀ ws : List Write, (∀ v ∈ ws, v.Valid) → ∀ rep', HandsBack env db ws rep' →
    rep'.identity = rep.identity → Faithful ws rep rep'

/-! ## The row of the record -/

/-- The row written for the record stands in its table. -/
def Database.Keeps (env : Env) (db : Database) : Reply → Prop
  | .strategy s => s.Valid ∧ s.toRow ∈ db.strategies
  | .strategyVersion v => v.Valid ∧ v.toRow ∈ db.strategyVersions
  | .experiment e => e.Valid ∧ ∃ k, e.toRow env k ∈ db.experiments
  | .run r => r.Valid ∧ ∃ k, r.toRow env k ∈ db.runs
  | .evidence e => e.Valid ∧ e.toRow env ∈ db.evidence
  | .artifact a => a.Valid ∧ ∃ k p, a.toRow env k p ∈ db.artifacts
  | .promotion t => t.Valid ∧ ∃ k, t.toRow env k ∈ db.promotions
  | .health h => h.Valid ∧ ∃ k, h.toRow env k ∈ db.healthRecords

section inserted
variable {env : Env} {db db' : Database} {w : Write} {rep : Reply}

theorem Inserts.keeps (h : Inserts env db w rep db') (hv : w.Valid) : db'.Keeps env rep := by
  have hlast : ∀ {α : Type} (l : List α) (a : α), a ∈ l ++ [a] := fun l a =>
    List.mem_append_right l (List.mem_singleton_self a)
  have hsub := h.submitted
  cases effect_of_run (Write.run_of_call h.run) with
  | unchanged => exact absurd rfl h.changed
  | strategy s _ =>
    cases hsub
    exact ⟨hv, hlast _ _⟩
  | strategyVersion v _ _ =>
    cases hsub
    exact ⟨hv, hlast _ _⟩
  | experiment e k _ =>
    cases hsub
    exact ⟨hv, k, hlast _ _⟩
  | run r k _ _ =>
    cases hsub
    exact ⟨hv, k, hlast _ _⟩
  | close i s t ended row _ _ _ => cases hsub
  | evidence e _ _ _ =>
    cases hsub
    exact ⟨hv, hlast _ _⟩
  | artifact a k p _ _ _ _ =>
    cases hsub
    exact ⟨hv, k, p, hlast _ _⟩
  | attach i e r e' r' row _ _ _ _ => cases hsub
  | promotion t k _ =>
    cases hsub
    exact ⟨hv, k, hlast _ _⟩
  | health x k _ =>
    cases hsub
    exact ⟨hv, k, hlast _ _⟩

end inserted

/-! ## What leaves the store was read from a row -/

theorem read_of_compare {Row Rec : Type} {read : Row → Except Exc Rec} {r : Row} {rec : Rec} {differs : Rec → Prop}
    [DecidablePred differs] {m : String}
    (h : (do let x ← read r; if differs x then .error (immutability m) else .ok x : Except Exc Rec) = .ok rec) :
    read r = .ok rec := by
  obtain ⟨x, hx, h⟩ := bind_ok h
  split at h
  · cases h
  · rw [hx, h]

/-- What a submission hands back it read from a row, or it inserted its record under an identity no row had. -/
theorem Submission.run_reads {Row Rec I : Type} {s : Submission Row Rec} {ident : Row → I}
    (read : Row → Except Exc Rec)
    (hl : s.Lawful ident) {db db' : Database} {rec : Rec}
    (hreplay : ∀ r ∈ s.table.rows db, s.replay r = .ok rec → read r = .ok rec)
    (hexisting : ∀ r ∈ s.table.rows db, s.sameId r = true → s.existing r = .ok rec → read r = .ok rec)
    (h : s.run db = .ok (rec, db')) :
    (∃ r ∈ s.table.rows db, read r = .ok rec) ∧ db' = db ∨
      (∀ r ∈ s.table.rows db, ident r ≠ ident s.row) ∧ rec = s.record := by
  rcases Submission.run_ok h with ⟨r, hk, _, hr, rfl⟩ | ⟨r, _, hi, hr, rfl⟩ | ⟨_, hi, _, hrec⟩
  · have hmem := (Submission.byKey_mem hk).1
    exact Or.inl ⟨⟨r, hmem, hreplay r hmem hr⟩, rfl⟩
  · have hmem : r ∈ s.table.rows db' := List.mem_of_find?_eq_some hi
    exact Or.inl ⟨⟨r, hmem, hexisting r hmem (List.find?_some hi) hr⟩, rfl⟩
  · exact Or.inr ⟨hl.fresh_id hi, hrec⟩

/-- The identity of the record is one no row has. -/
def Database.NoRow (db : Database) : Reply → Prop
  | .strategy s => ∀ r ∈ db.strategies, r.ident ≠ s.strategyId
  | .strategyVersion v => ∀ r ∈ db.strategyVersions, r.ident ≠ (v.strategyId, v.strategyVersion)
  | .experiment e => ∀ r ∈ db.experiments, r.ident ≠ e.experimentId
  | .run run => ∀ r ∈ db.runs, r.ident ≠ run.runId
  | .evidence e => ∀ r ∈ db.evidence, r.ident ≠ e.evidenceId
  | .artifact a => ∀ r ∈ db.artifacts, r.ident ≠ a.artifactId
  | .promotion t => ∀ r ∈ db.promotions, r.ident ≠ t.transitionId
  | .health h => ∀ r ∈ db.healthRecords, r.ident ≠ h.healthId

theorem mem_of_mapM {Row Rec : Type} {read : Row → Except Exc Rec} {rows : List Row} {found : List Rec} {x : Rec}
    (h : rows.mapM read = .ok found) (hx : x ∈ found) : ∃ r ∈ rows, read r = .ok x := by
  induction rows generalizing found with
  | nil =>
    cases h
    cases hx
  | cons r rows ih =>
    rw [List.mapM_cons] at h
    obtain ⟨y, hy, h⟩ := bind_ok h
    obtain ⟨ys, hys, h⟩ := bind_ok h
    obtain rfl : y :: ys = found := Except.ok.inj h
    rcases List.mem_cons.1 hx with rfl | hx
    · exact ⟨r, List.mem_cons_self, hy⟩
    · obtain ⟨r', hr', hread⟩ := ih hys hx
      exact ⟨r', List.mem_cons_of_mem _ hr', hread⟩

theorem ok_of_guarded {Rec : Type} {p : Prop} [Decidable p] {e : Exc} {x : Except Exc Rec} {rec : Rec}
    (h : (if p then .error e else x) = .ok rec) : x = .ok rec := by
  split at h
  · cases h
  · exact h

section reads
variable {env : Env} {db db' : Database}

theorem holds_of_fetchRun {i : String} {rec : Run} (h : fetchRun db i = .ok rec) : db.Holds env (.run rec) := by
  unfold fetchRun at h
  cases hf : db.runs.find? (·.runId == i) with
  | none =>
    rw [hf] at h
    cases h
  | some r =>
    rw [hf] at h
    exact ⟨r, List.mem_of_find?_eq_some hf, h⟩

theorem holds_of_fetchEvidence {i : String} {rec : EvidenceRecord} (h : fetchEvidence env db i = .ok rec) :
    db.Holds env (.evidence rec) := by
  unfold fetchEvidence at h
  cases hf : db.evidence.find? (·.evidenceId == i) with
  | none =>
    rw [hf] at h
    cases h
  | some r =>
    rw [hf] at h
    exact ⟨r, List.mem_of_find?_eq_some hf, h⟩

theorem holds_of_getArtifact {i : String} {rec : ArtifactRecord} (h : getArtifact db i = .ok rec) :
    db.Holds env (.artifact rec) := by
  unfold getArtifact at h
  cases hf : db.artifacts.find? (·.artifactId == i) with
  | none =>
    rw [hf] at h
    cases h
  | some r =>
    rw [hf] at h
    exact ⟨r, List.mem_of_find?_eq_some hf, h⟩

theorem holds_of_findArtifact {p : Option String} {k : String} {rec : ArtifactRecord}
    (h : findArtifactByIdempotencyKey db p k = .ok (some rec)) : db.Holds env (.artifact rec) := by
  obtain ⟨q, _, h⟩ := bind_ok h
  cases hf : db.artifacts.find? fun row => row.key == some (q, k) with
  | none =>
    rw [hf] at h
    cases h
  | some r =>
    rw [hf] at h
    obtain ⟨a, ha, h⟩ := bind_ok h
    obtain rfl : a = rec := Option.some.inj (Except.ok.inj h)
    exact ⟨r, List.mem_of_find?_eq_some hf, ha⟩

/-- What a page gives was read from a row of the table. -/
theorem read_of_page {Row Rec : Type} {rows : List Row} {clauses : List (Row → Bool)}
    {order : Row → String × String}
    {limit offset : Int} {read : Row → Except Exc Rec} {found : List Rec} {x : Rec}
    (h : (selectPage rows clauses order limit offset >>= fun rs => rs.mapM read) = .ok found) (hx : x ∈ found) :
    ∃ r ∈ rows, read r = .ok x := by
  obtain ⟨rs, hrs, h⟩ := bind_ok h
  have hsub : ∀ r ∈ rs, r ∈ rows := by
    unfold selectPage at hrs
    split at hrs
    · cases hrs
    · obtain rfl := Except.ok.inj hrs
      intro r hr
      exact (List.mem_filter.1 (Paging.mem_sortDesc.1 (Paging.subset_of_slice hr))).1
  obtain ⟨r, hr, hread⟩ := mem_of_mapM h hx
  exact ⟨r, hsub r hr, hread⟩

/-- **What a write hands back** stands in a row after it, or is the record submitted, under an
identity no row had. -/
theorem WellFormed.run_holds (h : WellFormed env db) {w : Write} {rep : Reply}
    (hrun : w.run env db = .ok (rep, db')) :
    db'.Holds env rep ∨ db.NoRow rep ∧ w.submitted = some rep := by
  cases w with
  | registerStrategy s =>
    obtain ⟨a, ha, rfl⟩ := asReply_ok hrun
    rcases Submission.run_reads rowToStrategy (strategySubmission_lawful env s) (fun _ _ hr => hr)
      (fun r _ _ hr => read_of_compare hr) ha with ⟨hr, rfl⟩ | ⟨hfresh, rfl⟩
    · exact Or.inl hr
    · exact Or.inr ⟨hfresh, rfl⟩
  | registerStrategyVersion v =>
    obtain ⟨a, ha, rfl⟩ := asReply_ok hrun
    obtain ⟨_, _, ha⟩ := bind_ok ha
    rcases Submission.run_reads rowToStrategyVersion (strategyVersionSubmission_lawful env v)
      (fun _ _ hr => hr) (fun r _ _ hr => read_of_compare hr) ha with ⟨hr, rfl⟩ | ⟨hfresh, rfl⟩
    · exact Or.inl hr
    · exact Or.inr ⟨hfresh, rfl⟩
  | createExperiment e k =>
    obtain ⟨a, ha, rfl⟩ := asReply_ok hrun
    rcases Submission.run_reads rowToExperiment (experimentSubmission_lawful env e k)
      (fun _ _ hr => hr) (fun r _ _ hr => read_of_compare hr) ha with ⟨hr, rfl⟩ | ⟨hfresh, rfl⟩
    · exact Or.inl hr
    · exact Or.inr ⟨hfresh, rfl⟩
  | createRun x k =>
    obtain ⟨a, ha, rfl⟩ := asReply_ok hrun
    obtain ⟨_, _, ha⟩ := bind_ok ha
    rcases Submission.run_reads rowToRun (runSubmission_lawful env db x k)
      (fun r hr hread => (h.fetchRun_eq hr).symm.trans hread) (fun r _ _ hr => by cases hr) ha with
      ⟨hr, rfl⟩ | ⟨hfresh, rfl⟩
    · exact Or.inl hr
    · exact Or.inr ⟨hfresh, rfl⟩
  | closeRun i s t =>
    obtain ⟨a, ha, rfl⟩ := asReply_ok hrun
    obtain ⟨ended, row, _, _, _, _, hfetch⟩ := closeRun_ok ha
    exact Or.inl (holds_of_fetchRun hfetch)
  | appendEvidence e =>
    obtain ⟨a, ha, rfl⟩ := asReply_ok hrun
    obtain ⟨_, _, ha⟩ := bind_ok ha
    obtain ⟨_, _, ha⟩ := bind_ok ha
    have hexisting : ∀ r ∈ db.evidence, (evidenceSubmission env db e).sameId r = true →
        (evidenceSubmission env db e).existing r = .ok a → rowToEvidence env r = .ok a := by
      intro r hr hid hread
      have hid : r.evidenceId = e.evidenceId := beq_iff_eq.1 hid
      rw [← h.fetchEvidence_eq hr, hid]
      exact ok_of_guarded hread
    rcases Submission.run_reads (rowToEvidence env) (evidenceSubmission_lawful env db e)
      (fun r hr hread => (h.fetchEvidence_eq hr).symm.trans hread) hexisting ha with ⟨hr, rfl⟩ | ⟨hfresh, rfl⟩
    · exact Or.inl hr
    · exact Or.inr ⟨hfresh, rfl⟩
  | registerArtifact x k p =>
    obtain ⟨a, ha, rfl⟩ := asReply_ok hrun
    obtain ⟨_, _, ha⟩ := bind_ok ha
    obtain ⟨_, _, ha⟩ := bind_ok ha
    obtain ⟨_, _, ha⟩ := bind_ok ha
    rcases Submission.run_reads rowToArtifact (artifactSubmission_lawful env x k p)
      (fun _ _ hr => hr) (fun r _ _ hr => ok_of_guarded hr) ha with ⟨hr, rfl⟩ | ⟨hfresh, rfl⟩
    · exact Or.inl hr
    · exact Or.inr ⟨hfresh, rfl⟩
  | attachArtifact i e r =>
    obtain ⟨a, ha, rfl⟩ := asReply_ok hrun
    obtain ⟨row, e', r', hf, _, _, ⟨_, _, rfl, hread⟩ | ⟨_, row', hf', hread⟩⟩ := attachArtifact_ok ha
    · exact Or.inl ⟨row, List.mem_of_find?_eq_some hf, hread⟩
    · exact Or.inl ⟨row', List.mem_of_find?_eq_some hf', hread⟩
  | recordPromotion t k =>
    obtain ⟨a, ha, rfl⟩ := asReply_ok hrun
    rcases Submission.run_reads (rowToPromotion env) (promotionSubmission_lawful env t k)
      (fun _ _ hr => hr) (fun r _ _ hr => read_of_compare hr) ha with ⟨hr, rfl⟩ | ⟨hfresh, rfl⟩
    · exact Or.inl hr
    · exact Or.inr ⟨hfresh, rfl⟩
  | recordHealth x k n =>
    obtain ⟨a, ha, rfl⟩ := asReply_ok hrun
    rcases Submission.run_reads (rowToHealth env) (healthSubmission_lawful env x k n)
      (fun _ _ hr => hr) (fun r _ _ hr => read_of_compare hr) ha with ⟨hr, rfl⟩ | ⟨hfresh, rfl⟩
    · exact Or.inl hr
    · exact Or.inr ⟨hfresh, rfl⟩

/-- Whatever way a record leaves the store, it was read from a row, or a write has just inserted it. -/
theorem HandsBack.cases_row (hwf : WellFormed env db) {ws : List Write} (hv : ∀ v ∈ ws, v.Valid) {rep : Reply}
    (h : HandsBack env db ws rep) :
    (later env db ws).Holds env rep ∨ ∃ ws₀ v, ws = ws₀ ++ [v] ∧ (later env db ws₀).NoRow rep := by
  cases h with
  | row h => exact Or.inl h
  | getEvidence h => exact Or.inl (holds_of_fetchEvidence h)
  | getArtifact h => exact Or.inl (holds_of_getArtifact h)
  | findArtifact h => exact Or.inl (holds_of_findArtifact h)
  | queryEvidence h hmem =>
    obtain ⟨_, _, h⟩ := bind_ok h
    obtain ⟨_, _, h⟩ := bind_ok h
    exact Or.inl (read_of_page h hmem)
  | queryArtifacts h hmem => exact Or.inl (read_of_page h hmem)
  | queryPromotions h hmem => exact Or.inl (read_of_page h hmem)
  | queryHealth h hmem => exact Or.inl (read_of_page h hmem)
  | @write ws₀ v rep db' h =>
    have hwf₀ : WellFormed env (later env db ws₀) :=
      foldl_commit_wellFormed hwf fun x hx => hv x (List.mem_append_left _ hx)
    have hlater : later env db (ws₀ ++ [v]) = db' := by
      show (ws₀ ++ [v]).foldl (commit env) db = db'
      rw [List.foldl_append]
      show commit env (later env db ws₀) v = db'
      unfold commit
      rw [h]
    rcases hwf₀.run_holds (Write.run_of_call h) with hh | ⟨hno, _⟩
    · exact Or.inl (hlater ▸ hh)
    · exact Or.inr ⟨ws₀, v, rfl, hno⟩

end reads

/-! ## The row of a record, later -/

section later
variable {env : Env} {db : Database} {ws : List Write}

/-- A run's row stays as it is until a close names it. -/
theorem WellFormed.run_unchanged (h : WellFormed env db) (hv : ∀ v ∈ ws, v.Valid) {r : RunRow} (hr : r ∈ db.runs)
    (hws : ∀ s t, Write.closeRun r.runId s t ∉ ws) : r ∈ (later env db ws).runs := by
  induction ws generalizing db with
  | nil => exact hr
  | cons w ws ih =>
    have he := commit_effect env db w
    have hw := hv w List.mem_cons_self
    refine ih (h.effect hw he) (fun v hmem => hv v (List.mem_cons_of_mem _ hmem)) ?_
      fun s t hmem => hws s t (List.mem_cons_of_mem _ hmem)
    rcases (h.changesOnly he).runs r hr with hkept | ⟨_, s, t, rfl⟩
    · exact hkept
    · exact absurd List.mem_cons_self (hws s t)

/-- An artifact's row stays as it is until an attach names it. -/
theorem WellFormed.artifact_unchanged (h : WellFormed env db) (hv : ∀ v ∈ ws, v.Valid) {r : ArtifactRow}
    (hr : r ∈ db.artifacts) (hws : ∀ e x, Write.attachArtifact r.artifactId e x ∉ ws) :
    r ∈ (later env db ws).artifacts := by
  induction ws generalizing db with
  | nil => exact hr
  | cons w ws ih =>
    have he := commit_effect env db w
    have hw := hv w List.mem_cons_self
    refine ih (h.effect hw he) (fun v hmem => hv v (List.mem_cons_of_mem _ hmem)) ?_
      fun e x hmem => hws e x (List.mem_cons_of_mem _ hmem)
    rcases (h.changesOnly he).artifacts r hr with hkept | ⟨e, x, rfl⟩
    · exact hkept
    · exact absurd List.mem_cons_self (hws e x)

/-- Two records of one type and one identity. -/
inductive SameRow : Reply → Reply → Prop
  | strategy {s s'} (id : s'.strategyId = s.strategyId) : SameRow (.strategy s) (.strategy s')
  | strategyVersion {v v'} (id : (v'.strategyId, v'.strategyVersion) = (v.strategyId, v.strategyVersion)) :
    SameRow (.strategyVersion v) (.strategyVersion v')
  | experiment {e e'} (id : e'.experimentId = e.experimentId) : SameRow (.experiment e) (.experiment e')
  | run {r r'} (id : r'.runId = r.runId) : SameRow (.run r) (.run r')
  | evidence {e e'} (id : e'.evidenceId = e.evidenceId) : SameRow (.evidence e) (.evidence e')
  | artifact {a a'} (id : a'.artifactId = a.artifactId) : SameRow (.artifact a) (.artifact a')
  | promotion {t t'} (id : t'.transitionId = t.transitionId) : SameRow (.promotion t) (.promotion t')
  | health {x x'} (id : x'.healthId = x.healthId) : SameRow (.health x) (.health x')

theorem sameRow_of_identity {rep rep' : Reply} (h : rep'.identity = rep.identity) : SameRow rep rep' := by
  cases rep <;> cases rep' <;> injection h with htable hid <;> try cases htable
  · exact .strategy (congrArg Prod.fst hid)
  · exact .strategyVersion hid
  · exact .experiment (congrArg Prod.fst hid)
  · exact .run (congrArg Prod.fst hid)
  · exact .evidence (congrArg Prod.fst hid)
  · exact .artifact (congrArg Prod.fst hid)
  · exact .promotion (congrArg Prod.fst hid)
  · exact .health (congrArg Prod.fst hid)

/-- Once a record's row is there, its identity is taken. -/
theorem Database.Keeps.not_noRow {db' : Database} {rep rep' : Reply} (h : db.Keeps env rep) (hext : db.Extends db')
    (hsame : SameRow rep rep') : ¬ db'.NoRow rep' := by
  intro hno
  cases hsame with
  | strategy hid =>
    obtain ⟨r, hr, rfl⟩ := hext.strategies.mem h.2
    exact hno _ hr hid.symm
  | strategyVersion hid =>
    obtain ⟨r, hr, rfl⟩ := hext.strategyVersions.mem h.2
    exact hno _ hr hid.symm
  | experiment hid =>
    obtain ⟨_, k, hrow⟩ := h
    obtain ⟨r, hr, rfl⟩ := hext.experiments.mem hrow
    exact hno _ hr hid.symm
  | run hid =>
    obtain ⟨_, k, hrow⟩ := h
    obtain ⟨r, hr, hc⟩ := hext.runs.mem hrow
    exact hno _ hr ((congrArg RunRow.runId hc.1).trans hid.symm)
  | evidence hid =>
    obtain ⟨r, hr, rfl⟩ := hext.evidence.mem h.2
    exact hno _ hr hid.symm
  | artifact hid =>
    obtain ⟨_, k, p, hrow⟩ := h
    obtain ⟨r, hr, ha⟩ := hext.artifacts.mem hrow
    exact hno _ hr ((congrArg ArtifactRow.artifactId ha.1).trans hid.symm)
  | promotion hid =>
    obtain ⟨_, k, hrow⟩ := h
    obtain ⟨r, hr, rfl⟩ := hext.promotions.mem hrow
    exact hno _ hr hid.symm
  | health hid =>
    obtain ⟨_, k, hrow⟩ := h
    obtain ⟨r, hr, rfl⟩ := hext.healthRecords.mem hrow
    exact hno _ hr hid.symm

/-! ## Decoding -/

/-- Two rows of one identity are one row, which decodes to one record. -/
theorem TableOk.read_unique {Row I Rec : Type} {origin : Row → Prop} {ident : Row → I}
    {keyOf : Row → Option (String × String)} {rows : List Row} (h : TableOk origin ident keyOf rows)
    {read : Row → Except Exc Rec} {r r' : Row} {x x' : Rec} (hr : r ∈ rows) (hr' : r' ∈ rows)
    (hid : ident r' = ident r) (hread : read r = .ok x) (hread' : read r' = .ok x') : x' = x := by
  obtain rfl := h.distinct.eq_of_ident hr' hr hid
  exact Except.ok.inj (hread'.symm.trans hread)

theorem sortKeys_obj (kvs : List (String × Json)) : sortKeys (.obj kvs) = .obj (sortFields kvs) := by
  rw [sortKeys]
  rfl

theorem sameJson_sortKeys (j : Json) : SameJson (sortKeys j) j := sortKeys_sortKeys j

theorem sameOpt_sortItems (d : Option (List (String × PyFloat))) : SameOpt List.Perm (d.map sortItems) d := by
  cases d with
  | none => exact trivial
  | some d => exact List.perm_insertionSort _ d

theorem sameOpt_sortFields (d : Option (List (String × Json))) :
    SameOpt (fun a b => SameJson (.obj a) (.obj b)) (d.map sortFields) d := by
  cases d with
  | none => exact trivial
  | some d =>
    show SameJson (.obj (sortFields d)) (.obj d)
    rw [← sortKeys_obj]
    exact sameJson_sortKeys _

/-- Evidence is read back with its mappings in key order. -/
theorem faithful_evidence_stored (ws : List Write) (e : EvidenceRecord) :
    Faithful ws (.evidence e) (.evidence e.stored) :=
  ⟨rfl, List.perm_insertionSort _ e.metrics, sameJson_sortKeys e.notes⟩

/-- A health record is read back with its mappings in key order and its REAL columns as they keep them. -/
theorem faithful_health_stored_iff (ws : List Write) (x : StrategyHealthRecord) :
    Faithful ws (.health x) (.health x.stored) ↔ ¬ x.HasNaNReal := by
  constructor
  · rintro ⟨hkept, _⟩ ⟨f, hf, hnan⟩
    have hkept : x.realsKept = x := hkept
    have hbind : f.2 x = Sql.bindReal (f.2 x) := by
      conv_lhs => rw [← hkept]
      exact realField_kept hf x
    rw [hnan] at hbind
    cases hbind
  · intro hn
    exact ⟨StrategyHealthRecord.realsKept_eq hn, sameOpt_sortItems _, sameOpt_sortItems _, sameOpt_sortFields _⟩

/-- A run's row, whatever a close made of it, decodes to the run submitted with the status and the
end of the row. -/
theorem read_closed {r : Run} (hv : r.Valid) {k : Option String} {row : RunRow} {r' : Run} (ho : row.Origin env)
    (hc : (r.toRow env k).Closes row) (hread : rowToRun row = .ok r') :
    { r' with status := r.status, endedAt := r.endedAt } = r := by
  obtain ⟨run, k', status, endedAt, _, _, hrow, hread'⟩ := ho.read
  have hstatus : row.status = status.value := congrArg RunRow.status hrow
  have hended : row.endedAt = endedAt.map dtToStr := congrArg RunRow.endedAt hrow
  have hdecoded := rowToRun_toRow env hv k status endedAt
  rw [← hstatus, ← hended, ← hc.1, hread] at hdecoded
  rw [Except.ok.inj hdecoded]

/-- An artifact's row, whatever an attach made of it, decodes to the artifact submitted with the
links of the row. -/
theorem read_attached {a : ArtifactRecord} (hv : a.Valid) {k p : Option String}
    {row : ArtifactRow} {a' : ArtifactRecord}
    (ha : (a.toRow env k p).Attaches row) (hread : rowToArtifact row = .ok a') :
    { a' with runId := a.runId, evidenceId := a.evidenceId } = a := by
  rw [ha.1] at hread
  unfold rowToArtifact ArtifactRecord.toRow at hread
  simp only [strToDt_dtToStr] at hread
  obtain rfl := (runChecks_then_eq_ok.1 hread).2
  exact ((ArtifactRecord.valid_iff a).1 hv).2

/-- **A later row of the record** decodes to the record written, but for a health record with a NaN. -/
theorem WellFormed.faithful_of_holds (h : WellFormed env db) (hv : ∀ v ∈ ws, v.Valid) {rep rep' : Reply}
    (hkeeps : db.Keeps env rep) (hsame : SameRow rep rep') (hholds : (later env db ws).Holds env rep')
    (hnan : ∀ x, rep = .health x → ¬ x.HasNaNReal) : Faithful ws rep rep' := by
  have hwf : WellFormed env (later env db ws) := foldl_commit_wellFormed h hv
  have hext : db.Extends (later env db ws) := foldl_commit_extends h hv
  cases hsame with
  | @strategy s s' hid =>
    obtain ⟨hvalid, hrow⟩ := hkeeps
    obtain ⟨row, hmem, hread⟩ := hholds
    obtain ⟨_, hrow', rfl⟩ := hext.strategies.mem hrow
    obtain ⟨x, _, rfl, hx⟩ := (hwf.strategies.origin row hmem).read
    obtain rfl := Except.ok.inj (hx.symm.trans hread)
    exact hwf.strategies.read_unique hrow' hmem hid (rowToStrategy_toRow hvalid) hread
  | @strategyVersion v v' hid =>
    obtain ⟨hvalid, hrow⟩ := hkeeps
    obtain ⟨row, hmem, hread⟩ := hholds
    obtain ⟨_, hrow', rfl⟩ := hext.strategyVersions.mem hrow
    obtain ⟨x, _, rfl, hx⟩ := (hwf.strategyVersions.origin row hmem).read
    obtain rfl := Except.ok.inj (hx.symm.trans hread)
    exact hwf.strategyVersions.read_unique hrow' hmem hid (rowToStrategyVersion_toRow hvalid) hread
  | @experiment e e' hid =>
    obtain ⟨hvalid, k, hrow⟩ := hkeeps
    obtain ⟨row, hmem, hread⟩ := hholds
    obtain ⟨_, hrow', rfl⟩ := hext.experiments.mem hrow
    obtain ⟨x, _, _, rfl, hx⟩ := (hwf.experiments.origin row hmem).read
    obtain rfl := Except.ok.inj (hx.symm.trans hread)
    exact hwf.experiments.read_unique hrow' hmem hid (rowToExperiment_toRow env hvalid k) hread
  | @run r r' hid =>
    obtain ⟨hvalid, k, hrow⟩ := hkeeps
    obtain ⟨row, hmem, hread⟩ := hholds
    obtain ⟨x, _, _, _, _, _, hx, hread'⟩ := (hwf.runs.origin row hmem).read
    have hrowid : row.runId = r.runId := by
      have hx : row.runId = x.runId := congrArg RunRow.runId hx
      obtain rfl := Except.ok.inj (hread'.symm.trans hread)
      exact hx.trans hid
    refine ⟨?_, fun hclose => ?_⟩
    · obtain ⟨row', hrow', hc⟩ := hext.runs.mem hrow
      obtain rfl : row = row' :=
        hwf.runs.distinct.eq_of_ident hmem hrow' (hrowid.trans (congrArg RunRow.runId hc.1).symm)
      exact read_closed hvalid (hwf.runs.origin row hmem) hc hread
    · have hrow' : r.toRow env k ∈ (later env db ws).runs := h.run_unchanged hv hrow hclose
      exact hwf.runs.read_unique hrow' hmem hrowid (rowToRun_toRow env hvalid k r.status r.endedAt) hread
  | @evidence e e' hid =>
    obtain ⟨hvalid, hrow⟩ := hkeeps
    obtain ⟨row, hmem, hread⟩ := hholds
    obtain ⟨_, hrow', rfl⟩ := hext.evidence.mem hrow
    obtain ⟨x, _, rfl, hx⟩ := (hwf.evidence.origin row hmem).read
    obtain rfl := Except.ok.inj (hx.symm.trans hread)
    have hstored := hwf.evidence.read_unique hrow' hmem hid (rowToEvidence_toRow env hvalid) hread
    rw [hstored]
    exact faithful_evidence_stored ws e
  | @artifact a a' hid =>
    obtain ⟨hvalid, k, p, hrow⟩ := hkeeps
    obtain ⟨row, hmem, hread⟩ := hholds
    obtain ⟨x, _, _, _, hx, hread'⟩ := (hwf.artifacts.origin row hmem).read
    have hrowid : row.artifactId = a.artifactId := by
      have hx : row.artifactId = x.artifactId := congrArg ArtifactRow.artifactId hx
      obtain rfl := Except.ok.inj (hread'.symm.trans hread)
      exact hx.trans hid
    refine ⟨?_, fun hattach => ?_⟩
    · obtain ⟨row', hrow', ha⟩ := hext.artifacts.mem hrow
      obtain rfl : row = row' :=
        hwf.artifacts.distinct.eq_of_ident hmem hrow' (hrowid.trans (congrArg ArtifactRow.artifactId ha.1).symm)
      exact read_attached hvalid ha hread
    · have hrow' : a.toRow env k p ∈ (later env db ws).artifacts := h.artifact_unchanged hv hrow hattach
      exact hwf.artifacts.read_unique hrow' hmem hrowid (rowToArtifact_toRow env hvalid k p) hread
  | @promotion t t' hid =>
    obtain ⟨hvalid, k, hrow⟩ := hkeeps
    obtain ⟨row, hmem, hread⟩ := hholds
    obtain ⟨_, hrow', rfl⟩ := hext.promotions.mem hrow
    obtain ⟨x, _, _, rfl, hx⟩ := (hwf.promotions.origin row hmem).read
    obtain rfl := Except.ok.inj (hx.symm.trans hread)
    exact hwf.promotions.read_unique hrow' hmem hid (rowToPromotion_toRow env hvalid k) hread
  | @health x x' hid =>
    obtain ⟨hvalid, k, hrow⟩ := hkeeps
    obtain ⟨row, hmem, hread⟩ := hholds
    obtain ⟨_, hrow', rfl⟩ := hext.healthRecords.mem hrow
    obtain ⟨y, _, _, rfl, hy⟩ := (hwf.healthRecords.origin row hmem).read
    obtain rfl := Except.ok.inj (hy.symm.trans hread)
    have hstored := hwf.healthRecords.read_unique hrow' hmem hid (rowToHealth_toRow env hvalid k) hread
    rw [hstored]
    exact (faithful_health_stored_iff ws x).2 (hnan x rfl)

/-! ## Every row reads -/

theorem WellFormed.decodes (h : WellFormed env db) (rep : Reply) : db.Decodes env rep := by
  cases rep with
  | strategy _ =>
    intro r hr
    obtain ⟨x, _, _, hread⟩ := (h.strategies.origin r hr).read
    exact ⟨_, hread⟩
  | strategyVersion _ =>
    intro r hr
    obtain ⟨x, _, _, hread⟩ := (h.strategyVersions.origin r hr).read
    exact ⟨_, hread⟩
  | experiment _ =>
    intro r hr
    obtain ⟨x, _, _, _, hread⟩ := (h.experiments.origin r hr).read
    exact ⟨_, hread⟩
  | run _ =>
    intro r hr
    obtain ⟨x, _, _, _, _, _, _, hread⟩ := (h.runs.origin r hr).read
    exact ⟨_, hread⟩
  | evidence _ =>
    intro r hr
    obtain ⟨x, _, _, hread⟩ := (h.evidence.origin r hr).read
    exact ⟨_, hread⟩
  | artifact _ =>
    intro r hr
    obtain ⟨x, _, _, _, _, hread⟩ := (h.artifacts.origin r hr).read
    exact ⟨_, hread⟩
  | promotion _ =>
    intro r hr
    obtain ⟨x, _, _, _, hread⟩ := (h.promotions.origin r hr).read
    exact ⟨_, hread⟩
  | health _ =>
    intro r hr
    obtain ⟨x, _, _, _, hread⟩ := (h.healthRecords.origin r hr).read
    exact ⟨_, hread⟩

/-- **The row of a record written reads** in every later state. -/
theorem WellFormed.reads_later (h : WellFormed env db) (hv : ∀ v ∈ ws, v.Valid) {rep : Reply}
    (hkeeps : db.Keeps env rep) : (later env db ws).Reads env rep := by
  have hwf : WellFormed env (later env db ws) := foldl_commit_wellFormed h hv
  have hext : db.Extends (later env db ws) := foldl_commit_extends h hv
  refine ⟨hwf.decodes rep, ?_⟩
  cases rep with
  | strategy s =>
    obtain ⟨hvalid, hrow⟩ := hkeeps
    obtain ⟨_, hrow', rfl⟩ := hext.strategies.mem hrow
    exact ⟨.strategy s, rfl, ⟨_, hrow', rowToStrategy_toRow hvalid⟩, trivial⟩
  | strategyVersion v =>
    obtain ⟨hvalid, hrow⟩ := hkeeps
    obtain ⟨_, hrow', rfl⟩ := hext.strategyVersions.mem hrow
    exact ⟨.strategyVersion v, rfl, ⟨_, hrow', rowToStrategyVersion_toRow hvalid⟩, trivial⟩
  | experiment e =>
    obtain ⟨hvalid, k, hrow⟩ := hkeeps
    obtain ⟨_, hrow', rfl⟩ := hext.experiments.mem hrow
    exact ⟨.experiment e, rfl, ⟨_, hrow', rowToExperiment_toRow env hvalid k⟩, trivial⟩
  | run r =>
    obtain ⟨hvalid, k, hrow⟩ := hkeeps
    obtain ⟨row, hrow', hc⟩ := hext.runs.mem hrow
    obtain ⟨x, _, status, endedAt, _, _, hx, hread⟩ := (hwf.runs.origin row hrow').read
    have hid : x.runId = r.runId :=
      (congrArg RunRow.runId hx).symm.trans (congrArg RunRow.runId hc.1)
    exact ⟨.run { x with status := status, endedAt := endedAt }, congrArg (TableName.runs, ·, "") hid,
      ⟨row, hrow', hread⟩, trivial⟩
  | evidence e =>
    obtain ⟨hvalid, hrow⟩ := hkeeps
    obtain ⟨_, hrow', rfl⟩ := hext.evidence.mem hrow
    have hread := rowToEvidence_toRow env hvalid
    exact ⟨.evidence e.stored, rfl, ⟨_, hrow', hread⟩, (hwf.fetchEvidence_eq hrow').trans hread⟩
  | artifact a =>
    obtain ⟨hvalid, k, p, hrow⟩ := hkeeps
    obtain ⟨row, hrow', ha⟩ := hext.artifacts.mem hrow
    obtain ⟨x, _, _, _, hx, hread⟩ := (hwf.artifacts.origin row hrow').read
    have hrowid : row.artifactId = x.artifactId := congrArg ArtifactRow.artifactId hx
    have hid : x.artifactId = a.artifactId := hrowid.symm.trans (congrArg ArtifactRow.artifactId ha.1)
    refine ⟨.artifact x, congrArg (TableName.artifacts, ·, "") hid, ⟨row, hrow', hread⟩, ?_⟩
    show getArtifact (later env db ws) x.artifactId = .ok x
    have hfind : (later env db ws).artifacts.find? (·.artifactId == row.artifactId) = some row :=
      hwf.artifacts.distinct.find_ident hrow' fun _ => beq_iff_eq
    unfold getArtifact
    rw [← hrowid, hfind]
    exact hread
  | promotion t =>
    obtain ⟨hvalid, k, hrow⟩ := hkeeps
    obtain ⟨_, hrow', rfl⟩ := hext.promotions.mem hrow
    exact ⟨.promotion t, rfl, ⟨_, hrow', rowToPromotion_toRow env hvalid k⟩, trivial⟩
  | health x =>
    obtain ⟨hvalid, k, hrow⟩ := hkeeps
    obtain ⟨_, hrow', rfl⟩ := hext.healthRecords.mem hrow
    exact ⟨.health x.stored, rfl, ⟨_, hrow', rowToHealth_toRow env hvalid k⟩, trivial⟩

end later

/-! ## Read-back -/

/-- **A record inserted is read back as it was returned**: in every later state its row reads, and
every method gives the record returned, exactly when it is no health record with a NaN in a REAL
column. -/
theorem read_back_is_faithful_iff {env : Env} {db db' : Database} {w : Write} {rep : Reply}
    (reached : Reachable env db) (valid : w.Valid) (inserts : Inserts env db w rep db') :
    ReadBackFaithful env db' rep ↔ ∀ x, rep = .health x → ¬ x.HasNaNReal := by
  have hwf : WellFormed env db' := reached.wellFormed.effect valid (effect_of_run (Write.run_of_call inserts.run))
  have hkeeps := inserts.keeps valid
  constructor
  · rintro h x rfl
    obtain ⟨hvalid, k, hrow⟩ := hkeeps
    have hread : HandsBack env db' [] (.health x.stored) := .row ⟨_, hrow, rowToHealth_toRow env hvalid k⟩
    exact (faithful_health_stored_iff [] x).1 (h.faithful [] (fun _ hv => by cases hv) _ hread rfl)
  · intro hnan
    refine ⟨fun ws hv => hwf.reads_later hv hkeeps, fun ws hv rep' hback hid => ?_⟩
    have hsame := sameRow_of_identity hid
    rcases hback.cases_row hwf hv with hholds | ⟨ws₀, v, rfl, hno⟩
    · exact hwf.faithful_of_holds hv hkeeps hsame hholds hnan
    · have hext : db'.Extends (later env db' ws₀) :=
        foldl_commit_extends hwf fun x hx => hv x (List.mem_append_left _ hx)
      exact absurd hno (hkeeps.not_noRow hext hsame)

/-- The sample experiment, inserted into the empty registry. -/
theorem sampleExperiment_reads_back :
    ReadBackFaithful .reference { Database.empty with experiments := [sampleExperiment.toRow .reference none] }
      (.experiment sampleExperiment) := by
  have hrun : (Write.createExperiment sampleExperiment none).call .reference .empty =
      .ok (.experiment sampleExperiment,
        { Database.empty with experiments := [sampleExperiment.toRow .reference none] }) := rfl
  have hins : Inserts .reference .empty (.createExperiment sampleExperiment none) (.experiment sampleExperiment)
      { Database.empty with experiments := [sampleExperiment.toRow .reference none] } := by
    refine ⟨hrun, rfl, fun h => ?_⟩
    cases congrArg Database.experiments h
  have hvalid : (Write.createExperiment sampleExperiment none).Valid := sampleExperiment_valid
  refine (read_back_is_faithful_iff (.refl _) hvalid hins).2 fun x hx => ?_
  cases hx

/-- The health record with a NaN: the row reads back without it. -/
theorem nan_is_not_read_back :
    Inserts .reference .empty (.recordHealth sampleHealth none false) (.health sampleHealth)
        { Database.empty with healthRecords := [sampleHealth.toRow .reference none] } ∧
      ¬ ReadBackFaithful .reference { Database.empty with healthRecords := [sampleHealth.toRow .reference none] }
        (.health sampleHealth) := by
  have hmem : sampleHealth.toRow .reference none ∈
      ({ Database.empty with healthRecords := [sampleHealth.toRow .reference none] } : Database).healthRecords :=
    List.mem_singleton_self _
  refine ⟨⟨rfl, rfl, fun h => ?_⟩, fun h => ?_⟩
  · cases congrArg Database.healthRecords h
  · have hback := h.faithful [] (fun _ hv => by cases hv) (.health sampleHealth.stored)
      (.row ⟨_, hmem, rowToHealth_toRow .reference sampleHealth_valid none⟩) rfl
    exact (faithful_health_stored_iff [] sampleHealth).1 hback
      ⟨("mae", (·.mae)), by simp [realFields], rfl⟩

end Cer
