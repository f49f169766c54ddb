import Cer.Metadata.Store

/-!
# What a write does to the database

`Effect` lists once what a committed write can have done, with what its guards and
lookups established; `effect_of_run` is the inversion lemma of the ten writes.  From
it follow the two facts everything else is derived from:

* `WellFormed`: every row is one an INSERT wrote for a valid record, identities and
  `(producer, key)` pairs are not shared, and references name existing rows.
* `Database.Extends`: a later database keeps every row, but for a run's close and an
  artifact's links.
-/

namespace Cer

open Py

/-! ## The inserting writes -/

variable {Row Rec : Type}

/-- The three ways an inserting write succeeds. -/
theorem Submission.run_ok {s : Submission Row Rec} {db db' : Database} {rec : Rec}
    (h : s.run db = .ok (rec, db')) :
    (∃ r, s.byKey db = some r ∧ s.fpOf r = some s.fp ∧ s.replay r = .ok rec ∧ db' = db) ∨
      (∃ r, s.byKey db = none ∧ s.byId db = some r ∧ s.existing r = .ok rec ∧ db' = db) ∨
      (s.byKey db = none ∧ s.byId db = none ∧ s.table.insert db s.row = .ok db' ∧ rec = s.record) := by
  unfold Submission.run at h
  cases hk : s.byKey db with
  | some r =>
    rw [hk] at h
    dsimp only at h
    by_cases hfp : s.fpOf r = some s.fp
    · rw [if_neg (not_not_intro hfp)] at h
      cases hr : s.replay r with
      | error e => rw [hr] at h; cases h
      | ok x =>
        rw [hr] at h
        injection h with h
        injection h with h1 h2
        subst h1
        exact Or.inl ⟨r, rfl, hfp, hr, h2.symm⟩
    · rw [if_pos hfp] at h
      cases h
  | none =>
    rw [hk] at h
    dsimp only at h
    cases hi : s.byId db with
    | some r =>
      rw [hi] at h
      dsimp only at h
      cases hr : s.existing r with
      | error e => rw [hr] at h; cases h
      | ok x =>
        rw [hr] at h
        injection h with h
        injection h with h1 h2
        subst h1
        exact Or.inr (Or.inl ⟨r, rfl, rfl, hr, h2.symm⟩)
    | none =>
      rw [hi] at h
      dsimp only at h
      cases hins : s.table.insert db s.row with
      | error e => rw [hins] at h; cases h
      | ok db1 =>
        rw [hins] at h
        injection h with h
        injection h with h1 h2
        subst h2
        exact Or.inr (Or.inr ⟨rfl, rfl, rfl, h1.symm⟩)

/-- A bound key with the submission's fingerprint: its row is handed back. -/
theorem Submission.run_replay {s : Submission Row Rec} {db : Database} {r : Row} {rec : Rec}
    (hk : s.byKey db = some r)
    (hfp : s.fpOf r = some s.fp) (hr : s.replay r = .ok rec) : s.run db = .ok (rec, db) := by
  unfold Submission.run
  rw [hk]
  dsimp only
  rw [if_neg (not_not_intro hfp), hr]
  rfl

/-- A bound key with another fingerprint. -/
theorem Submission.run_conflict {s : Submission Row Rec} {db : Database} {r : Row} (hk : s.byKey db = some r)
    (hfp : s.fpOf r ≠ some s.fp) : s.run db = .error (idempotencyConflict s.conflict) := by
  unfold Submission.run
  rw [hk]
  dsimp only
  rw [if_pos hfp]

/-- The identity exit: the key unused, the identity stored with the same content. -/
theorem Submission.run_existing {s : Submission Row Rec} {db : Database} {r : Row}
    {rec : Rec} (hk : s.byKey db = none)
    (hi : s.byId db = some r) (he : s.existing r = .ok rec) : s.run db = .ok (rec, db) := by
  unfold Submission.run
  rw [hk, hi]
  dsimp only
  rw [he]
  rfl

/-- The row of the submission has the identity and the key the lookups ask for. -/
structure Submission.Lawful {I : Type} (s : Submission Row Rec) (ident : Row → I) : Prop where
  sameId_iff : ∀ r, s.sameId r = true ↔ ident r = ident s.row
  key_row : s.keyOf s.row = s.key

/-- No row has the identity the lookup did not find. -/
theorem Submission.Lawful.fresh_id {I : Type} {s : Submission Row Rec} {ident : Row → I} (hl : s.Lawful ident)
    {db : Database} (h : s.byId db = none) : ∀ r ∈ s.table.rows db, ident r ≠ ident s.row := by
  intro r hr he
  exact absurd ((hl.sameId_iff r).2 he) (List.find?_eq_none.1 h r hr)

/-- No row has the key the lookup did not find. -/
theorem Submission.Lawful.fresh_key {I : Type} {s : Submission Row Rec} {ident : Row → I} (hl : s.Lawful ident)
    {db : Database} (h : s.byKey db = none) : ∀ k, s.keyOf s.row = some k →
    ∀ r ∈ s.table.rows db, s.keyOf r ≠ some k := by
  intro k hk r hr he
  rw [hl.key_row] at hk
  unfold Submission.byKey at h
  rw [hk] at h
  have := List.find?_eq_none.1 h r hr
  exact this (by simpa using he)

/-! ## Effects -/

/-- The row with this identity is there. -/
def Database.hasStrategy (db : Database) (i : String) : Prop := ∃ r ∈ db.strategies, r.strategyId = i
def Database.hasExperiment (db : Database) (i : String) : Prop := ∃ r ∈ db.experiments, r.experimentId = i
def Database.hasRun (db : Database) (i : String) : Prop := ∃ r ∈ db.runs, r.runId = i
def Database.hasEvidence (db : Database) (i : String) : Prop := ∃ r ∈ db.evidence, r.evidenceId = i

/-- A row may follow: its identity and its key are free. -/
structure Fresh {Row I : Type} (ident : Row → I) (keyOf : Row → Option (String × String)) (rows : List Row)
    (row : Row) : Prop where
  id : ∀ r ∈ rows, ident r ≠ ident row
  key : ∀ k, keyOf row = some k → ∀ r ∈ rows, keyOf r ≠ some k

def StrategyRow.ident (r : StrategyRow) : String := r.strategyId
def StrategyVersionRow.ident (r : StrategyVersionRow) : String × String := (r.strategyId, r.strategyVersion)
def ExperimentRow.ident (r : ExperimentRow) : String := r.experimentId
def RunRow.ident (r : RunRow) : String := r.runId
def EvidenceRow.ident (r : EvidenceRow) : String := r.evidenceId
def ArtifactRow.ident (r : ArtifactRow) : String := r.artifactId
def PromotionRow.ident (r : PromotionRow) : String := r.transitionId
def HealthRow.ident (r : HealthRow) : String := r.healthId

def ExperimentRow.key (r : ExperimentRow) : Option (String × String) := producerKey r.producer r.idempotencyKey
def RunRow.key (r : RunRow) : Option (String × String) := producerKey r.producer r.idempotencyKey
def EvidenceRow.key (r : EvidenceRow) : Option (String × String) := some (r.producer, r.idempotencyKey)
def PromotionRow.key (r : PromotionRow) : Option (String × String) := producerKey r.producer r.idempotencyKey
def HealthRow.key (r : HealthRow) : Option (String × String) := producerKey r.producer r.idempotencyKey

/-- A row without a key column. -/
def noKey {Row : Type} (_ : Row) : Option (String × String) := none

/-- A run's row after a close. -/
def RunRow.closed (status : RunStatus) (endedAt : DateTime) (r : RunRow) : RunRow :=
  { r with status := status.value, endedAt := some (dtToStr endedAt) }

/-- An artifact's row with these links. -/
def ArtifactRow.linked (evidenceId runId : Option String) (r : ArtifactRow) : ArtifactRow :=
  { r with evidenceId := evidenceId, runId := runId }

/-- A link may become `new`: it is set already, or it was NULL and its target exists. -/
def LinkStep (hasTarget : String → Prop) (current new : Option String) : Prop :=
  new = current ∨ current = none ∧ ∃ i, new = some i ∧ hasTarget i

/-- What a committed write did to the database. -/
inductive Effect (env : Env) (db : Database) : Write → Database → Prop
  | unchanged (w : Write) : Effect env db w db
  | strategy (s : Strategy) (fresh : Fresh StrategyRow.ident noKey db.strategies s.toRow) :
    Effect env db (.registerStrategy s) { db with strategies := db.strategies ++ [s.toRow] }
  | strategyVersion (v : StrategyVersion) (strategy : db.hasStrategy v.strategyId)
    (fresh : Fresh StrategyVersionRow.ident noKey db.strategyVersions v.toRow) :
    Effect env db (.registerStrategyVersion v) { db with strategyVersions := db.strategyVersions ++ [v.toRow] }
  | experiment (e : Experiment) (k : Option String)
    (fresh : Fresh ExperimentRow.ident ExperimentRow.key db.experiments (e.toRow env k)) :
    Effect env db (.createExperiment e k) { db with experiments := db.experiments ++ [e.toRow env k] }
  | run (r : Run) (k : Option String) (experiment : db.hasExperiment r.experimentId)
    (fresh : Fresh RunRow.ident RunRow.key db.runs (r.toRow env k)) :
    Effect env db (.createRun r k) { db with runs := db.runs ++ [r.toRow env k] }
  | close (i : String) (s : RunStatus) (t : AwareTime) (ended : DateTime) (row : RunRow) (mem : row ∈ db.runs)
    (id : row.runId = i) (isOpen : row.status = RunStatus.open_.value) :
    Effect env db (.closeRun i s t)
      { db with runs := db.runs.map fun r => if r.runId == i then r.closed s ended else r }
  | evidence (e : EvidenceRecord) (run : ∀ i ∈ e.runId, db.hasRun i)
    (experiment : ∀ i ∈ e.experimentId, db.hasExperiment i)
    (fresh : Fresh EvidenceRow.ident EvidenceRow.key db.evidence (e.toRow env)) :
    Effect env db (.appendEvidence e) { db with evidence := db.evidence ++ [e.toRow env] }
  | artifact (a : ArtifactRecord) (k p : Option String) (run : ∀ i ∈ a.runId, db.hasRun i)
    (evidence : ∀ i ∈ a.evidenceId, db.hasEvidence i) (scope : k.isSome → p.isSome)
    (fresh : Fresh ArtifactRow.ident ArtifactRow.key db.artifacts (a.toRow env k p)) :
    Effect env db (.registerArtifact a k p) { db with artifacts := db.artifacts ++ [a.toRow env k p] }
  | attach (i : String) (e r e' r' : Option String) (row : ArtifactRow) (mem : row ∈ db.artifacts)
    (id : row.artifactId = i) (evidence : LinkStep db.hasEvidence row.evidenceId e')
    (run : LinkStep db.hasRun row.runId r') :
    Effect env db (.attachArtifact i e r)
      { db with artifacts := db.artifacts.map fun x => if x.artifactId == i then x.linked e' r' else x }
  | promotion (t : PromotionTransition) (k : Option String)
    (fresh : Fresh PromotionRow.ident PromotionRow.key db.promotions (t.toRow env k)) :
    Effect env db (.recordPromotion t k) { db with promotions := db.promotions ++ [t.toRow env k] }
  | health (h : StrategyHealthRecord) (k : Option String) {n : Bool}
    (fresh : Fresh HealthRow.ident HealthRow.key db.healthRecords (h.toRow env k)) :
    Effect env db (.recordHealth h k n) { db with healthRecords := db.healthRecords ++ [h.toRow env k] }

/-! ## Inversion -/

theorem require_ok {present : Bool} {e : Exc} {u : Unit} (h : require present e = .ok u) : present = true := by
  cases present with
  | true => rfl
  | false => cases h

theorem asReply_mk {α : Type} (f : α → Reply) (a : α) (db : Database) :
    asReply f (.ok (a, db)) = .ok (f a, db) := rfl

theorem asReply_ok {α : Type} {f : α → Reply} {x : Except Exc (α × Database)} {rep : Reply} {db' : Database}
    (h : asReply f x = .ok (rep, db')) : ∃ a, x = .ok (a, db') ∧ rep = f a := by
  cases x with
  | error e => cases h
  | ok y =>
    injection h with h
    injection h with h1 h2
    subst h2
    exact ⟨y.1, rfl, h1.symm⟩

theorem requireStrategy_ok {db : Database} {i : String} {u : Unit} (h : requireStrategy db i = .ok u) :
    db.hasStrategy i := by
  obtain ⟨r, hr, he⟩ := List.any_eq_true.1 (require_ok h)
  exact ⟨r, hr, by simpa using he⟩

theorem requireExperiment_ok {db : Database} {i : String} {u : Unit} (h : requireExperiment db i = .ok u) :
    db.hasExperiment i := by
  obtain ⟨r, hr, he⟩ := List.any_eq_true.1 (require_ok h)
  exact ⟨r, hr, by simpa using he⟩

theorem requireRun_ok {db : Database} {i : String} {u : Unit} (h : requireRun db i = .ok u) : db.hasRun i := by
  obtain ⟨r, hr, he⟩ := List.any_eq_true.1 (require_ok h)
  exact ⟨r, hr, by simpa using he⟩

theorem requireEvidence_ok {db : Database} {i : String} {u : Unit} (h : requireEvidence db i = .ok u) :
    db.hasEvidence i := by
  obtain ⟨r, hr, he⟩ := List.any_eq_true.1 (require_ok h)
  exact ⟨r, hr, by simpa using he⟩

theorem ifPresent_ok {guard : String → Except Exc Unit} {P : String → Prop} (hg : ∀ i u, guard i = .ok u → P i)
    {v : Option String} {u : Unit} (h : ifPresent guard v = .ok u) : ∀ i ∈ v, P i := by
  intro i hi
  rw [Option.mem_def.1 hi] at h
  exact hg i u h

/-! A guard passes where the row is there. -/

theorem require_of {present : Bool} {e : Exc} (h : present = true) : require present e = .ok () := by
  rw [h]
  rfl

theorem requireExperiment_of {db : Database} {i : String} (h : db.hasExperiment i) :
    requireExperiment db i = .ok () := by
  obtain ⟨r, hr, hi⟩ := h
  exact require_of (List.any_eq_true.2 ⟨r, hr, beq_iff_eq.2 hi⟩)

theorem requireRun_of {db : Database} {i : String} (h : db.hasRun i) : requireRun db i = .ok () := by
  obtain ⟨r, hr, hi⟩ := h
  exact require_of (List.any_eq_true.2 ⟨r, hr, beq_iff_eq.2 hi⟩)

theorem requireEvidence_of {db : Database} {i : String} (h : db.hasEvidence i) :
    requireEvidence db i = .ok () := by
  obtain ⟨r, hr, hi⟩ := h
  exact require_of (List.any_eq_true.2 ⟨r, hr, beq_iff_eq.2 hi⟩)

theorem ifPresent_of {guard : String → Except Exc Unit} {v : Option String} (h : ∀ i ∈ v, guard i = .ok ()) :
    ifPresent guard v = .ok () := by
  cases v with
  | none => rfl
  | some i => exact h i rfl

/-! Or it raises `NotFoundError`, where the row is not. -/

theorem requireRow_cases {Row : Type} (rows : List Row) (id : Row → String) (i m : String) :
    require (rows.any (id · == i)) (notFound m) = .ok () ∧ (∃ r ∈ rows, id r = i) ∨
      (∃ m', require (rows.any (id · == i)) (notFound m) = .error (notFound m')) ∧ ¬ ∃ r ∈ rows, id r = i := by
  by_cases h : ∃ r ∈ rows, id r = i
  · obtain ⟨r, hr, hi⟩ := h
    exact Or.inl ⟨require_of (List.any_eq_true.2 ⟨r, hr, beq_iff_eq.2 hi⟩), r, hr, hi⟩
  · have hnone : rows.any (id · == i) = false :=
      List.any_eq_false.2 fun r hr he => h ⟨r, hr, beq_iff_eq.1 he⟩
    rw [hnone]
    exact Or.inr ⟨⟨m, rfl⟩, h⟩

theorem requireExperiment_cases (db : Database) (i : String) : requireExperiment db i = .ok () ∧
    db.hasExperiment i ∨
    (∃ m, requireExperiment db i = .error (notFound m)) ∧ ¬ db.hasExperiment i :=
  requireRow_cases db.experiments (·.experimentId) i _

theorem requireRun_cases (db : Database) (i : String) : requireRun db i = .ok () ∧ db.hasRun i ∨
    (∃ m, requireRun db i = .error (notFound m)) ∧ ¬ db.hasRun i :=
  requireRow_cases db.runs (·.runId) i _

theorem requireEvidence_cases (db : Database) (i : String) : requireEvidence db i = .ok () ∧ db.hasEvidence i ∨
    (∃ m, requireEvidence db i = .error (notFound m)) ∧ ¬ db.hasEvidence i :=
  requireRow_cases db.evidence (·.evidenceId) i _

theorem ifPresent_cases {guard : String → Except Exc Unit} {P : String → Prop}
    (hg : ∀ i, guard i = .ok () ∧ P i ∨ (∃ m, guard i = .error (notFound m)) ∧ ¬ P i) (v : Option String) :
    ifPresent guard v = .ok () ∧ (∀ i ∈ v, P i) ∨
    (∃ m, ifPresent guard v = .error (notFound m)) ∧ ¬ ∀ i ∈ v, P i := by
  cases v with
  | none => exact Or.inl ⟨rfl, fun i hi => by cases hi⟩
  | some i =>
    rcases hg i with ⟨h, hp⟩ | ⟨h, hp⟩
    · exact Or.inl ⟨h, fun j hj => Option.some.inj hj ▸ hp⟩
    · exact Or.inr ⟨h, fun hall => hp (hall i rfl)⟩

/-- Of two guards the first that fails is heard. -/
theorem guards_cases {g g' : Except Exc Unit} {P P' : Prop} (h : g = .ok () ∧ P ∨
    (∃ m, g = .error (notFound m)) ∧ ¬ P)
    (h' : g' = .ok () ∧ P' ∨ (∃ m, g' = .error (notFound m)) ∧ ¬ P') :
    (g >>= fun _ => g') = .ok () ∧ (P ∧ P') ∨ (∃ m, (g >>= fun _ => g') = .error (notFound m)) ∧ ¬ (P ∧ P') := by
  rcases h with ⟨rfl, hp⟩ | ⟨⟨m, rfl⟩, hp⟩
  · rcases h' with ⟨rfl, hp'⟩ | ⟨⟨m, rfl⟩, hp'⟩
    · exact Or.inl ⟨rfl, hp, hp'⟩
    · exact Or.inr ⟨⟨m, rfl⟩, fun hand => hp' hand.2⟩
  · exact Or.inr ⟨⟨m, rfl⟩, fun hand => hp hand.1⟩

/-- A key no row has finds none. -/
theorem Submission.byKey_unused {s : Submission Row Rec} {db : Database}
    (h : ∀ k, s.key = some k → ∀ r ∈ s.table.rows db, s.keyOf r ≠ some k) :
    s.byKey db = none := by
  unfold Submission.byKey
  cases hk : s.key with
  | none => rfl
  | some k =>
    refine List.find?_eq_none.2 fun r hr => ?_
    rw [beq_iff_eq]
    exact h k hk r hr

/-- An identity no row has finds none. -/
theorem Submission.Lawful.byId_unused {I : Type} {s : Submission Row Rec} {ident : Row → I} (hl : s.Lawful ident)
    {db : Database} (h : ∀ r ∈ s.table.rows db, ident r ≠ ident s.row) : s.byId db = none := by
  refine List.find?_eq_none.2 fun r hr hs => ?_
  exact h r hr ((hl.sameId_iff r).1 hs)

/-- The submission's lookups found nothing, so its row is fresh. -/
theorem Submission.Lawful.fresh {I : Type} {s : Submission Row Rec} {ident : Row → I} (hl : s.Lawful ident)
    {db : Database} (hk : s.byKey db = none) (hi : s.byId db = none) :
    Fresh ident s.keyOf (s.table.rows db) s.row :=
  ⟨hl.fresh_id hi, hl.fresh_key hk⟩

/-- An inserting write either leaves the database alone or appends its row, which is fresh. -/
theorem Submission.effect {I : Type} {s : Submission Row Rec} {ident : Row → I} (hl : s.Lawful ident)
    {db db' : Database} {rec : Rec} (h : s.run db = .ok (rec, db')) :
    db' = db ∨ db' = s.table.setRows db (s.table.rows db ++ [s.row]) ∧
      Fresh ident s.keyOf (s.table.rows db) s.row := by
  rcases Submission.run_ok h with ⟨_, _, _, _, rfl⟩ | ⟨_, _, _, _, rfl⟩ | ⟨hk, hi, hins, _⟩
  · exact Or.inl rfl
  · exact Or.inl rfl
  · exact Or.inr ⟨Table.insert_ok hins, hl.fresh hk hi⟩

theorem strategySubmission_lawful (env : Env) (s : Strategy) :
    (strategySubmission env s).Lawful StrategyRow.ident :=
  ⟨fun _ => beq_iff_eq, rfl⟩

theorem strategyVersionSubmission_lawful (env : Env) (v : StrategyVersion) :
    (strategyVersionSubmission env v).Lawful StrategyVersionRow.ident := by
  refine ⟨fun r => ?_, rfl⟩
  show (r.strategyId == v.strategyId && r.strategyVersion == v.strategyVersion) = true ↔
    (r.strategyId, r.strategyVersion) = (v.strategyId, v.strategyVersion)
  rw [Bool.and_eq_true, beq_iff_eq, beq_iff_eq, Prod.mk.injEq]

theorem experimentSubmission_lawful (env : Env) (e : Experiment) (k : Option String) :
    (experimentSubmission env e k).Lawful ExperimentRow.ident :=
  ⟨fun _ => beq_iff_eq, rfl⟩

theorem runSubmission_lawful (env : Env) (db : Database) (r : Run) (k : Option String) :
    (runSubmission env db r k).Lawful RunRow.ident :=
  ⟨fun _ => beq_iff_eq, rfl⟩

theorem evidenceSubmission_lawful (env : Env) (db : Database) (e : EvidenceRecord) :
    (evidenceSubmission env db e).Lawful EvidenceRow.ident :=
  ⟨fun _ => beq_iff_eq, rfl⟩

theorem artifactSubmission_lawful (env : Env) (a : ArtifactRecord) (k p : Option String) :
    (artifactSubmission env a k p).Lawful ArtifactRow.ident := by
  refine ⟨fun _ => beq_iff_eq, ?_⟩
  show ((if k.isSome then p else none).bind fun p => k.map fun k => (p, k)) = p.bind fun p => k.map fun k => (p, k)
  cases k with
  | none => cases p <;> rfl
  | some k => rfl

theorem promotionSubmission_lawful (env : Env) (t : PromotionTransition) (k : Option String) :
    (promotionSubmission env t k).Lawful PromotionRow.ident :=
  ⟨fun _ => beq_iff_eq, rfl⟩

theorem healthSubmission_lawful (env : Env) (h : StrategyHealthRecord) (k : Option String) (n : Bool) :
    (healthSubmission env h k n).Lawful HealthRow.ident :=
  ⟨fun _ => beq_iff_eq, rfl⟩

theorem requireScope_ok {k p : Option String} {u : Unit} (h : requireScope k p = .ok u) : k.isSome → p.isSome := by
  intro hk
  cases k with
  | none => cases hk
  | some k =>
    cases p with
    | none => cases h
    | some p => rfl

theorem closeRun_ok {db db' : Database} {i : String} {s : RunStatus} {t : AwareTime} {rec : Run}
    (h : closeRun db i s t = .ok (rec, db')) : ∃ ended row, toUtc t = .ok ended ∧
      db.runs.find? (·.runId == i) = some row ∧ row.status = RunStatus.open_.value ∧
      db' = { db with runs := db.runs.map fun r => if r.runId == i then r.closed s ended else r } ∧
      fetchRun db' i = .ok rec := by
  unfold closeRun at h
  obtain ⟨ended, ht, h⟩ := bind_ok h
  cases hf : db.runs.find? (·.runId == i) with
  | none => rw [hf] at h; cases h
  | some row =>
    rw [hf] at h
    dsimp only at h
    by_cases hs : row.status = RunStatus.open_.value
    · rw [if_neg (not_not_intro hs)] at h
      obtain ⟨db1, hu, h⟩ := bind_ok h
      obtain ⟨run, hr, h⟩ := bind_ok h
      injection h with h
      injection h with h1 h2
      subst h1 h2
      exact ⟨ended, row, ht, rfl, hs, Table.update_ok hu, hr⟩
    · rw [if_pos hs] at h
      cases h

theorem attachLink_ok {artifactId field : String} {current requested new : Option String}
    (h : attachLink artifactId field current requested = .ok new) :
    new = current ∨ current = none ∧ ∃ i, new = some i ∧ requested = some i := by
  unfold attachLink at h
  cases requested with
  | none =>
    injection h with h
    exact Or.inl h.symm
  | some r =>
    cases current with
    | none =>
      injection h with h
      exact Or.inr ⟨rfl, r, h.symm, rfl⟩
    | some old =>
      dsimp only at h
      by_cases he : old = r
      · rw [if_neg (not_not_intro he)] at h
        injection h with h
        exact Or.inl (by rw [← h, he])
      · rw [if_pos he] at h
        cases h

/-- The value an attach gives a link, its target having been asked for. -/
theorem linkStep_of_attachLink {hasTarget : String → Prop} {artifactId field : String}
    {current requested new : Option String} (h : attachLink artifactId field current requested = .ok new)
    (ht : ∀ i ∈ requested, hasTarget i) : LinkStep hasTarget current new := by
  rcases attachLink_ok h with h1 | ⟨h1, j, h2, h3⟩
  · exact Or.inl h1
  · exact Or.inr ⟨h1, j, h2, ht j h3⟩

theorem attachArtifact_ok {db db' : Database} {i : String} {e r : Option String} {rec : ArtifactRecord}
    (h : attachArtifact db i e r = .ok (rec, db')) : ∃ row e' r',
    db.artifacts.find? (·.artifactId == i) = some row ∧
      LinkStep db.hasEvidence row.evidenceId e' ∧ LinkStep db.hasRun row.runId r' ∧
      (e' = row.evidenceId ∧ r' = row.runId ∧ db' = db ∧ rowToArtifact row = .ok rec ∨
        db' = { db with artifacts := db.artifacts.map fun x => if x.artifactId == i then x.linked e' r' else x } ∧
          ∃ row', db'.artifacts.find? (·.artifactId == i) = some row' ∧ rowToArtifact row' = .ok rec) := by
  unfold attachArtifact at h
  cases hf : db.artifacts.find? (·.artifactId == i) with
  | none => rw [hf] at h; cases h
  | some row =>
    rw [hf] at h
    dsimp only at h
    obtain ⟨_, he, h⟩ := bind_ok h
    obtain ⟨_, hr, h⟩ := bind_ok h
    obtain ⟨e', hle, h⟩ := bind_ok h
    obtain ⟨r', hlr, h⟩ := bind_ok h
    refine ⟨row, e', r', rfl, linkStep_of_attachLink hle (ifPresent_ok (fun _ _ => requireEvidence_ok) he),
      linkStep_of_attachLink hlr (ifPresent_ok (fun _ _ => requireRun_ok) hr), ?_⟩
    by_cases hch : e' ≠ row.evidenceId ∨ r' ≠ row.runId
    · rw [if_pos hch] at h
      obtain ⟨db1, hu, h⟩ := bind_ok h
      cases hf' : db1.artifacts.find? (·.artifactId == i) with
      | none => rw [hf'] at h; cases h
      | some row' =>
        rw [hf'] at h
        obtain ⟨a, ha, h⟩ := bind_ok h
        injection h with h
        injection h with h1 h2
        subst h1 h2
        exact Or.inr ⟨Table.update_ok hu, row', hf', ha⟩
    · rw [if_neg hch] at h
      obtain ⟨a, ha, h⟩ := bind_ok h
      injection h with h
      injection h with h1 h2
      subst h1 h2
      obtain ⟨h1, h2⟩ := not_or.1 hch
      exact Or.inl ⟨not_not.1 h1, not_not.1 h2, rfl, ha⟩

/-- A write that commits has one of the effects. -/
theorem effect_of_run {env : Env} {db db' : Database} {w : Write} {rep : Reply}
    (h : w.run env db = .ok (rep, db')) : Effect env db w db' := by
  cases w with
  | registerStrategy s =>
    obtain ⟨a, h, _⟩ := asReply_ok h
    rcases Submission.effect (strategySubmission_lawful env s) h with rfl | ⟨rfl, hf⟩
    · exact .unchanged _
    · exact .strategy s hf
  | registerStrategyVersion v =>
    obtain ⟨a, h, _⟩ := asReply_ok h
    obtain ⟨_, hs, h⟩ := bind_ok h
    rcases Submission.effect (strategyVersionSubmission_lawful env v) h with rfl | ⟨rfl, hf⟩
    · exact .unchanged _
    · exact .strategyVersion v (requireStrategy_ok hs) hf
  | createExperiment e k =>
    obtain ⟨a, h, _⟩ := asReply_ok h
    rcases Submission.effect (experimentSubmission_lawful env e k) h with rfl | ⟨rfl, hf⟩
    · exact .unchanged _
    · exact .experiment e k hf
  | createRun r k =>
    obtain ⟨a, h, _⟩ := asReply_ok h
    obtain ⟨_, he, h⟩ := bind_ok h
    rcases Submission.effect (runSubmission_lawful env db r k) h with rfl | ⟨rfl, hf⟩
    · exact .unchanged _
    · exact .run r k (requireExperiment_ok he) hf
  | closeRun i s t =>
    obtain ⟨a, h, _⟩ := asReply_ok h
    obtain ⟨ended, row, _, hf, hs, rfl, _⟩ := closeRun_ok h
    exact .close i s t ended row (List.mem_of_find?_eq_some hf) (by simpa using List.find?_some hf) hs
  | appendEvidence e =>
    obtain ⟨a, h, _⟩ := asReply_ok h
    obtain ⟨_, hr, h⟩ := bind_ok h
    obtain ⟨_, he, h⟩ := bind_ok h
    rcases Submission.effect (evidenceSubmission_lawful env db e) h with rfl | ⟨rfl, hf⟩
    · exact .unchanged _
    · exact .evidence e (ifPresent_ok (fun _ _ => requireRun_ok) hr)
        (ifPresent_ok (fun _ _ => requireExperiment_ok) he) hf
  | registerArtifact x k p =>
    obtain ⟨a, h, _⟩ := asReply_ok h
    obtain ⟨_, hr, h⟩ := bind_ok h
    obtain ⟨_, he, h⟩ := bind_ok h
    obtain ⟨_, hs, h⟩ := bind_ok h
    rcases Submission.effect (artifactSubmission_lawful env x k p) h with rfl | ⟨rfl, hf⟩
    · exact .unchanged _
    · exact .artifact x k p (ifPresent_ok (fun _ _ => requireRun_ok) hr)
        (ifPresent_ok (fun _ _ => requireEvidence_ok) he) (requireScope_ok hs) hf
  | attachArtifact i e r =>
    obtain ⟨a, h, _⟩ := asReply_ok h
    obtain ⟨row, e', r', hf, he, hr, ⟨_, _, rfl, _⟩ | ⟨rfl, _⟩⟩ := attachArtifact_ok h
    · exact .unchanged _
    · exact .attach i e r e' r' row (List.mem_of_find?_eq_some hf) (by simpa using List.find?_some hf) he hr
  | recordPromotion t k =>
    obtain ⟨a, h, _⟩ := asReply_ok h
    rcases Submission.effect (promotionSubmission_lawful env t k) h with rfl | ⟨rfl, hf⟩
    · exact .unchanged _
    · exact .promotion t k hf
  | recordHealth x k n =>
    obtain ⟨a, h, _⟩ := asReply_ok h
    rcases Submission.effect (healthSubmission_lawful env x k n) h with rfl | ⟨rfl, hf⟩
    · exact .unchanged _
    · exact .health x k hf

end Cer
