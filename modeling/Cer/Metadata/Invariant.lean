import Cer.Metadata.Effects

/-!
# The invariant of the metadata store

`WellFormed` is kept by every committed write (`WellFormed.effect`), so every
reachable database has it, and a reachable database `Extends` every one before it.
-/

namespace Cer

open Py

/-! ## Where rows come from -/

def StrategyRow.Origin (r : StrategyRow) : Prop := ∃ s : Strategy, s.Valid ∧ r = s.toRow

def StrategyVersionRow.Origin (r : StrategyVersionRow) : Prop := ∃ v : StrategyVersion, v.Valid ∧ r = v.toRow

section origins
variable (env : Env)

def ExperimentRow.Origin (r : ExperimentRow) : Prop := ∃ (e : Experiment) (k : Option String), e.Valid ∧
    r = e.toRow env k

/-- A run's row: its status and its end are those submitted, or what a close of the OPEN run left. -/
def RunRow.Origin (r : RunRow) : Prop :=
  ∃ (run : Run) (k : Option String) (status : RunStatus) (endedAt : Option DateTime), run.Valid ∧
    (status = run.status ∧ endedAt = run.endedAt ∨ run.status = .open_) ∧
    r = { run.toRow env k with status := status.value, endedAt := endedAt.map dtToStr }

def EvidenceRow.Origin (r : EvidenceRow) : Prop := ∃ e : EvidenceRecord, e.Valid ∧ r = e.toRow env

def ArtifactRow.Origin (r : ArtifactRow) : Prop :=
  ∃ (a : ArtifactRecord) (k p : Option String), a.Valid ∧ (k.isSome → p.isSome) ∧ r = a.toRow env k p

def PromotionRow.Origin (r : PromotionRow) : Prop :=
  ∃ (t : PromotionTransition) (k : Option String), t.Valid ∧ r = t.toRow env k

def HealthRow.Origin (r : HealthRow) : Prop :=
  ∃ (h : StrategyHealthRecord) (k : Option String), h.Valid ∧ r = h.toRow env k

end origins

/-! ## The invariant -/

structure TableOk {Row I : Type} (origin : Row → Prop) (ident : Row → I) (keyOf : Row → Option (String × String))
    (rows : List Row) : Prop where
  origin : ∀ r ∈ rows, origin r
  distinct : Ledger.Distinct ident keyOf rows

structure WellFormed (env : Env) (db : Database) : Prop where
  strategies : TableOk StrategyRow.Origin StrategyRow.ident noKey db.strategies
  strategyVersions : TableOk StrategyVersionRow.Origin StrategyVersionRow.ident noKey db.strategyVersions
  experiments : TableOk (ExperimentRow.Origin env) ExperimentRow.ident ExperimentRow.key db.experiments
  runs : TableOk (RunRow.Origin env) RunRow.ident RunRow.key db.runs
  evidence : TableOk (EvidenceRow.Origin env) EvidenceRow.ident EvidenceRow.key db.evidence
  artifacts : TableOk (ArtifactRow.Origin env) ArtifactRow.ident ArtifactRow.key db.artifacts
  promotions : TableOk (PromotionRow.Origin env) PromotionRow.ident PromotionRow.key db.promotions
  healthRecords : TableOk (HealthRow.Origin env) HealthRow.ident HealthRow.key db.healthRecords
  versionStrategy : ∀ r ∈ db.strategyVersions, db.hasStrategy r.strategyId
  runExperiment : ∀ r ∈ db.runs, db.hasExperiment r.experimentId
  evidenceRun : ∀ r ∈ db.evidence, ∀ i ∈ r.runId, db.hasRun i
  evidenceExperiment : ∀ r ∈ db.evidence, ∀ i ∈ r.experimentId, db.hasExperiment i
  artifactRun : ∀ r ∈ db.artifacts, ∀ i ∈ r.runId, db.hasRun i
  artifactEvidence : ∀ r ∈ db.artifacts, ∀ i ∈ r.evidenceId, db.hasEvidence i

/-- What is the case whatever the rows hold: identities and keys are not shared, and references name
existing rows. -/
structure Database.Lawful (db : Database) : Prop where
  strategies : Ledger.Distinct StrategyRow.ident noKey db.strategies
  strategyVersions : Ledger.Distinct StrategyVersionRow.ident noKey db.strategyVersions
  experiments : Ledger.Distinct ExperimentRow.ident ExperimentRow.key db.experiments
  runs : Ledger.Distinct RunRow.ident RunRow.key db.runs
  evidence : Ledger.Distinct EvidenceRow.ident EvidenceRow.key db.evidence
  artifacts : Ledger.Distinct ArtifactRow.ident ArtifactRow.key db.artifacts
  promotions : Ledger.Distinct PromotionRow.ident PromotionRow.key db.promotions
  healthRecords : Ledger.Distinct HealthRow.ident HealthRow.key db.healthRecords
  versionStrategy : ∀ r ∈ db.strategyVersions, db.hasStrategy r.strategyId
  runExperiment : ∀ r ∈ db.runs, db.hasExperiment r.experimentId
  evidenceRun : ∀ r ∈ db.evidence, ∀ i ∈ r.runId, db.hasRun i
  evidenceExperiment : ∀ r ∈ db.evidence, ∀ i ∈ r.experimentId, db.hasExperiment i
  artifactRun : ∀ r ∈ db.artifacts, ∀ i ∈ r.runId, db.hasRun i
  artifactEvidence : ∀ r ∈ db.artifacts, ∀ i ∈ r.evidenceId, db.hasEvidence i

/-- Every row is one an INSERT wrote for a valid record, or what a close or an attach made of it. -/
structure Database.Origins (env : Env) (db : Database) : Prop where
  strategies : ∀ r ∈ db.strategies, r.Origin
  strategyVersions : ∀ r ∈ db.strategyVersions, r.Origin
  experiments : ∀ r ∈ db.experiments, r.Origin env
  runs : ∀ r ∈ db.runs, r.Origin env
  evidence : ∀ r ∈ db.evidence, r.Origin env
  artifacts : ∀ r ∈ db.artifacts, r.Origin env
  promotions : ∀ r ∈ db.promotions, r.Origin env
  healthRecords : ∀ r ∈ db.healthRecords, r.Origin env

theorem WellFormed.lawful {env : Env} {db : Database} (h : WellFormed env db) : db.Lawful :=
  ⟨h.strategies.distinct, h.strategyVersions.distinct, h.experiments.distinct, h.runs.distinct,
    h.evidence.distinct,
    h.artifacts.distinct, h.promotions.distinct, h.healthRecords.distinct, h.versionStrategy, h.runExperiment,
    h.evidenceRun, h.evidenceExperiment, h.artifactRun, h.artifactEvidence⟩

theorem WellFormed.origins {env : Env} {db : Database} (h : WellFormed env db) : db.Origins env :=
  ⟨h.strategies.origin, h.strategyVersions.origin, h.experiments.origin, h.runs.origin, h.evidence.origin,
    h.artifacts.origin, h.promotions.origin, h.healthRecords.origin⟩

theorem Database.Lawful.wellFormed {env : Env} {db : Database} (h : db.Lawful) (o : db.Origins env) :
    WellFormed env db where
  strategies := ⟨o.strategies, h.strategies⟩
  strategyVersions := ⟨o.strategyVersions, h.strategyVersions⟩
  experiments := ⟨o.experiments, h.experiments⟩
  runs := ⟨o.runs, h.runs⟩
  evidence := ⟨o.evidence, h.evidence⟩
  artifacts := ⟨o.artifacts, h.artifacts⟩
  promotions := ⟨o.promotions, h.promotions⟩
  healthRecords := ⟨o.healthRecords, h.healthRecords⟩
  versionStrategy := h.versionStrategy
  runExperiment := h.runExperiment
  evidenceRun := h.evidenceRun
  evidenceExperiment := h.evidenceExperiment
  artifactRun := h.artifactRun
  artifactEvidence := h.artifactEvidence

/-! ## Growth -/

/-- A run's row changes only in status and end, and only while it is OPEN. -/
def RunRow.Closes (r r' : RunRow) : Prop :=
  r' = { r with status := r'.status, endedAt := r'.endedAt } ∧ (r' = r ∨ r.status = RunStatus.open_.value)

/-- An artifact's row changes only in its links, and only from NULL. -/
def ArtifactRow.Attaches (r r' : ArtifactRow) : Prop :=
  r' = { r with runId := r'.runId, evidenceId := r'.evidenceId } ∧ (r'.runId = r.runId ∨ r.runId = none) ∧
    (r'.evidenceId = r.evidenceId ∨ r.evidenceId = none)

/-- Every row of `db` stands in `db'`, changed at most as its table allows. -/
structure Database.Extends (db db' : Database) : Prop where
  strategies : Ledger.Extends Eq db.strategies db'.strategies
  strategyVersions : Ledger.Extends Eq db.strategyVersions db'.strategyVersions
  experiments : Ledger.Extends Eq db.experiments db'.experiments
  runs : Ledger.Extends RunRow.Closes db.runs db'.runs
  evidence : Ledger.Extends Eq db.evidence db'.evidence
  artifacts : Ledger.Extends ArtifactRow.Attaches db.artifacts db'.artifacts
  promotions : Ledger.Extends Eq db.promotions db'.promotions
  healthRecords : Ledger.Extends Eq db.healthRecords db'.healthRecords

theorem RunRow.Closes.refl (r : RunRow) : r.Closes r := ⟨rfl, Or.inl rfl⟩

theorem RunRow.Closes.trans (a b c : RunRow) (h : a.Closes b) (h' : b.Closes c) : a.Closes c := by
  obtain ⟨h1, h2⟩ := h
  obtain ⟨h3, h4⟩ := h'
  refine ⟨?_, ?_⟩
  · rw [h3, h1]
  · rcases h2 with h2 | h2
    · rw [← h2]
      exact h4
    · exact Or.inr h2

theorem ArtifactRow.Attaches.refl (r : ArtifactRow) : r.Attaches r := ⟨rfl, Or.inl rfl, Or.inl rfl⟩

theorem ArtifactRow.Attaches.trans (a b c : ArtifactRow) (h : a.Attaches b) (h' : b.Attaches c) :
    a.Attaches c := by
  obtain ⟨h1, h2, h3⟩ := h
  obtain ⟨h4, h5, h6⟩ := h'
  refine ⟨?_, ?_, ?_⟩
  · rw [h4, h1]
  · rcases h2 with h2 | h2
    · rw [← h2]
      exact h5
    · exact Or.inr h2
  · rcases h3 with h3 | h3
    · rw [← h3]
      exact h6
    · exact Or.inr h3

theorem Database.Extends.refl (db : Database) : db.Extends db :=
  ⟨.refl (fun _ => rfl) _, .refl (fun _ => rfl) _, .refl (fun _ => rfl) _, .refl RunRow.Closes.refl _,
    .refl (fun _ => rfl) _, .refl ArtifactRow.Attaches.refl _, .refl (fun _ => rfl) _, .refl (fun _ => rfl) _⟩

theorem Database.Extends.trans {a b c : Database} (h : a.Extends b) (h' : b.Extends c) : a.Extends c :=
  ⟨h.strategies.trans (fun _ _ _ => Eq.trans) h'.strategies,
    h.strategyVersions.trans (fun _ _ _ => Eq.trans) h'.strategyVersions,
    h.experiments.trans (fun _ _ _ => Eq.trans) h'.experiments, h.runs.trans RunRow.Closes.trans h'.runs,
    h.evidence.trans (fun _ _ _ => Eq.trans) h'.evidence,
    h.artifacts.trans ArtifactRow.Attaches.trans h'.artifacts,
    h.promotions.trans (fun _ _ _ => Eq.trans) h'.promotions,
    h.healthRecords.trans (fun _ _ _ => Eq.trans) h'.healthRecords⟩

theorem Database.Extends.hasStrategy {db db' : Database} (h : db.Extends db') {i : String}
    (hi : db.hasStrategy i) :
    db'.hasStrategy i := by
  obtain ⟨r, hr, rfl⟩ := hi
  obtain ⟨r', hr', rfl⟩ := h.strategies.mem hr
  exact ⟨r, hr', rfl⟩

theorem Database.Extends.hasExperiment {db db' : Database} (h : db.Extends db') {i : String}
    (hi : db.hasExperiment i) : db'.hasExperiment i := by
  obtain ⟨r, hr, rfl⟩ := hi
  obtain ⟨r', hr', rfl⟩ := h.experiments.mem hr
  exact ⟨r, hr', rfl⟩

theorem Database.Extends.hasRun {db db' : Database} (h : db.Extends db') {i : String} (hi : db.hasRun i) :
    db'.hasRun i := by
  obtain ⟨r, hr, rfl⟩ := hi
  obtain ⟨r', hr', hc⟩ := h.runs.mem hr
  exact ⟨r', hr', by rw [hc.1]⟩

theorem Database.Extends.hasEvidence {db db' : Database} (h : db.Extends db') {i : String}
    (hi : db.hasEvidence i) :
    db'.hasEvidence i := by
  obtain ⟨r, hr, rfl⟩ := hi
  obtain ⟨r', hr', rfl⟩ := h.evidence.mem hr
  exact ⟨r, hr', rfl⟩

/-- The link steps of an attach are allowed changes. -/
theorem attaches_linked {db : Database} {r : ArtifactRow} {e' r' : Option String}
    (he : LinkStep db.hasEvidence r.evidenceId e') (hr : LinkStep db.hasRun r.runId r') :
    r.Attaches (r.linked e' r') := by
  refine ⟨rfl, ?_, ?_⟩
  · rcases hr with hr | ⟨hr, _⟩
    · exact Or.inl hr
    · exact Or.inr hr
  · rcases he with he | ⟨he, _⟩
    · exact Or.inl he
    · exact Or.inr he

/-- A committed write only adds rows, closes an OPEN run or sets NULL links. -/
theorem Database.Lawful.extends {env : Env} {db db' : Database} {w : Write} (h : db.Lawful)
    (he : Effect env db w db') : db.Extends db' := by
  have hrefl := Database.Extends.refl db
  cases he with
  | unchanged => exact hrefl
  | strategy s _ => exact { hrefl with strategies := .append (fun _ => rfl) _ _ }
  | strategyVersion v _ _ => exact { hrefl with strategyVersions := .append (fun _ => rfl) _ _ }
  | experiment e k _ => exact { hrefl with experiments := .append (fun _ => rfl) _ _ }
  | run r k _ _ => exact { hrefl with runs := .append RunRow.Closes.refl _ _ }
  | evidence e _ _ _ => exact { hrefl with evidence := .append (fun _ => rfl) _ _ }
  | artifact a k p _ _ _ _ => exact { hrefl with artifacts := .append ArtifactRow.Attaches.refl _ _ }
  | promotion t k _ => exact { hrefl with promotions := .append (fun _ => rfl) _ _ }
  | health x k _ => exact { hrefl with healthRecords := .append (fun _ => rfl) _ _ }
  | close i s t ended row hmem hid hopen =>
    have hmap : Ledger.Extends RunRow.Closes db.runs
        (db.runs.map fun r => if r.runId == i then r.closed s ended else r) := by
      refine .map fun r hr => ?_
      by_cases hri : r.runId = i
      · -- identities are not shared, so this is the row whose status was looked at
        have hrow : r = row := h.runs.eq_of_ident hr hmem (hri.trans hid.symm)
        rw [if_pos (beq_iff_eq.2 hri), hrow]
        exact ⟨rfl, Or.inr hopen⟩
      · rw [if_neg (by simpa using hri)]
        exact RunRow.Closes.refl r
    exact { hrefl with runs := hmap }
  | attach i e r e' r' row hmem hid he hr =>
    have hmap : Ledger.Extends ArtifactRow.Attaches db.artifacts
        (db.artifacts.map fun x => if x.artifactId == i then x.linked e' r' else x) := by
      refine .map fun x hx => ?_
      by_cases hxi : x.artifactId = i
      · have hrow : x = row := h.artifacts.eq_of_ident hx hmem (hxi.trans hid.symm)
        rw [if_pos (beq_iff_eq.2 hxi), hrow]
        exact attaches_linked he hr
      · rw [if_neg (by simpa using hxi)]
        exact ArtifactRow.Attaches.refl x
    exact { hrefl with artifacts := hmap }

theorem WellFormed.extends {env : Env} {db db' : Database} {w : Write} (h : WellFormed env db)
    (he : Effect env db w db') : db.Extends db' :=
  h.lawful.extends he

/-! ## The step -/

theorem validateRunId_of_row {env : Env} {db : Database} (h : WellFormed env db) {i : String} (hi : db.hasRun i) :
    identity (validateRunId i) = .pass := by
  obtain ⟨r, hr, rfl⟩ := hi
  obtain ⟨run, k, s, e, hv, _, rfl⟩ := h.runs.origin r hr
  exact ((Run.valid_iff run).1 hv).1 _ (List.mem_cons_self ..)

theorem validateEvidenceId_of_row {env : Env} {db : Database} (h : WellFormed env db) {i : String}
    (hi : db.hasEvidence i) : identity (validateEvidenceId i) = .pass := by
  obtain ⟨r, hr, rfl⟩ := hi
  obtain ⟨e, hv, rfl⟩ := h.evidence.origin r hr
  exact ((EvidenceRecord.construct_eq_ok_iff e e).1 hv.1).1 _ (List.mem_cons_self ..)

theorem optIdentity_pass {validate : String → Except Exc String} {v : Option String}
    (h : ∀ i ∈ v, identity (validate i) = .pass) : optIdentity validate v = .pass := by
  cases v with
  | none => rfl
  | some i => exact h i rfl

/-- New links whose targets are well-formed identities keep an artifact valid. -/
theorem ArtifactRecord.Valid.linked {a : ArtifactRecord} (h : a.Valid) {e r : Option String}
    (he : ∀ i ∈ e, identity (validateEvidenceId i) = .pass) (hr : ∀ i ∈ r, identity (validateRunId i) = .pass) :
    { a with evidenceId := e, runId := r }.Valid := by
  obtain ⟨hc, hl⟩ := (ArtifactRecord.valid_iff a).1 h
  refine (ArtifactRecord.valid_iff _).2 ⟨fun c hmem => ?_, ?_⟩
  · have hold : ∀ c ∈ a.checks, c = .pass := hc
    unfold ArtifactRecord.checks at hmem hold
    simp only [List.mem_cons, List.not_mem_nil, or_false] at hmem hold
    rcases hmem with h1 | h1 | h1 | h1 | h1 | h1 | h1 | h1
    · exact hold c (by simp [h1])
    · exact hold c (by simp [h1])
    · exact hold c (by simp [h1])
    · exact hold c (by simp [h1])
    · exact hold c (by simp [h1])
    · exact hold c (by simp [h1])
    · rw [h1]
      exact optIdentity_pass hr
    · rw [h1]
      exact optIdentity_pass he
  · have hs := congrArg ArtifactRecord.sha256 hl
    dsimp only at hs ⊢
    rw [hs]

/-- The links are in neither fingerprint. -/
theorem ArtifactRecord.toRow_linked (env : Env) (a : ArtifactRecord) (k p e r : Option String) :
    (a.toRow env k p).linked e r = { a with evidenceId := e, runId := r }.toRow env k p := rfl

theorem link_identity {hasTarget : String → Prop} {P : String → Prop} (ht : ∀ i, hasTarget i → P i)
    {current new : Option String} (hc : ∀ i ∈ current, P i)
    (h : LinkStep hasTarget current new) : ∀ i ∈ new, P i := by
  intro i hi
  rcases h with rfl | ⟨_, j, rfl, hj⟩
  · exact hc i hi
  · rw [← Option.some.inj hi]
    exact ht j hj

/-- The row of an OPEN run, closed, comes from the same record, which was OPEN. -/
theorem RunRow.Origin.closed {env : Env} {r : RunRow} (h : r.Origin env) (hopen : r.status = RunStatus.open_.value)
    (s : RunStatus) (t : DateTime) : (r.closed s t).Origin env := by
  obtain ⟨run, k, st, _, hv, hs, rfl⟩ := h
  have hst : st = .open_ := RunStatus.value_inj hopen
  refine ⟨run, k, s, some t, hv, Or.inr ?_, rfl⟩
  rcases hs with ⟨hs, _⟩ | hs
  · rw [← hs, hst]
  · exact hs

/-- Identities, keys and references are kept by every committed write. -/
theorem Database.Lawful.effect {env : Env} {db db' : Database} {w : Write} (h : db.Lawful)
    (he : Effect env db w db') :
    db'.Lawful := by
  have hx := h.extends he
  cases he with
  | unchanged => exact h
  | strategy s hf =>
    exact { h with
      strategies := h.strategies.append hf.id hf.key
      versionStrategy := fun r hr => hx.hasStrategy (h.versionStrategy r hr) }
  | strategyVersion v hs hf =>
    refine { h with strategyVersions := h.strategyVersions.append hf.id hf.key, versionStrategy := fun r hr => ?_ }
    rcases List.mem_append.1 hr with hr | hr
    · exact h.versionStrategy r hr
    · rw [List.mem_singleton.1 hr]
      exact hs
  | experiment e k hf =>
    exact { h with
      experiments := h.experiments.append hf.id hf.key
      runExperiment := fun r hr => hx.hasExperiment (h.runExperiment r hr)
      evidenceExperiment := fun r hr i hi => hx.hasExperiment (h.evidenceExperiment r hr i hi) }
  | run r k hexp hf =>
    refine { h with
      runs := h.runs.append hf.id hf.key
      runExperiment := fun x hxr => ?_
      evidenceRun := fun x hxr i hi => hx.hasRun (h.evidenceRun x hxr i hi)
      artifactRun := fun x hxr i hi => hx.hasRun (h.artifactRun x hxr i hi) }
    rcases List.mem_append.1 hxr with hxr | hxr
    · exact h.runExperiment x hxr
    · rw [List.mem_singleton.1 hxr]
      exact hexp
  | close i s t ended row hmem hid hopen =>
    refine { h with
      runs := h.runs.map (fun r => ?_) (fun r => ?_)
      runExperiment := fun x hxr => ?_
      evidenceRun := fun x hxr j hj => hx.hasRun (h.evidenceRun x hxr j hj)
      artifactRun := fun x hxr j hj => hx.hasRun (h.artifactRun x hxr j hj) }
    · split <;> rfl
    · split <;> rfl
    · obtain ⟨r, hr, rfl⟩ := List.mem_map.1 hxr
      have := h.runExperiment r hr
      split <;> exact this
  | evidence e hrun hexp hf =>
    refine { h with
      evidence := h.evidence.append hf.id hf.key
      evidenceRun := fun x hxr => ?_
      evidenceExperiment := fun x hxr => ?_
      artifactEvidence := fun x hxr i hi => hx.hasEvidence (h.artifactEvidence x hxr i hi) }
    · rcases List.mem_append.1 hxr with hxr | hxr
      · exact h.evidenceRun x hxr
      · rw [List.mem_singleton.1 hxr]
        exact hrun
    · rcases List.mem_append.1 hxr with hxr | hxr
      · exact h.evidenceExperiment x hxr
      · rw [List.mem_singleton.1 hxr]
        exact hexp
  | artifact a k p hrun hev hscope hf =>
    refine { h with
      artifacts := h.artifacts.append hf.id hf.key
      artifactRun := fun x hxr => ?_
      artifactEvidence := fun x hxr => ?_ }
    · rcases List.mem_append.1 hxr with hxr | hxr
      · exact h.artifactRun x hxr
      · rw [List.mem_singleton.1 hxr]
        exact hrun
    · rcases List.mem_append.1 hxr with hxr | hxr
      · exact h.artifactEvidence x hxr
      · rw [List.mem_singleton.1 hxr]
        exact hev
  | attach i e r e' r' row hmem hid hle hlr =>
    -- both new links name existing rows
    have hnewE : ∀ j ∈ e', db.hasEvidence j := link_identity (fun _ hj => hj) (h.artifactEvidence row hmem) hle
    have hnewR : ∀ j ∈ r', db.hasRun j := link_identity (fun _ hj => hj) (h.artifactRun row hmem) hlr
    refine { h with
      artifacts := h.artifacts.map (fun x => ?_) (fun x => ?_)
      artifactRun := fun x hxr j hj => ?_
      artifactEvidence := fun x hxr j hj => ?_ }
    · split <;> rfl
    · split <;> rfl
    · obtain ⟨y, hy, rfl⟩ := List.mem_map.1 hxr
      split at hj
      · exact hnewR j hj
      · exact h.artifactRun y hy j hj
    · obtain ⟨y, hy, rfl⟩ := List.mem_map.1 hxr
      split at hj
      · exact hnewE j hj
      · exact h.artifactEvidence y hy j hj
  | promotion t k hf => exact { h with promotions := h.promotions.append hf.id hf.key }
  | health x k hf => exact { h with healthRecords := h.healthRecords.append hf.id hf.key }

theorem origin_append {Row : Type} {origin : Row → Prop} {rows : List Row} {row : Row} (h : ∀ r ∈ rows, origin r)
    (ho : origin row) : ∀ r ∈ rows ++ [row], origin r := by
  intro r hr
  rcases List.mem_append.1 hr with hr | hr
  · exact h r hr
  · rw [List.mem_singleton.1 hr]
    exact ho

theorem WellFormed.origins_effect {env : Env} {db db' : Database} {w : Write}
    (h : WellFormed env db) (hv : w.Valid)
    (he : Effect env db w db') : db'.Origins env := by
  have ho := h.origins
  cases he with
  | unchanged => exact ho
  | strategy s _ => exact { ho with strategies := origin_append ho.strategies ⟨s, hv, rfl⟩ }
  | strategyVersion v _ _ => exact { ho with strategyVersions := origin_append ho.strategyVersions ⟨v, hv, rfl⟩ }
  | experiment e k _ => exact { ho with experiments := origin_append ho.experiments ⟨e, k, hv, rfl⟩ }
  | run r k _ _ =>
    exact { ho with runs := origin_append ho.runs ⟨r, k, r.status, r.endedAt, hv, Or.inl ⟨rfl, rfl⟩, rfl⟩ }
  | close i s t ended row hmem hid hopen =>
    refine { ho with runs := fun r' hr' => ?_ }
    obtain ⟨r, hr, rfl⟩ := List.mem_map.1 hr'
    split
    · next hri =>
      have hrow : r = row := h.runs.distinct.eq_of_ident hr hmem ((beq_iff_eq.1 hri).trans hid.symm)
      rw [hrow]
      exact (ho.runs row hmem).closed hopen s ended
    · exact ho.runs r hr
  | evidence e _ _ _ => exact { ho with evidence := origin_append ho.evidence ⟨e, hv, rfl⟩ }
  | artifact a k p _ _ hscope _ =>
    exact { ho with artifacts := origin_append ho.artifacts ⟨a, k, p, hv, hscope, rfl⟩ }
  | attach i e r e' r' row hmem hid hle hlr =>
    have hnewE : ∀ j ∈ e', db.hasEvidence j := link_identity (fun _ hj => hj) (h.artifactEvidence row hmem) hle
    have hnewR : ∀ j ∈ r', db.hasRun j := link_identity (fun _ hj => hj) (h.artifactRun row hmem) hlr
    refine { ho with artifacts := fun x' hx' => ?_ }
    obtain ⟨x, hx, rfl⟩ := List.mem_map.1 hx'
    split
    · obtain ⟨a, k, p, ha, hs, rfl⟩ := ho.artifacts x hx
      refine ⟨{ a with evidenceId := e', runId := r' }, k, p, ?_, hs, a.toRow_linked env k p e' r'⟩
      exact ha.linked (fun j hj => validateEvidenceId_of_row h (hnewE j hj))
        (fun j hj => validateRunId_of_row h (hnewR j hj))
    · exact ho.artifacts x hx
  | promotion t k _ => exact { ho with promotions := origin_append ho.promotions ⟨t, k, hv, rfl⟩ }
  | health x k _ => exact { ho with healthRecords := origin_append ho.healthRecords ⟨x, k, hv, rfl⟩ }

/-- **The invariant is kept by every committed write of valid records.** -/
theorem WellFormed.effect {env : Env} {db db' : Database} {w : Write} (h : WellFormed env db) (hv : w.Valid)
    (he : Effect env db w db') : WellFormed env db' :=
  (h.lawful.effect he).wellFormed (h.origins_effect hv he)

theorem WellFormed.empty (env : Env) : WellFormed env .empty where
  strategies := ⟨by simp [Database.empty], .nil⟩
  strategyVersions := ⟨by simp [Database.empty], .nil⟩
  experiments := ⟨by simp [Database.empty], .nil⟩
  runs := ⟨by simp [Database.empty], .nil⟩
  evidence := ⟨by simp [Database.empty], .nil⟩
  artifacts := ⟨by simp [Database.empty], .nil⟩
  promotions := ⟨by simp [Database.empty], .nil⟩
  healthRecords := ⟨by simp [Database.empty], .nil⟩
  versionStrategy := by simp [Database.empty]
  runExperiment := by simp [Database.empty]
  evidenceRun := by simp [Database.empty]
  evidenceExperiment := by simp [Database.empty]
  artifactRun := by simp [Database.empty]
  artifactEvidence := by simp [Database.empty]

/-! ## Runs of writes -/

/-- `db'` is committed after some writes of valid records, each successful or rolled back, from `db`. -/
inductive Writes (env : Env) : Database → Database → Prop
  | refl (db : Database) : Writes env db db
  | commit {db db' db'' : Database} {w : Write} {rep : Reply} (h : Writes env db db') (valid : w.Valid)
    (run : w.run env db' = .ok (rep, db'')) : Writes env db db''

/-- A database the store reaches from a freshly migrated one. -/
def Reachable (env : Env) (db : Database) : Prop := Writes env .empty db

theorem Writes.trans {env : Env} {a b c : Database} (h : Writes env a b) (h' : Writes env b c) :
    Writes env a c := by
  induction h' with
  | refl => exact h
  | commit _ hv hr ih => exact .commit ih hv hr

theorem Writes.lawful {env : Env} {db db' : Database} (h : db.Lawful) (hw : Writes env db db') : db'.Lawful := by
  induction hw with
  | refl => exact h
  | commit _ _ hr ih => exact ih.effect (effect_of_run hr)

theorem Writes.wellFormed {env : Env} {db db' : Database} (h : WellFormed env db) (hw : Writes env db db') :
    WellFormed env db' := by
  induction hw with
  | refl => exact h
  | commit _ hv hr ih => exact ih.effect hv (effect_of_run hr)

theorem Writes.extends_of_lawful {env : Env} {db db' : Database} (h : db.Lawful) (hw : Writes env db db') :
    db.Extends db' := by
  induction hw with
  | refl => exact .refl _
  | commit hw' _ hr ih => exact ih.trans ((hw'.lawful h).extends (effect_of_run hr))

theorem Writes.extends {env : Env} {db db' : Database} (h : WellFormed env db) (hw : Writes env db db') :
    db.Extends db' :=
  hw.extends_of_lawful h.lawful

theorem Reachable.wellFormed {env : Env} {db : Database} (h : Reachable env db) : WellFormed env db :=
  Writes.wellFormed (.empty env) h

/-! ## A small registry -/

theorem sampleTime_inRange : (1 ≤ 2026 ∧ 2026 ≤ 9999) ∧ (1 ≤ 9 ∧ 9 ≤ 12) ∧ (1 ≤ 4 ∧ 4 ≤ daysInMonth 2026 9) ∧
    12 < 24 ∧ 0 < 60 ∧ 0 < 60 ∧ 0 < 1000000 := by
  decide

def sampleTime : DateTime := ⟨2026, 9, 4, 12, 0, 0, 0, sampleTime_inRange⟩

def sampleExperiment : Experiment :=
  { experimentId := "exp_01", objective := "sweep", strategyId := none, strategyVersion := none, producer := "hsa"
    createdAt := sampleTime }

def sampleRun : Run :=
  { runId := "run_01", experimentId := "exp_01", status := .open_, startedAt := sampleTime, endedAt := none
    producer := "hsa", producerVersion := none, gitRepo := none, gitCommit := none, datasetId := none
    datasetVersion := none, datasetRef := none, configHash := none, configRef := none, environment := none
    provenanceCompleteness := .incomplete
    missingProvenance :=
      ["producer_version", "git_repo", "git_commit", "dataset_id", "dataset_version", "dataset_ref",
      "config_hash", "config_ref", "environment"] }

instance (e : Experiment) : Decidable e.Valid := inferInstanceAs (Decidable (_ = _))

instance (r : Run) : Decidable r.Valid := inferInstanceAs (Decidable (_ = _))

theorem sampleExperiment_valid : sampleExperiment.Valid := by decide +kernel

theorem sampleRun_valid : sampleRun.Valid := by decide +kernel

/-- An experiment and a run of it under the key `k`. -/
def sampleRegistry : Database :=
  { Database.empty with
    experiments := [sampleExperiment.toRow .reference none]
    runs := [sampleRun.toRow .reference (some "k")] }

theorem sampleRegistry_writes :
    (Write.createExperiment sampleExperiment none).run .reference .empty = .ok (.experiment sampleExperiment,
      { Database.empty with experiments := [sampleExperiment.toRow .reference none] }) ∧
    (Write.createRun sampleRun (some "k")).run .reference
        { Database.empty with experiments := [sampleExperiment.toRow .reference none] } =
      .ok (.run sampleRun, sampleRegistry) :=
  ⟨rfl, rfl⟩

theorem sampleRegistry_reachable : Reachable .reference sampleRegistry :=
  .commit (w := .createRun sampleRun (some "k"))
    (.commit (w := .createExperiment sampleExperiment none)
      (.refl _) sampleExperiment_valid sampleRegistry_writes.1)
    sampleRun_valid sampleRegistry_writes.2

end Cer
