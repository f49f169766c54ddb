import Cer.Lib.DdlHistory
import Cer.Lib.Workers
import Cer.Metadata.Resumption

/-!
# Concurrent migrators

Any number of processes run `apply_migrations` on one database, statement by statement in
any order, while others change its rows.  `Honest` says what a recorded version promises;
`recorded_version_honest_iff` is the order of executed statements under which it does.
-/

namespace Cer

open Ddl Workers

/-! ## The database and what was executed on it -/

structure Journal where
  state : SchemaState
  executed : List Action
deriving DecidableEq

def Journal.exec (h : Journal) (a : Action) : Except Exc Journal :=
  (h.state.exec a).map fun σ => ⟨σ, h.executed ++ [a]⟩

/-- One process: create the table of versions, look at it once, execute the files not seen there. -/
def migrator (sums : Nat → String) : Program Journal Action Exc (String → List Sql.Columns) where
  opening := .createTracking
  plan h := program (h.state.applied.getD []) (migrations sums)
  exec := Journal.exec
  outside rows h := { h with state := { h.state with catalog := h.state.catalog.withRows rows } }

/-! ## What a recorded version promises -/

structure Honest (sums : Nat → String) (σ : SchemaState) : Prop where
  /-- The earlier versions are recorded. -/
  earlier : ∀ m ∈ migrations sums, m.version ∈ σ.versions → ∀ u ∈ migrations sums, u.version ≤ m.version →
    u.version ∈ σ.versions
  tables : ∀ m ∈ migrations sums, m.version ∈ σ.versions → ∀ u ∈ migrations sums, u.version ≤ m.version →
    ∀ t, .createTable t ∈ u.statements →
      ∃ ts ∈ σ.catalog.tables, ts.schema.name = t.name ∧ ∀ c ∈ t.columns, c ∈ ts.schema.columns
  columns : ∀ m ∈ migrations sums, m.version ∈ σ.versions → ∀ u ∈ migrations sums, u.version ≤ m.version →
    ∀ table column, .addColumn table column ∈ u.statements →
      ∃ ts ∈ σ.catalog.tables, ts.schema.name = table ∧ column ∈ ts.schema.columns
  /-- The indexes that no file drops. -/
  indexes : ∀ m ∈ migrations sums, m.version ∈ σ.versions → ∀ u ∈ migrations sums, u.version ≤ m.version →
    ∀ ix, .createIndex ix ∈ u.statements → (∀ w ∈ migrations sums, .dropIndex ix.name ∉ w.statements) →
      ix ∈ σ.catalog.indexes
  dropped : ∀ m ∈ migrations sums, m.version ∈ σ.versions →
    ∀ name, .dropIndex name ∈ m.statements → ∀ ix ∈ σ.catalog.indexes, ix.name ≠ name
  /-- From version 2 on, two producers' rows with one key clash in no index on keys. -/
  keys : 2 ∈ σ.versions → ∀ ix ∈ σ.catalog.indexes, ix.unique = true → "idempotency_key" ∈ ix.columns →
    ∀ a b : Sql.Columns, a.get "producer" ≠ b.get "producer" → ix.toUnique.clash a b = false

def Action.statement? : Action → Option Statement
  | .ddl _ s => some s
  | _ => none

/-- The schema statements among the executed ones. -/
def statementsOf (executed : List Action) : List Statement := executed.filterMap Action.statement?

/-- A version was recorded, and an index that its file drops was created again since it was last dropped. -/
def Overtaken (executed : List Action) : Prop :=
  ∃ m name, .record m ∈ executed ∧ .dropIndex name ∈ m.statements ∧
  Undone (statementsOf executed) (.dropIndex name)

/-! ## The invariant -/

section invariant
variable {sums : Nat → String}

/-- The statements of the four files. -/
def shipped : List Statement := (migrations fun _ => "").flatMap (·.statements)

theorem mem_shipped {m : Migration} (hm : m ∈ migrations sums) {s : Statement} (hs : s ∈ m.statements) :
    s ∈ shipped :=
  List.mem_flatMap (l := migrations sums) (f := (·.statements)) |>.2 ⟨m, hm, hs⟩

theorem shipped_namesOnce : NamesOnce shipped := by decide +kernel

/-- What a process may execute. -/
def Allowed (sums : Nat → String) : Action → Prop
  | .ddl m s => m ∈ migrations sums ∧ s ∈ m.statements
  | .record m => m ∈ migrations sums
  | _ => True

/-- A version is recorded after the statements of its file and of the earlier ones, and after these
are recorded. -/
def Needs (sums : Nat → String) : Action → Action → Prop
  | .record m, .ddl u s => u ∈ migrations sums ∧ u.version ≤ m.version ∧ s ∈ u.statements
  | .record m, .record u => u ∈ migrations sums ∧ u.version < m.version
  | _, _ => False

/-- What was executed, in any order but with a version's statements before its record, and what it made. -/
structure Kept (sums : Nat → String) (h : Journal) : Prop where
  traced : Traced shipped (statementsOf h.executed) h.state.catalog
  recorded : ∀ m, .record m ∈ h.executed → ∀ b, Needs sums (.record m) b → b ∈ h.executed
  versions : ∀ m ∈ migrations sums, m.version ∈ h.state.versions ↔ .record m ∈ h.executed
  allowed : ∀ a ∈ h.executed, Allowed sums a

/-! ### One action -/

theorem statementsOf_snoc (executed : List Action) (a : Action) :
    statementsOf (executed ++ [a]) = statementsOf executed ++ a.statement?.toList := by
  unfold statementsOf
  rw [List.filterMap_append]
  cases a <;> rfl

/-- What an action does to the database. -/
theorem exec_action_cases {σ σ' : SchemaState} {a : Action} (h : σ.exec a = .ok σ') :
    a = .createTracking ∧ σ'.catalog = σ.catalog ∧ σ'.versions = σ.versions ∨
      (∃ m s, a = .ddl m s ∧ σ.catalog.exec s = .ok σ'.catalog ∧ σ'.versions = σ.versions) ∨
      ∃ m, a = .record m ∧ σ'.catalog = σ.catalog ∧ ∀ v, v ∈ σ'.versions ↔ v ∈ σ.versions ∨ v = m.version := by
  cases a with
  | createTracking =>
    cases h
    exact Or.inl ⟨rfl, rfl, rfl⟩
  | ddl m s =>
    simp only [SchemaState.exec] at h
    split at h
    · next c hc =>
      cases h
      exact Or.inr (Or.inl ⟨m, s, rfl, hc, rfl⟩)
    · cases h
  | record m =>
    refine Or.inr (Or.inr ⟨m, rfl, ?_⟩)
    simp only [SchemaState.exec] at h
    split at h
    · cases h
    · next rs hrs =>
      have hversions : σ.versions = rs.map (·.version) := by
        unfold SchemaState.versions
        rw [hrs]
        rfl
      split at h
      · next hany =>
        cases h
        refine ⟨rfl, fun v => ⟨Or.inl, ?_⟩⟩
        rintro (hv | rfl)
        · exact hv
        · obtain ⟨r, hr, hversion⟩ := List.any_eq_true.1 hany
          rw [hversions]
          exact List.mem_map.2 ⟨r, hr, beq_iff_eq.1 hversion⟩
      · cases h
        refine ⟨rfl, fun v => ?_⟩
        show v ∈ (rs ++ [m.recorded]).map (·.version) ↔ _
        rw [hversions, List.map_append, List.mem_append]
        exact or_congr_right List.mem_singleton
  | mismatch m r => cases h

theorem journal_exec {h h' : Journal} {a : Action} (hx : h.exec a = .ok h') :
    h.state.exec a = .ok h'.state ∧ h'.executed = h.executed ++ [a] := by
  unfold Journal.exec at hx
  cases hs : h.state.exec a with
  | error e =>
    rw [hs] at hx
    cases hx
  | ok σ =>
    rw [hs] at hx
    cases hx
    exact ⟨rfl, rfl⟩

/-- The versions after an action. -/
theorem version_mem_exec {σ σ' : SchemaState} {a : Action} (h : σ.exec a = .ok σ') (v : Nat) :
    v ∈ σ'.versions ↔ v ∈ σ.versions ∨ ∃ m, a = .record m ∧ v = m.version := by
  rcases exec_action_cases h with ⟨rfl, _, hv⟩ | ⟨m, s, rfl, _, hv⟩ | ⟨m, rfl, _, hv⟩
  · simp [hv]
  · simp [hv]
  · simp [hv]

/-- **The step lemma**: an action executed after what it needs keeps the invariant. -/
theorem kept_exec {h h' : Journal} {a : Action} (hk : Kept sums h) (ha : Allowed sums a)
    (hneeds : ∀ b, Needs sums a b → b ∈ h.executed) (hx : h.exec a = .ok h') : Kept sums h' := by
  obtain ⟨hstate, hexecuted⟩ := journal_exec hx
  have hmem : ∀ b, b ∈ h'.executed ↔ b ∈ h.executed ∨ b = a := by
    intro b
    rw [hexecuted, List.mem_append, List.mem_singleton]
  refine ⟨?_, fun m hm b hb => ?_, fun m hm => ?_, fun b hb => ?_⟩
  · rw [hexecuted, statementsOf_snoc]
    rcases exec_action_cases hstate with ⟨rfl, hcat, _⟩ | ⟨m, x, rfl, hexec, _⟩ | ⟨m, rfl, hcat, _⟩
    · rw [hcat]
      simpa [Action.statement?] using hk.traced
    · exact hk.traced.exec shipped_namesOnce (mem_shipped ha.1 ha.2) hexec
    · rw [hcat]
      simpa [Action.statement?] using hk.traced
  · rw [hmem]
    rcases (hmem _).1 hm with hm | rfl
    · exact Or.inl (hk.recorded m hm b hb)
    · exact Or.inl (hneeds b hb)
  · rw [version_mem_exec hstate, hk.versions m hm, hmem]
    refine or_congr_right ⟨?_, ?_⟩
    · rintro ⟨m', rfl, hversion⟩
      rw [List.inj_on_of_nodup_map (versions_nodup sums) hm ha hversion]
    · rintro rfl
      exact ⟨m, rfl, rfl⟩
  · rcases (hmem b).1 hb with hb | rfl
    · exact hk.allowed b hb
    · exact ha

theorem kept_outside {h : Journal} (rows : String → List Sql.Columns) (hk : Kept sums h) :
    Kept sums ((migrator sums).outside rows h) where
  traced := traced_withRows.2 hk.traced
  recorded := hk.recorded
  versions := hk.versions
  allowed := hk.allowed

/-! ### Plans -/

theorem allowed_plan (h : Journal) : ∀ a ∈ (migrator sums).plan h, Allowed sums a := by
  intro a ha
  obtain ⟨m, hm, ha⟩ := List.mem_flatMap.1 ha
  unfold Migration.pending at ha
  split at ha
  · split at ha
    · rw [List.mem_singleton.1 ha]
      trivial
    · cases ha
  · rcases List.mem_append.1 ha with ha | ha
    · obtain ⟨s, hs, rfl⟩ := List.mem_map.1 ha
      exact ⟨hm, hs⟩
    · rw [List.mem_singleton.1 ha]
      exact hm

/-- A file's statements, then its record. -/
theorem ordered_actions {m : Migration} {known : Action → Prop}
    (h : ∀ b, Needs sums (.record m) b → known b ∨ b ∈ m.statements.map (Action.ddl m)) :
    Ordered (Needs sums) known m.actions := by
  refine Ordered.append (ordered_of_free ?_) ⟨h, trivial⟩
  intro a ha b hb
  obtain ⟨s, _, rfl⟩ := List.mem_map.1 ha
  exact hb

theorem mem_actions {m : Migration} {b : Action} :
    b ∈ m.actions ↔ (∃ s ∈ m.statements, b = .ddl m s) ∨ b = .record m := by
  unfold Migration.actions
  rw [List.mem_append, List.mem_map, List.mem_singleton]
  constructor
  · rintro (⟨s, hs, rfl⟩ | rfl)
    · exact Or.inl ⟨s, hs, rfl⟩
    · exact Or.inr rfl
  · rintro (⟨s, hs, rfl⟩ | rfl)
    · exact Or.inl ⟨s, hs, rfl⟩
    · exact Or.inr rfl

theorem versions_sorted (sums : Nat → String) : (migrations sums).Pairwise (fun u m => u.version < m.version) := by
  have hsorted : ((migrations sums).map (·.version)).Pairwise (· < ·) := by
    show [1, 2, 3, 4].Pairwise (· < ·)
    decide
  exact List.pairwise_map.1 hsorted

/-- What recording a file of the rest needs is of the files before it, or its own. -/
theorem needs_split {ms₁ ms₂ : List Migration} {m : Migration} (hall : ms₁ ++ m :: ms₂ = migrations sums)
    {b : Action} (hb : Needs sums (.record m) b) :
    (∃ u ∈ ms₁, b ∈ u.actions) ∨ b ∈ m.statements.map (Action.ddl m) := by
  have hsorted := versions_sorted sums
  rw [← hall, List.pairwise_append, List.pairwise_cons] at hsorted
  have hlater : ∀ u ∈ ms₂, m.version < u.version := hsorted.2.1.1
  have hplace : ∀ u ∈ migrations sums, u.version ≤ m.version → u ∈ ms₁ ∨ u = m := by
    intro u hu hle
    rw [← hall, List.mem_append, List.mem_cons] at hu
    rcases hu with hu | rfl | hu
    · exact Or.inl hu
    · exact Or.inr rfl
    · have := hlater u hu
      omega
  cases b with
  | createTracking => exact hb.elim
  | mismatch u r => exact hb.elim
  | ddl u s =>
    obtain ⟨hu, hle, hs⟩ := hb
    rcases hplace u hu hle with hin | rfl
    · exact Or.inl ⟨u, hin, mem_actions.2 (Or.inl ⟨s, hs, rfl⟩)⟩
    · exact Or.inr (List.mem_map_of_mem hs)
  | record u =>
    obtain ⟨hu, hlt⟩ := hb
    rcases hplace u hu (by omega) with hin | rfl
    · exact Or.inl ⟨u, hin, mem_actions.2 (Or.inr rfl)⟩
    · omega

/-- The files after `ms₁`, where those are known to be executed: what the others need is known or
planned before. -/
theorem ordered_program {h : Journal} (hk : Kept sums h) {ms₁ ms₂ : List Migration}
    (hall : ms₁ ++ ms₂ = migrations sums) {known : Action → Prop} (hknown : ∀ b ∈ h.executed, known b)
    (hbefore : ∀ u ∈ ms₁, ∀ b ∈ u.actions, known b) :
    Ordered (Needs sums) known (program (h.state.applied.getD []) ms₂) := by
  induction ms₂ generalizing ms₁ known with
  | nil => trivial
  | cons m ms₂ ih =>
    have hm : m ∈ migrations sums := by simp [← hall]
    have hall' : (ms₁ ++ [m]) ++ ms₂ = migrations sums := by rw [List.append_assoc, List.singleton_append, hall]
    show Ordered _ _ (m.pending _ ++ program _ ms₂)
    unfold Migration.pending
    split
    · next r hfind =>
      -- recorded, so that all of it was executed
      have hv : m.version ∈ h.state.versions :=
        List.mem_map.2 ⟨r, List.mem_of_find?_eq_some hfind, by simpa using List.find?_some hfind⟩
      have hrecord : .record m ∈ h.executed := (hk.versions m hm).1 hv
      have hown : ∀ b ∈ m.actions, known b := by
        intro b hb
        refine hknown b ?_
        rcases mem_actions.1 hb with ⟨s, hs, rfl⟩ | rfl
        · exact hk.recorded m hrecord (.ddl m s) ⟨hm, Nat.le_refl _, hs⟩
        · exact hrecord
      have hrest : Ordered (Needs sums) known (program (h.state.applied.getD []) ms₂) := by
        refine ih hall' hknown fun u hu b hb => ?_
        rcases List.mem_append.1 hu with hu | hu
        · exact hbefore u hu b hb
        · rw [List.mem_singleton.1 hu] at hb
          exact hown b hb
      refine Ordered.append ?_ (hrest.mono fun b hb => Or.inl hb)
      refine ordered_of_free fun a ha b hb => ?_
      split at ha
      · rw [List.mem_singleton.1 ha] at hb
        exact hb
      · cases ha
    · refine Ordered.append (ordered_actions fun b hb => ?_) (ih hall' (fun b hb => Or.inl (hknown b hb)) ?_)
      · rcases needs_split hall hb with ⟨u, hu, hin⟩ | hin
        · exact Or.inl (hbefore u hu b hin)
        · exact Or.inr hin
      · intro u hu b hb
        rcases List.mem_append.1 hu with hu | hu
        · exact Or.inl (hbefore u hu b hb)
        · rw [List.mem_singleton.1 hu] at hb
          exact Or.inr hb

/-! ### Runs -/

theorem migrator_keeps (sums : Nat → String) :
    Keeps (migrator sums) (Kept sums) (fun _ => Allowed sums) (fun h a => a ∈ h.executed) (Needs sums) where
  exec := kept_exec
  done _ _ _ hx := (journal_exec hx).2 ▸ List.mem_append_right _ (List.mem_singleton_self _)
  effect_exec _ _ hx hb := (journal_exec hx).2 ▸ List.mem_append_left _ hb
  allowed_exec _ hb := hb
  outside rows hk := kept_outside rows hk
  effect_outside _ _ hb := hb
  allowed_outside _ _ hb := hb
  opening _ := trivial
  opening_free _ hb := hb
  plan _ := allowed_plan _
  ordered hk := @ordered_program _ _ hk [] _ rfl _ (fun _ hb => hb) (by simp)

/-- A database on which the first `p` versions were completed. -/
def Journal.completed (sums : Nat → String) (p : Nat) (σ : SchemaState) : Journal :=
  ⟨σ, ((migrations sums).take p).flatMap Migration.actions⟩

theorem run_schemaAfter (sums : Nat → String) (p : Nat) :
    (⟨[], []⟩ : Catalog).run (((migrations sums).take p).flatMap (·.statements)) = .ok (schemaAfter p) := by
  have hsums : ∀ k, ((migrations sums).take k).flatMap (·.statements) =
      ((migrations fun _ => "").take k).flatMap (·.statements) := by
    intro k
    rw [List.flatMap_def, List.flatMap_def, List.map_take, List.map_take]
    rfl
  rw [hsums]
  have hall := run_all_statements
  rw [← List.take_append_drop p (migrations fun _ => ""), List.flatMap_append] at hall
  obtain ⟨c, hc, _⟩ := run_append_eq_ok.1 hall
  unfold schemaAfter
  rw [hc]

theorem statementsOf_actions (ms : List Migration) :
    statementsOf (ms.flatMap Migration.actions) = ms.flatMap (·.statements) := by
  induction ms with
  | nil => rfl
  | cons m ms ih =>
    have hown : statementsOf m.actions = m.statements := by
      unfold Migration.actions
      rw [statementsOf_snoc]
      unfold statementsOf
      rw [List.filterMap_map]
      exact (List.append_nil _).trans List.filterMap_some
    rw [List.flatMap_cons, List.flatMap_cons, ← ih, ← hown]
    exact List.filterMap_append

/-- **The invariant holds from the start.** -/
theorem kept_completed {p : Nat} {σ : SchemaState} (h : Completed sums p σ) : Kept sums (.completed sums p σ) := by
  have hmem : ∀ m ∈ (migrations sums).take p, m ∈ migrations sums := fun m hm => List.mem_of_mem_take hm
  have hversions : σ.versions = ((migrations sums).take p).map (·.version) := by
    unfold SchemaState.versions
    rcases h.applied with happlied | ⟨rfl, happlied⟩
    · rw [happlied]
      exact recorded_versions _
    · rw [happlied]
      rfl
  have hsorted := versions_sorted sums
  rw [← List.take_append_drop p (migrations sums), List.pairwise_append] at hsorted
  have hearlier : ∀ m ∈ (migrations sums).take p, ∀ u ∈ migrations sums, u.version ≤ m.version →
      u ∈ (migrations sums).take p := by
    intro m hm u hu hle
    rw [← List.take_append_drop p (migrations sums)] at hu
    rcases List.mem_append.1 hu with hu | hu
    · exact hu
    · have := hsorted.2.2 m hm u hu
      omega
  refine ⟨?_, fun m hm b hb => ?_, fun m hm => ?_, fun a ha => ?_⟩
  · show Traced shipped (statementsOf (((migrations sums).take p).flatMap Migration.actions)) σ.catalog
    rw [statementsOf_actions]
    have htraced := traced_run shipped_namesOnce (traced_empty shipped) (fun s hs => ?_) (run_schemaAfter sums p)
    · rw [List.nil_append, ← h.schema] at htraced
      exact (@traced_withRows _ _ _ fun _ => []).1 htraced
    · obtain ⟨m, hm, hs⟩ := List.mem_flatMap.1 hs
      exact mem_shipped (hmem m hm) hs
  · have hm : m ∈ (migrations sums).take p := record_mem_iff.1 hm
    refine List.mem_flatMap.2 ?_
    cases b with
    | createTracking => exact hb.elim
    | mismatch u r => exact hb.elim
    | ddl u s => exact ⟨u, hearlier m hm u hb.1 hb.2.1, mem_actions.2 (Or.inl ⟨s, hb.2.2, rfl⟩)⟩
    | record u => exact ⟨u, hearlier m hm u hb.1 (Nat.le_of_lt hb.2), mem_actions.2 (Or.inr rfl)⟩
  · show m.version ∈ σ.versions ↔ _ ∈ ((migrations sums).take p).flatMap Migration.actions
    rw [hversions, record_mem_iff, List.mem_map]
    constructor
    · rintro ⟨u, hu, hversion⟩
      rwa [← List.inj_on_of_nodup_map (versions_nodup sums) (hmem u hu) hm hversion]
    · intro hm
      exact ⟨m, hm, rfl⟩
  · obtain ⟨m, hm, ha⟩ := List.mem_flatMap.1 ha
    rcases mem_actions.1 ha with ⟨s, hs, rfl⟩ | rfl
    · exact ⟨hmem m hm, hs⟩
    · exact hmem m hm

end invariant

/-! ## Honesty -/

section honest
variable {sums : Nat → String} {h : Journal}

/-- What a recorded version and the earlier ones executed is there, but for what was undone. -/
theorem Kept.done (hk : Kept sums h) {m u : Migration} (hm : m ∈ migrations sums)
    (hv : m.version ∈ h.state.versions) (hu : u ∈ migrations sums) (hle : u.version ≤ m.version) {s : Statement}
    (hs : s ∈ u.statements) : s.Done h.state.catalog ∨ Undone (statementsOf h.executed) s := by
  have hexecuted : .ddl u s ∈ h.executed := hk.recorded m ((hk.versions m hm).1 hv) (.ddl u s) ⟨hu, hle, hs⟩
  exact hk.traced.executed s (List.mem_filterMap.2 ⟨_, hexecuted, rfl⟩)

theorem Kept.statement_shipped (hk : Kept sums h) {s : Statement} (hs : s ∈ statementsOf h.executed) :
    ∃ m ∈ migrations sums, s ∈ m.statements := by
  obtain ⟨a, ha, hstatement⟩ := List.mem_filterMap.1 hs
  cases a with
  | ddl m s' =>
    cases hstatement
    exact ⟨m, hk.allowed _ ha⟩
  | createTracking => cases hstatement
  | record m => cases hstatement
  | mismatch m r => cases hstatement

/-- Nothing undoes a table or a column. -/
theorem not_undone {log : List Statement} {s : Statement} (hs : ∀ s', s.compatible s' = true) :
    ¬ Undone log s := by
  rintro ⟨s', hs', _⟩
  rw [hs s'] at hs'
  cases hs'

/-- An index on keys has the producer among its columns, or version 2 drops it. -/
def keyIndexScoped : Statement → Bool
  | .createIndex ix => !ix.unique || !ix.columns.contains "idempotency_key" || ix.columns.contains "producer" ||
    producerScopedStatements.contains (.dropIndex ix.name)
  | _ => true

theorem shipped_keyIndexScoped : shipped.all keyIndexScoped = true := by decide +kernel

theorem clash_of_producers {ix : Index} (hix : "producer" ∈ ix.columns) {a b : Sql.Columns}
    (hab : a.get "producer" ≠ b.get "producer") : ix.toUnique.clash a b = false := by
  have hdiffer : Sql.sqlEq (a.get "producer") (b.get "producer") = false := by
    unfold Sql.sqlEq
    rw [beq_eq_false_iff_ne.2 hab, Bool.and_false]
  have hsame : Sql.sameOn ix.toUnique.columns a b = false :=
    List.all_eq_false.2 ⟨"producer", hix, by rw [hdiffer]; exact Bool.false_ne_true⟩
  unfold Sql.UniqueIndex.clash
  rw [hsame, Bool.and_false]

/-- What a recorded version drops is gone, but where it was created again. -/
theorem Kept.dropped (hk : Kept sums h) (hn : ¬ Overtaken h.executed) {m : Migration} (hm : m ∈ migrations sums)
    (hv : m.version ∈ h.state.versions) {name : String} (hname : .dropIndex name ∈ m.statements) :
    ∀ ix ∈ h.state.catalog.indexes, ix.name ≠ name := by
  rcases hk.done hm hv hm (Nat.le_refl _) hname with hdone | hundone
  · exact hdone
  · exact absurd ⟨m, name, (hk.versions m hm).1 hv, hname, hundone⟩ hn

theorem Kept.honest (hk : Kept sums h) (hn : ¬ Overtaken h.executed) : Honest sums h.state where
  earlier m hm hv u hu hle := by
    rw [hk.versions u hu]
    rcases Nat.lt_or_eq_of_le hle with hlt | heq
    · exact hk.recorded m ((hk.versions m hm).1 hv) (.record u) ⟨hu, hlt⟩
    · rw [List.inj_on_of_nodup_map (versions_nodup sums) hu hm heq]
      exact (hk.versions m hm).1 hv
  tables m hm hv u hu hle t ht := (hk.done hm hv hu hle ht).resolve_right (not_undone fun _ => rfl)
  columns m hm hv u hu hle table column hc := (hk.done hm hv hu hle hc).resolve_right (not_undone fun _ => rfl)
  indexes m hm hv u hu hle ix hix hkeep := by
    refine (hk.done hm hv hu hle hix).resolve_right ?_
    rintro ⟨s', hs', hstanding⟩
    obtain ⟨w, hw, hws⟩ := hk.statement_shipped hstanding.mem
    cases s' with
    | dropIndex name =>
      rw [← bne_eq_false_iff_eq.1 hs'] at hws
      exact hkeep w hw hws
    | createTable t => cases hs'
    | createIndex ix' => cases hs'
    | addColumn table column => cases hs'
  dropped m hm hv name hname := hk.dropped hn hm hv hname
  keys hv ix hix hunique hkey a b hab := by
    have hscoped := List.all_eq_true.1 shipped_keyIndexScoped _ (hk.traced.genuine.indexes ix hix)
    have hscoped : "producer" ∈ ix.columns ∨ .dropIndex ix.name ∈ producerScopedStatements := by
      simpa [keyIndexScoped, hunique, hkey] using hscoped
    rcases hscoped with hproducer | hdrop
    · exact clash_of_producers hproducer hab
    · have hsecond : ⟨2, "002_producer_scoped_idempotency.sql", producerScopedStatements, sums 2⟩ ∈
        migrations sums := by
        simp [migrations]
      exact absurd rfl (hk.dropped hn hsecond hv hdrop ix hix)

theorem Kept.not_honest (hk : Kept sums h) (ho : Overtaken h.executed) : ¬ Honest sums h.state := by
  intro hh
  obtain ⟨m, name, hrecord, hname, s', hs', hstanding⟩ := ho
  have hm : m ∈ migrations sums := hk.allowed _ hrecord
  have hgone : (Statement.dropIndex name).Done h.state.catalog :=
    hh.dropped m hm ((hk.versions m hm).2 hrecord) name hname
  exact not_done_of_incompatible (hk.traced.standing s' hstanding) hs' hgone

/-- **Exactly when the recorded versions are honest**: while no index that a recorded version drops
was created again after it was last dropped. -/
theorem recorded_version_honest_iff {p : Nat} {σ : SchemaState} (hσ : Completed sums p σ)
    {events : List (Event (String → List Sql.Columns))} {s : System Journal Action}
    (hrun : (migrator sums).run (.initial (.completed sums p σ)) events = some s) :
    Honest sums s.shared.state ↔ ¬ Overtaken s.shared.executed := by
  have hk : Kept sums s.shared := run_inv (migrator_keeps sums) (kept_completed hσ) hrun
  constructor
  · intro hh ho
    exact hk.not_honest ho hh
  · intro hn
    exact hk.honest hn

/-- Two processes on a database of version 2. -/
theorem recorded_version_honest_upgraded :
    ∃ s, (migrator sampleSums).run (.initial (.completed sampleSums 2 upgraded))
        [.start 0, .look 0, .start 1, .look 1, .next 1, .next 0] = some s ∧
      (Honest sampleSums s.shared.state ↔ ¬ Overtaken s.shared.executed) := by
  have hsome : ((migrator sampleSums).run (.initial (.completed sampleSums 2 upgraded))
      [.start 0, .look 0, .start 1, .look 1, .next 1, .next 0]).isSome = true := by decide +kernel
  obtain ⟨s, hs⟩ := Option.isSome_iff_exists.1 hsome
  exact ⟨s, hs, recorded_version_honest_iff upgraded_completed hs⟩

/-! ## One process overtaken by another -/

def fresh : SchemaState := ⟨⟨[], []⟩, none⟩

/-- Process 0 has created four tables when process 1 completes versions 1 and 2; then process 0 goes on. -/
def overtaking : List (Event (String → List Sql.Columns)) :=
  [.start 0, .look 0] ++ List.replicate 4 (.next 0) ++
    [.start 1, .look 1] ++ List.replicate
    (initialStatements.length + producerScopedStatements.length + 2) (.next 1) ++
    [.next 0]

/-- With version 2 recorded, runs has a unique index on `idempotency_key` alone again. -/
theorem overtaken_not_honest :
    ∃ s, (migrator sampleSums).run (.initial (.completed sampleSums 0 fresh)) overtaking = some s ∧
      s.shared.state.versions = [1, 2] ∧
      ⟨"ux_runs_idempotency_key", "runs", ["idempotency_key"], true, some "idempotency_key"⟩ ∈
        s.shared.state.catalog.indexes ∧
      ¬ Honest sampleSums s.shared.state := by
  have hrun : (((migrator sampleSums).run (.initial (.completed sampleSums 0 fresh)) overtaking).map fun s =>
      (s.shared.state.versions, decide (⟨"ux_runs_idempotency_key", "runs", ["idempotency_key"], true,
        some "idempotency_key"⟩ ∈ s.shared.state.catalog.indexes))) = some ([1, 2], true) := by decide +kernel
  cases hs : (migrator sampleSums).run (.initial (.completed sampleSums 0 fresh)) overtaking with
  | none =>
    rw [hs] at hrun
    cases hrun
  | some s =>
    rw [hs, Option.map_some, Option.some.injEq, Prod.mk.injEq, decide_eq_true_eq] at hrun
    obtain ⟨hversions, hindex⟩ := hrun
    refine ⟨s, rfl, hversions, hindex, fun hh => ?_⟩
    have hsecond : 2 ∈ s.shared.state.versions := by simp [hversions]
    exact hh.dropped ⟨2, "002_producer_scoped_idempotency.sql", producerScopedStatements, sampleSums 2⟩
      (by simp [migrations]) hsecond "ux_runs_idempotency_key" (by simp [producerScopedStatements]) _ hindex rfl

end honest

end Cer
