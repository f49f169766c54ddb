import Cer.Metadata.Migrations

/-!
# Stopped migrations

A process may stop between any two statements of `apply_migrations`, with a version's
statements partly executed and its row in `schema_migrations` not written.  Run again,
`apply_migrations` starts that version over: versions 1 and 2 may be executed again from
any point, versions 3 and 4 begin with an `ALTER TABLE ADD COLUMN` that fails the second
time.  `migrations_resume_iff` is the exact condition.
-/

namespace Cer

open Ddl

/-! ## Databases of an earlier version -/

/-- A database on which the first `p` versions were completed, with any rows that its schema admits. -/
structure Completed (sums : Nat → String) (p : Nat) (σ : SchemaState) : Prop where
  le : p ≤ 4
  schema : σ.catalog.bare = schemaAfter p
  applied : σ.applied = some (((migrations sums).take p).map (·.recorded)) ∨ p = 0 ∧ σ.applied = none
  rows : σ.catalog.Sound

/-- Run on what was left, `apply_migrations` succeeds, and ends as the uninterrupted run does, with all versions
recorded. -/
def Resumes (sums : Nat → String) (σ stopped : SchemaState) : Prop :=
  ∃ done, applyMigrations (migrations sums) σ = .ok (some 4, done) ∧
    applyMigrations (migrations sums) stopped = .ok (some 4, done) ∧ done.versions = [1, 2, 3, 4]

/-- A column was added, and the version it belongs to was not recorded. -/
def HalfAltered (executed : List Action) : Prop :=
  ∃ m table column, .ddl m (.addColumn table column) ∈ executed ∧ .record m ∉ executed

/-! ## Blocks -/

theorem foldlM_append_ok {A S : Type} {f : S → A → Except Exc S} {s mid : S} {l l' : List A}
    (h : l.foldlM f s = .ok mid) : (l ++ l').foldlM f s = l'.foldlM f mid := by
  rw [List.foldlM_append, h]
  rfl

section run
variable {σ : SchemaState}

theorem SchemaState.run_append_ok {mid : SchemaState} {l l' : List Action} (h : σ.run l = .ok mid) :
    σ.run (l ++ l') = mid.run l' :=
  foldlM_append_ok h

theorem SchemaState.run_cons (a : Action) (l : List Action) : σ.run (a :: l) = σ.exec a >>= (·.run l) := rfl

/-- The statements of a file, where the catalog executes them. -/
theorem SchemaState.run_ddl (m : Migration) {l : List Statement} {c : Catalog} (h : σ.catalog.run l = .ok c) :
    σ.run (l.map (.ddl m)) = .ok { σ with catalog := c } := by
  induction l generalizing σ with
  | nil =>
    cases h
    rfl
  | cons s l ih =>
    have h : (σ.catalog.exec s >>= fun c => c.run l) = .ok c := h
    cases hs : σ.catalog.exec s with
    | error r =>
      rw [hs] at h
      cases h
    | ok c' =>
      rw [hs] at h
      rw [List.map_cons, SchemaState.run_cons]
      have hexec : σ.exec (.ddl m s) = .ok { σ with catalog := c' } := by simp only [SchemaState.exec, hs]
      rw [hexec]
      exact ih (σ := { σ with catalog := c' }) h

/-- A statement that fails ends the run. -/
theorem SchemaState.run_ddl_error (m : Migration) {s : Statement} {r : Refusal} (h : σ.catalog.exec s = .error r)
    (l : List Action) : σ.run (.ddl m s :: l) = .error (m.failed (refusalText r)) := by
  rw [SchemaState.run_cons]
  have hexec : σ.exec (.ddl m s) = .error (m.failed (refusalText r)) := by simp only [SchemaState.exec, h]
  rw [hexec]
  rfl

/-- A whole file, not recorded yet. -/
theorem SchemaState.run_actions {m : Migration} {rs : List Recorded} (happlied : σ.applied = some rs)
    (hnew : ∀ r ∈ rs, r.version ≠ m.version) {c : Catalog} (h : σ.catalog.run m.statements = .ok c) :
    σ.run m.actions = .ok ⟨c, some (rs ++ [m.recorded])⟩ := by
  unfold Migration.actions
  rw [SchemaState.run_append_ok (SchemaState.run_ddl m h)]
  have hany : rs.any (·.version == m.version) = false := by
    rw [List.any_eq_false]
    intro r hr
    simpa using hnew r hr
  show (SchemaState.exec _ (.record m) >>= fun σ => Except.ok σ) = _
  simp only [SchemaState.exec, happlied, hany]
  rfl

/-- Files none of which is recorded yet. -/
theorem SchemaState.run_blocks {ms : List Migration} {cat c : Catalog} {rs : List Recorded}
    (hnew : ((rs ++ ms.map (·.recorded)).map (·.version)).Nodup)
    (h : cat.run (ms.flatMap (·.statements)) = .ok c) :
    (⟨cat, some rs⟩ : SchemaState).run (ms.flatMap Migration.actions) =
      .ok ⟨c, some (rs ++ ms.map (·.recorded))⟩ := by
  induction ms generalizing cat rs with
  | nil =>
    cases h
    rw [List.map_nil, List.append_nil]
    rfl
  | cons m ms ih =>
    rw [List.flatMap_cons, run_append] at h
    cases hm : cat.run m.statements with
    | error r =>
      rw [hm] at h
      cases h
    | ok c' =>
      rw [hm] at h
      have hsplit : rs ++ (m :: ms).map (·.recorded) = (rs ++ [m.recorded]) ++ ms.map (·.recorded) := by simp
      rw [hsplit] at hnew ⊢
      have hfresh : ∀ r ∈ rs, r.version ≠ m.version := by
        intro r hr he
        rw [List.map_append, List.map_append, List.append_assoc, List.nodup_append] at hnew
        exact hnew.2.2 r.version (List.mem_map_of_mem hr) m.version (by simp [Migration.recorded]) he
      rw [List.flatMap_cons, SchemaState.run_append_ok (SchemaState.run_actions rfl hfresh hm)]
      exact ih hnew h

end run

/-! ## What is pending -/

section pending
variable {sums : Nat → String}

theorem versions_nodup (sums : Nat → String) : ((migrations sums).map (·.version)).Nodup := by
  show [1, 2, 3, 4].Nodup
  decide

theorem pending_of_recorded {rs : List Recorded} {m : Migration} (hr : m.recorded ∈ rs)
    (hd : (rs.map (·.version)).Nodup) : m.pending rs = [] := by
  have hfind : rs.find? (·.version == m.version) = some m.recorded := by
    refine Ledger.find?_eq_of_unique hr (beq_iff_eq.2 rfl) fun r hr' he => ?_
    exact List.inj_on_of_nodup_map hd hr' hr (beq_iff_eq.1 he)
  unfold Migration.pending
  rw [hfind]
  exact if_neg (not_not_intro rfl)

theorem pending_of_unrecorded {rs : List Recorded} {m : Migration} (h : ∀ r ∈ rs, r.version ≠ m.version) :
    m.pending rs = m.actions := by
  have hfind : rs.find? (·.version == m.version) = none :=
    List.find?_eq_none.2 fun r hr he => h r hr (beq_iff_eq.1 he)
  unfold Migration.pending
  rw [hfind]

theorem recorded_versions (ms : List Migration) : (ms.map (·.recorded)).map (·.version) = ms.map (·.version) := by
  rw [List.map_map]
  rfl

/-- Files of which a beginning is recorded: what remains to be done are the others. -/
theorem program_of_recorded {ms₁ ms₂ : List Migration} (hd : ((ms₁ ++ ms₂).map (·.version)).Nodup) :
    program (ms₁.map (·.recorded)) (ms₁ ++ ms₂) = ms₂.flatMap Migration.actions := by
  rw [List.map_append, List.nodup_append] at hd
  have hdone : ms₁.flatMap (·.pending (ms₁.map (·.recorded))) = [] := by
    rw [List.flatMap_eq_nil_iff]
    intro m hm
    refine pending_of_recorded (List.mem_map_of_mem hm) ?_
    rw [recorded_versions]
    exact hd.1
  have htodo : ms₂.flatMap (·.pending (ms₁.map (·.recorded))) = ms₂.flatMap Migration.actions := by
    refine List.flatMap_congr fun m hm => pending_of_unrecorded fun r hr he => ?_
    obtain ⟨m', hm', rfl⟩ := List.mem_map.1 hr
    exact hd.2.2 m'.version (List.mem_map_of_mem hm') m.version (List.mem_map_of_mem hm) he
  unfold program
  rw [List.flatMap_append, hdone, htodo, List.nil_append]

end pending

/-! ## What remains of an earlier version -/

section remaining
variable {sums : Nat → String} {p : Nat} {σ : SchemaState}

/-- The further files, on the schema of the first `p`. -/
theorem schemaAfter_remaining (sums : Nat → String) (hp : p ≤ 4) :
    (schemaAfter p).run (((migrations sums).drop p).flatMap (·.statements)) = .ok (schemaAfter 4) ∧
      (((migrations sums).drop p).flatMap (·.statements)).all (·.vouched (schemaAfter p)) = true ∧
      NamesDistinct (schemaAfter p) := by
  have hp : p = 0 ∨ p = 1 ∨ p = 2 ∨ p = 3 ∨ p = 4 := by omega
  have hsums : ((migrations sums).drop p).flatMap (·.statements) =
      ((migrations fun _ => "").drop p).flatMap (·.statements) := by
    rcases hp with rfl | rfl | rfl | rfl | rfl <;> rfl
  rw [hsums]
  unfold NamesDistinct
  rcases hp with rfl | rfl | rfl | rfl | rfl <;> decide +kernel

theorem Completed.remaining (h : Completed sums p σ) :
    ∃ c, σ.catalog.run (((migrations sums).drop p).flatMap (·.statements)) = .ok c := by
  obtain ⟨hrun, hvouched, _⟩ := schemaAfter_remaining sums h.le
  rw [← h.schema] at hvouched hrun
  have hbare := run_bare (ready_of_vouched h.rows hvouched)
  rw [hrun] at hbare
  cases hx : σ.catalog.run (((migrations sums).drop p).flatMap (·.statements)) with
  | error r =>
    rw [hx] at hbare
    cases hbare
  | ok c => exact ⟨c, rfl⟩

theorem Completed.names (h : Completed sums p σ) : NamesDistinct σ.catalog := by
  have hnames := (schemaAfter_remaining sums h.le).2.2
  rw [← h.schema] at hnames
  unfold NamesDistinct at hnames ⊢
  rwa [Catalog.bare, List.map_map] at hnames

/-- The table of versions is there, and names the first `p`. -/
theorem Completed.tracking (h : Completed sums p σ) :
    σ.exec .createTracking = .ok ⟨σ.catalog, some (((migrations sums).take p).map (·.recorded))⟩ := by
  rcases h.applied with happlied | ⟨rfl, happlied⟩
  · simp only [SchemaState.exec, happlied, Option.getD_some]
  · simp only [SchemaState.exec, happlied, Option.getD_none]
    rfl

theorem Completed.steps (h : Completed sums p σ) :
    σ.steps (migrations sums) = .createTracking :: ((migrations sums).drop p).flatMap Migration.actions := by
  have hgetD : σ.applied.getD [] = ((migrations sums).take p).map (·.recorded) := by
    rcases h.applied with happlied | ⟨rfl, happlied⟩
    · rw [happlied, Option.getD_some]
    · rw [happlied, Option.getD_none]
      rfl
  have hall : (migrations sums).take p ++ (migrations sums).drop p = migrations sums := List.take_append_drop _ _
  unfold SchemaState.steps
  rw [hgetD]
  refine congrArg _ ?_
  have hprogram := @program_of_recorded ((migrations sums).take p) ((migrations sums).drop p)
    (hall.symm ▸ versions_nodup sums)
  rwa [hall] at hprogram

/-- A call on a database on which a beginning of the files is recorded. -/
theorem applyMigrations_recorded {ms₁ ms₂ : List Migration} (hall : ms₁ ++ ms₂ = migrations sums) (cat : Catalog) :
    applyMigrations (migrations sums) ⟨cat, some (ms₁.map (·.recorded))⟩ =
      ((⟨cat, some (ms₁.map (·.recorded))⟩ : SchemaState).run (ms₂.flatMap Migration.actions)).map fun σ =>
        (some 4, σ) := by
  have hprogram := @program_of_recorded ms₁ ms₂ (hall.symm ▸ versions_nodup sums)
  rw [hall] at hprogram
  unfold applyMigrations SchemaState.steps
  rw [Option.getD_some, hprogram]
  rfl

/-- It succeeds where the statements of the others do. -/
theorem applyMigrations_ok {ms₁ ms₂ : List Migration} (hall : ms₁ ++ ms₂ = migrations sums) {cat c : Catalog}
    (h : cat.run (ms₂.flatMap (·.statements)) = .ok c) :
    applyMigrations (migrations sums) ⟨cat, some (ms₁.map (·.recorded))⟩ =
      .ok (some 4, ⟨c, some ((migrations sums).map (·.recorded))⟩) := by
  rw [applyMigrations_recorded hall, SchemaState.run_blocks ?_ h, ← List.map_append, hall]
  · rfl
  · rw [← List.map_append, hall, recorded_versions]
    exact versions_nodup sums

theorem Completed.finished (h : Completed sums p σ) {c : Catalog}
    (hc : σ.catalog.run (((migrations sums).drop p).flatMap (·.statements)) = .ok c) :
    applyMigrations (migrations sums) σ = .ok (some 4, ⟨c, some ((migrations sums).map (·.recorded))⟩) := by
  have hall : (migrations sums).take p ++ (migrations sums).drop p = migrations sums := List.take_append_drop _ _
  rw [← applyMigrations_ok hall hc, applyMigrations_recorded hall]
  unfold applyMigrations
  rw [h.steps, SchemaState.run_cons, h.tracking]
  rfl

end remaining

/-! ## Where a call stops -/

/-- A beginning of a sequence of blocks: all of them, or some, and the beginning of the next one. -/
theorem take_flatMap_cases {A B : Type} (f : A → List B) (l : List A) (k : Nat) :
    (l.flatMap f).take k = l.flatMap f ∨
      ∃ l₁ a l₂ i, l = l₁ ++ a :: l₂ ∧ i < (f a).length ∧ (l.flatMap f).take k = l₁.flatMap f ++ (f a).take i := by
  induction l generalizing k with
  | nil => exact Or.inl (by simp)
  | cons a l ih =>
    by_cases hk : k < (f a).length
    · refine Or.inr ⟨[], a, l, k, rfl, hk, ?_⟩
      rw [List.flatMap_cons, List.take_append_of_le_length (by omega)]
      rfl
    · have htake : (f a ++ l.flatMap f).take k = f a ++ (l.flatMap f).take (k - (f a).length) := by
        rw [List.take_append, List.take_of_length_le (by omega)]
      rw [List.flatMap_cons, htake]
      rcases ih (k - (f a).length) with h | ⟨l₁, b, l₂, i, rfl, hi, h⟩
      · exact Or.inl (congrArg _ h)
      · refine Or.inr ⟨a :: l₁, b, l₂, i, rfl, hi, ?_⟩
        rw [h, List.flatMap_cons, List.append_assoc]

/-- The statements may be executed again from any point of them. -/
def Repeatable (l : List Statement) : Prop :=
  (∀ s ∈ l, s.rerunnable = true) ∧ ∀ s ∈ l, ∀ s' ∈ l, s.compatible s' = true

instance (l : List Statement) : Decidable (Repeatable l) := inferInstanceAs (Decidable (_ ∧ _))

/-- The first two files are repeatable, the others begin by adding a column. -/
theorem statements_cases {sums : Nat → String} {m : Migration} (hm : m ∈ migrations sums) :
    Repeatable m.statements ∨ ∃ table column l, m.statements = .addColumn table column :: l := by
  simp only [migrations, List.mem_cons, List.not_mem_nil, or_false] at hm
  rcases hm with rfl | rfl | rfl | rfl
  · have hinitial : Repeatable initialStatements := by decide +kernel
    exact Or.inl hinitial
  · have hscoped : Repeatable producerScopedStatements := by decide +kernel
    exact Or.inl hscoped
  · exact Or.inr ⟨_, _, _, rfl⟩
  · exact Or.inr ⟨_, _, _, rfl⟩

/-- A repeatable file is what it was, executed again; the others too, as long as no column was added. -/
theorem run_again {sums : Nat → String} {m : Migration} (hm : m ∈ migrations sums)
    {cat stopped : Catalog} {i : Nat}
    (hi : cat.run (m.statements.take i) = .ok stopped)
    (hcolumn : ∀ table column, .addColumn table column ∉ m.statements.take i) :
    stopped.run m.statements = cat.run m.statements := by
  rcases statements_cases hm with ⟨hr, hc⟩ | ⟨table, column, l, hl⟩
  · exact rerun hr hc hi
  · cases i with
    | zero =>
      cases hi
      rfl
    | succ i =>
      rw [hl, List.take_succ_cons] at hcolumn
      exact absurd List.mem_cons_self (hcolumn table column)

/-- Where a column was added, the file fails on its first statement. -/
theorem fails_again {sums : Nat → String} {m : Migration} (hm : m ∈ migrations sums)
    {cat stopped : Catalog} {i : Nat}
    (hd : NamesDistinct cat) (hi : cat.run (m.statements.take i) = .ok stopped)
    {table : String} {column : Column} (hcolumn : .addColumn table column ∈ m.statements.take i) :
    ∃ s l r, m.statements = s :: l ∧ stopped.exec s = .error r := by
  rcases statements_cases hm with ⟨hr, _⟩ | ⟨table', column', l, hl⟩
  · have habsurd := hr _ (List.mem_of_mem_take hcolumn)
    cases habsurd
  · cases i with
    | zero => cases hcolumn
    | succ i =>
      refine ⟨_, l, .duplicateColumn column'.name, hl, ?_⟩
      rw [hl, List.take_succ_cons] at hi
      have hsplit : cat.run ([.addColumn table' column'] ++ l.take i) = .ok stopped := hi
      obtain ⟨mid, hmid, hrest⟩ := run_append_eq_ok.1 hsplit
      rw [run_singleton] at hmid
      exact exec_addColumn_again (hd.run hi) ((hasColumn_of_exec hmid).run hrest)

section stopped
variable {sums : Nat → String} {ms₁ ms₂ : List Migration} {m : Migration}

theorem mem_of_ddl_mem {ms : List Migration} {s : Statement}
    (h : .ddl m s ∈ ms.flatMap Migration.actions) : m ∈ ms := by
  obtain ⟨m₁, hm₁, hin⟩ := List.mem_flatMap.1 h
  rcases List.mem_append.1 hin with hin | hin
  · obtain ⟨s', _, heq⟩ := List.mem_map.1 hin
    cases heq
    exact hm₁
  · cases List.mem_singleton.1 hin

theorem record_mem_iff {ms : List Migration} : .record m ∈ ms.flatMap Migration.actions ↔ m ∈ ms := by
  constructor
  · intro h
    obtain ⟨m₁, hm₁, hin⟩ := List.mem_flatMap.1 h
    rcases List.mem_append.1 hin with hin | hin
    · obtain ⟨s, _, heq⟩ := List.mem_map.1 hin
      cases heq
    · cases List.mem_singleton.1 hin
      exact hm₁
  · intro hm
    exact List.mem_flatMap.2 ⟨m, hm, List.mem_append_right _ (List.mem_singleton_self _)⟩

/-- Files executed whole leave nothing half done. -/
theorem not_halfAltered_whole (ms : List Migration) :
    ¬ HalfAltered (.createTracking :: ms.flatMap Migration.actions) := by
  rintro ⟨m, table, column, hadded, hrecord⟩
  have hin := (List.mem_cons.1 hadded).resolve_left (by simp)
  exact hrecord (List.mem_cons_of_mem _ (record_mem_iff.2 (mem_of_ddl_mem hin)))

/-- The columns added and not recorded are those of the file the call was in. -/
theorem halfAltered_iff (hd : ((ms₁ ++ m :: ms₂).map (·.version)).Nodup) (i : Nat) :
    HalfAltered (.createTracking :: (ms₁.flatMap Migration.actions ++ (m.statements.take i).map (.ddl m))) ↔
      ∃ table column, .addColumn table column ∈ m.statements.take i := by
  constructor
  · rintro ⟨m', table, column, hadded, hrecord⟩
    rcases List.mem_append.1 ((List.mem_cons.1 hadded).resolve_left (by simp)) with hin | hin
    · refine absurd (List.mem_cons_of_mem _ (List.mem_append_left _ ?_)) hrecord
      exact record_mem_iff.2 (mem_of_ddl_mem hin)
    · obtain ⟨s, hs, heq⟩ := List.mem_map.1 hin
      cases heq
      exact ⟨table, column, hs⟩
  · rintro ⟨table, column, hadded⟩
    refine ⟨m, table, column, ?_, ?_⟩
    · exact List.mem_cons_of_mem _ (List.mem_append_right _ (List.mem_map_of_mem hadded))
    · intro hrecord
      rcases List.mem_append.1 ((List.mem_cons.1 hrecord).resolve_left (by simp)) with hin | hin
      · rw [List.map_append, List.nodup_append] at hd
        exact hd.2.2 m.version (List.mem_map_of_mem (record_mem_iff.1 hin)) m.version (by simp) rfl
      · obtain ⟨s, _, heq⟩ := List.mem_map.1 hin
        cases heq

/-- A call stopped in a file: the files before it are recorded, and a beginning of it is executed. -/
theorem run_stopped {cat c₁ stopped : Catalog} {rs : List Recorded}
    (hnew : ((rs ++ ms₁.map (·.recorded)).map (·.version)).Nodup)
    (h₁ : cat.run (ms₁.flatMap (·.statements)) = .ok c₁)
    {i : Nat} (hi : c₁.run (m.statements.take i) = .ok stopped) :
    (⟨cat, some rs⟩ : SchemaState).run (ms₁.flatMap Migration.actions ++ (m.statements.take i).map (.ddl m)) =
      .ok ⟨stopped, some (rs ++ ms₁.map (·.recorded))⟩ := by
  rw [SchemaState.run_append_ok (SchemaState.run_blocks hnew h₁)]
  exact SchemaState.run_ddl m hi

/-- The next call starts the file over, and succeeds where no column was added. -/
theorem stopped_ok {rs : List Migration} (hall : (rs ++ ms₁) ++ m :: ms₂ = migrations sums)
    {c₁ stopped : Catalog} {i : Nat} (hi : c₁.run (m.statements.take i) = .ok stopped)
    {c : Catalog} (hc : c₁.run ((m :: ms₂).flatMap (·.statements)) = .ok c)
    (hcolumn : ∀ table column, .addColumn table column ∉ m.statements.take i) :
    applyMigrations (migrations sums) ⟨stopped, some ((rs ++ ms₁).map (·.recorded))⟩ =
      .ok (some 4, ⟨c, some ((migrations sums).map (·.recorded))⟩) := by
  have hm : m ∈ migrations sums := by simp [← hall]
  refine applyMigrations_ok hall ?_
  rw [List.flatMap_cons, run_append] at hc ⊢
  rw [run_again hm hi hcolumn]
  exact hc

/-- Where one was, it fails. -/
theorem stopped_error {rs : List Migration} (hall : (rs ++ ms₁) ++ m :: ms₂ = migrations sums)
    {c₁ stopped : Catalog} (hd : NamesDistinct c₁) {i : Nat} (hi : c₁.run (m.statements.take i) = .ok stopped)
    {table : String} {column : Column} (hadded : .addColumn table column ∈ m.statements.take i) :
    ∃ e, applyMigrations (migrations sums) ⟨stopped, some ((rs ++ ms₁).map (·.recorded))⟩ = .error e := by
  have hm : m ∈ migrations sums := by simp [← hall]
  obtain ⟨s, l, r, hl, hr⟩ := fails_again hm hd hi hadded
  refine ⟨m.failed (refusalText r), ?_⟩
  rw [applyMigrations_recorded hall, List.flatMap_cons, Migration.actions, hl, List.map_cons, List.cons_append,
    List.cons_append, SchemaState.run_ddl_error (σ := ⟨stopped, _⟩) m hr]
  rfl

end stopped

section main
variable {sums : Nat → String} {p : Nat} {σ : SchemaState}

theorem all_versions (c : Catalog) (sums : Nat → String) :
    (⟨c, some ((migrations sums).map (·.recorded))⟩ : SchemaState).versions = [1, 2, 3, 4] := rfl

/-- The call stopped inside a file, or between its last statement and its record. -/
theorem resumes_stopped_iff (h : Completed sums p σ) {ms₁ ms₂ : List Migration} {m : Migration}
    (hsplit : (migrations sums).drop p = ms₁ ++ m :: ms₂) (i : Nat) :
    ∃ stopped, (⟨σ.catalog, some (((migrations sums).take p).map (·.recorded))⟩ : SchemaState).run
        (ms₁.flatMap Migration.actions ++ (m.statements.take i).map (.ddl m)) = .ok stopped ∧
      (Resumes sums σ stopped ↔ ∀ table column, .addColumn table column ∉ m.statements.take i) := by
  obtain ⟨c, hc⟩ := h.remaining
  have hfinished := h.finished hc
  rw [hsplit, List.flatMap_append] at hc
  obtain ⟨c₁, h₁, hrest⟩ := run_append_eq_ok.1 hc
  have hfile := hrest
  rw [List.flatMap_cons, ← List.take_append_drop i m.statements, List.append_assoc] at hfile
  obtain ⟨stopped, hi, _⟩ := run_append_eq_ok.1 hfile
  have hall : ((migrations sums).take p ++ ms₁) ++ m :: ms₂ = migrations sums := by
    rw [List.append_assoc, ← hsplit, List.take_append_drop]
  have hnew : ((((migrations sums).take p).map (·.recorded) ++ ms₁.map (·.recorded)).map (·.version)).Nodup := by
    have hd := versions_nodup sums
    rw [← hall, List.map_append, List.nodup_append] at hd
    rw [← List.map_append, recorded_versions]
    exact hd.1
  refine ⟨_, run_stopped hnew h₁ hi, ?_⟩
  rw [← List.map_append]
  constructor
  · rintro ⟨done, _, hdone, _⟩ table column hadded
    obtain ⟨e, he⟩ := stopped_error hall (h.names.run h₁) hi hadded
    rw [he] at hdone
    cases hdone
  · intro hcolumn
    exact ⟨_, hfinished, stopped_ok hall hi hrest hcolumn, all_versions c sums⟩

/-- **Exactly when a stopped call can be resumed**: not between an added column and the record of its version. -/
theorem migrations_resume_iff (h : Completed sums p σ) (k : Nat) :
    ∃ stopped, σ.run ((σ.steps (migrations sums)).take k) = .ok stopped ∧
      (Resumes sums σ stopped ↔ ¬ HalfAltered ((σ.steps (migrations sums)).take k)) := by
  obtain ⟨c, hc⟩ := h.remaining
  have hfinished := h.finished hc
  cases k with
  | zero =>
    have hnone : ¬ HalfAltered [] := by
      rintro ⟨m, table, column, hadded, _⟩
      cases hadded
    exact ⟨σ, rfl, iff_of_true ⟨_, hfinished, hfinished, all_versions c sums⟩ hnone⟩
  | succ k =>
    rw [h.steps, List.take_succ_cons]
    have hrun : ∀ l, σ.run (.createTracking :: l) =
        (⟨σ.catalog, some (((migrations sums).take p).map (·.recorded))⟩ : SchemaState).run l := by
      intro l
      rw [SchemaState.run_cons, h.tracking]
      rfl
    rw [hrun]
    rcases take_flatMap_cases Migration.actions ((migrations sums).drop p) k with htake |
      ⟨ms₁, m, ms₂, i, hsplit, hi, htake⟩
    · have hnew : ((((migrations sums).take p).map (·.recorded) ++ ((migrations sums).drop p).map (·.recorded)).map
          (·.version)).Nodup := by
        rw [← List.map_append, List.take_append_drop, recorded_versions]
        exact versions_nodup sums
      have hdone : applyMigrations (migrations sums) ⟨c, some ((migrations sums).map (·.recorded))⟩ =
          .ok (some 4, ⟨c, some ((migrations sums).map (·.recorded))⟩) :=
        applyMigrations_ok (List.append_nil _) rfl
      rw [htake]
      refine ⟨_, SchemaState.run_blocks hnew hc, iff_of_true ⟨_, hfinished, ?_, all_versions c sums⟩ ?_⟩
      · rw [← List.map_append, List.take_append_drop]
        exact hdone
      · exact not_halfAltered_whole _
    · have hlength : i ≤ m.statements.length := by
        rw [Migration.actions, List.length_append, List.length_map, List.length_singleton] at hi
        omega
      have htaken : m.actions.take i = (m.statements.take i).map (.ddl m) := by
        rw [Migration.actions, List.take_append_of_le_length (by rwa [List.length_map]), List.map_take]
      rw [htake, htaken]
      obtain ⟨stopped, hrun, hresumes⟩ := resumes_stopped_iff h hsplit i
      refine ⟨stopped, hrun, hresumes.trans ?_⟩
      have hd : ((ms₁ ++ m :: ms₂).map (·.version)).Nodup := by
        rw [← hsplit]
        exact (versions_nodup sums).sublist ((List.drop_sublist _ _).map _)
      rw [halfAltered_iff hd]
      constructor
      · rintro hcolumn ⟨table, column, hadded⟩
        exact hcolumn table column hadded
      · intro hcolumn table column hadded
        exact hcolumn ⟨table, column, hadded⟩

end main

/-! ## A database of version 2 -/

def sampleSums (version : Nat) : String := "sum-" ++ toString version

/-- Versions 1 and 2 are recorded, and there is one experiment. -/
def upgraded : SchemaState where
  catalog :=
    { schemaAfter 2 with
      tables := (schemaAfter 2).tables.map fun ts => if ts.schema.name == "experiments" then
        { ts with rows := [[("experiment_id", .text "e-1"), ("objective", .text "edge"), ("strategy_id", .null),
          ("strategy_version", .null), ("producer", .text "p"),
          ("created_at", .text "2026-01-01T00:00:00+00:00")]] }
        else ts }
  applied := some (((migrations sampleSums).take 2).map (·.recorded))

theorem upgraded_completed : Completed sampleSums 2 upgraded where
  le := by omega
  schema := by decide +kernel
  applied := Or.inl rfl
  rows := ⟨by decide +kernel, by decide +kernel⟩

theorem migrations_resume_upgraded : Completed sampleSums 2 upgraded ∧
    ∃ stopped, upgraded.run ((upgraded.steps (migrations sampleSums)).take 1) = .ok stopped ∧
      (Resumes sampleSums upgraded stopped ↔
        ¬ HalfAltered ((upgraded.steps (migrations sampleSums)).take 1)) :=
  ⟨upgraded_completed, migrations_resume_iff upgraded_completed 1⟩

/-- Stopped after the first statement of version 3, the store cannot be opened any more. -/
theorem half_altered_fails : Completed sampleSums 2 upgraded ∧
    ∃ stopped, upgraded.run ((upgraded.steps (migrations sampleSums)).take 2) = .ok stopped ∧
      applyMigrations (migrations sampleSums) stopped = .error (ErrorClass.metadataStoreError.exc
        "failed applying migration '003_optional_idempotency_keys.sql': duplicate column name: idempotency_key") ∧
      ¬ Resumes sampleSums upgraded stopped := by
  have hstop : ((upgraded.run ((upgraded.steps (migrations sampleSums)).take 2)).bind
      (applyMigrations (migrations sampleSums))) = .error (ErrorClass.metadataStoreError.exc
        "failed applying migration '003_optional_idempotency_keys.sql': duplicate column name: idempotency_key") := by
    decide +kernel
  have hok : (upgraded.run ((upgraded.steps (migrations sampleSums)).take 2)).isOk = true := by decide +kernel
  refine ⟨upgraded_completed, ?_⟩
  cases hrun : upgraded.run ((upgraded.steps (migrations sampleSums)).take 2) with
  | error e =>
    rw [hrun] at hok
    cases hok
  | ok stopped =>
    rw [hrun] at hstop
    have hfails : applyMigrations (migrations sampleSums) stopped = _ := hstop
    refine ⟨stopped, rfl, hfails, ?_⟩
    rintro ⟨done, _, hdone, _⟩
    rw [hfails] at hdone
    cases hdone

end Cer
