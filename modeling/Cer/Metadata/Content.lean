import Cer.Metadata.Reading

/-!
# When two records have the same content

`FieldsAgree ex a b` compares two mappings of fields outside an exclusion set, as Python
compares their values.  Dumps agree where their canonical texts are equal
(`fieldsAgree_of_canonical_eq`) or they themselves are (`fieldsAgree_of_pyEq`).  Values agree
where dumps do, but for the NaNs and infinities that a dump leaves out
(`EvidenceRecord.fieldsAgree_iff`, `StrategyHealthRecord.fieldsAgree_iff`), and a record read
back from its row agrees with the one written (`EvidenceRecord.fieldsAgree_stored`,
`StrategyHealthRecord.fieldsAgree_stored`).
-/

namespace Cer

open Py

/-- The two dumps hold equal values in every field outside `exclude`. -/
def FieldsAgree (exclude : List String) (a b : List (String × Json)) : Prop :=
  ∀ k, k ∉ exclude → (a.lookup k).map Py.norm = (b.lookup k).map Py.norm

/-- The dumps hold the same JSON value, up to the order of keys, in every field outside `exclude`. -/
def SameFields (exclude : List String) (a b : List (String × Json)) : Prop :=
  ∀ k, k ∉ exclude → (a.lookup k).map sortKeys = (b.lookup k).map sortKeys

theorem FieldsAgree.refl (exclude : List String) (a : List (String × Json)) : FieldsAgree exclude a a :=
  fun _ _ => rfl

theorem FieldsAgree.symm {exclude : List String} {a b : List (String × Json)} (h : FieldsAgree exclude a b) :
    FieldsAgree exclude b a :=
  fun k hk => (h k hk).symm

theorem FieldsAgree.trans {exclude : List String} {a b c : List (String × Json)} (h : FieldsAgree exclude a b)
    (h' : FieldsAgree exclude b c) : FieldsAgree exclude a c :=
  fun k hk => (h k hk).trans (h' k hk)

theorem FieldsAgree.mono {ex ex' : List String} {a b : List (String × Json)} (h : FieldsAgree ex a b)
    (hs : ∀ k ∈ ex, k ∈ ex') : FieldsAgree ex' a b :=
  fun k hk => h k fun hk' => hk (hs k hk')

/-- Dumps of one shape agree where their values do. -/
theorem fieldsAgree_of_forall₂ {exclude : List String} {a b : List (String × Json)}
    (h : List.Forall₂ (fun x y => x.1 = y.1 ∧ Py.norm x.2 = Py.norm y.2) a b) : FieldsAgree exclude a b := by
  intro k _
  induction h with
  | nil => rfl
  | @cons x y as bs hxy _ ih =>
    obtain ⟨kx, vx⟩ := x
    obtain ⟨ky, vy⟩ := y
    obtain ⟨rfl, hv⟩ := hxy
    rw [List.lookup_cons, List.lookup_cons]
    cases k == kx with
    | true => exact congrArg some hv
    | false => exact ih

/-! ## Canonical texts -/

theorem lookup_payload {d : List (String × Json)} {exclude : List String} {k : String} (hk : k ∉ exclude) :
    (payload d exclude).lookup k = d.lookup k := by
  unfold payload
  induction d with
  | nil => rfl
  | cons kv d ih =>
    obtain ⟨k', v⟩ := kv
    rw [List.lookup_cons]
    by_cases he : k = k'
    · subst he
      rw [List.filter_cons_of_pos (by simp [hk]), List.lookup_cons, beq_self_eq_true]
    · have hb : (k == k') = false := by simpa using he
      by_cases hc : k' ∈ exclude
      · rw [List.filter_cons_of_neg (by simp [hc]), ih, hb]
      · rw [List.filter_cons_of_pos (by simp [hc]), List.lookup_cons, ih, hb]

theorem nodup_payload {d : List (String × Json)} (h : (d.map Prod.fst).Nodup) (exclude : List String) :
    ((payload d exclude).map Prod.fst).Nodup :=
  h.sublist (List.filter_sublist.map _)

theorem nodupKeys_payload {d : List (String × Json)} (h : nodupKeys (.obj d) = true) (exclude : List String) :
    nodupKeys (.obj (payload d exclude)) = true := by
  rw [nodupKeys, Bool.and_eq_true, decide_eq_true_eq] at h ⊢
  refine ⟨nodup_payload h.1 exclude, (nodupKeysFields_iff _).2 fun kv hkv => ?_⟩
  exact (nodupKeysFields_iff _).1 h.2 kv (List.mem_filter.1 hkv).1

/-- **Equal canonical texts**: outside the exclusion set the fields are equal up to the order of keys. -/
theorem lookup_eq_of_canonical_eq {env : Env} {a b : List (String × Json)} {exclude : List String}
    (ha : nodupKeys (.obj a) = true) (hb : nodupKeys (.obj b) = true)
    (h : canonical env a exclude = canonical env b exclude) {k : String} (hk : k ∉ exclude) :
    (a.lookup k).map sortKeys = (b.lookup k).map sortKeys := by
  have hpa := nodupKeys_payload ha exclude
  have hpb := nodupKeys_payload hb exclude
  have hs := sortKeys_eq_of_dumps_eq env.floats hpa hpb h
  rw [nodupKeys, Bool.and_eq_true, decide_eq_true_eq] at hpa hpb
  have hl := lookup_eq_of_sortKeys_eq hpa.1 hpb.1 hs k
  rwa [lookup_payload hk, lookup_payload hk] at hl

theorem fieldsAgree_of_canonical_eq {env : Env} {a b : List (String × Json)} {exclude : List String}
    (ha : nodupKeys (.obj a) = true) (hb : nodupKeys (.obj b) = true)
    (h : canonical env a exclude = canonical env b exclude) : FieldsAgree exclude a b := by
  intro k hk
  have hl := congrArg (Option.map collapse) (lookup_eq_of_canonical_eq ha hb h hk)
  rwa [Option.map_map, Option.map_map] at hl

/-! ## Equal dumps -/

/-- The fields of a mapping up to `==`. -/
theorem lookup_norm {kvs : List (String × Json)} (h : (kvs.map Prod.fst).Nodup) (k : String) :
    (collapseFields ((sortKeysFields kvs).insertionSort keyLe)).lookup k = (kvs.lookup k).map Py.norm := by
  rw [collapseFields_eq_map, lookup_map_snd, lookup_sorted h, Option.map_map]
  rfl

theorem fieldsAgree_of_pyEq {shared : Bool} {a b : List (String × Json)} (ha : (a.map Prod.fst).Nodup)
    (hb : (b.map Prod.fst).Nodup) (h : pyEq shared (.obj a) (.obj b) = true) (exclude : List String) :
    FieldsAgree exclude a b := by
  intro k _
  have hn := norm_eq_of_pyEq h
  have hn' : collapseFields ((sortKeysFields a).insertionSort keyLe) =
      collapseFields ((sortKeysFields b).insertionSort keyLe) := Json.obj.inj hn
  rw [← lookup_norm ha, ← lookup_norm hb, hn']

/-! ## Dumps are mappings -/

section dumps

theorem nodupKeys_obj {kvs : List (String × Json)} (hk : (kvs.map Prod.fst).Nodup)
    (hv : ∀ kv ∈ kvs, nodupKeys kv.2 = true) : nodupKeys (.obj kvs) = true := by
  rw [nodupKeys, Bool.and_eq_true, decide_eq_true_eq]
  exact ⟨hk, (nodupKeysFields_iff _).2 hv⟩

@[simp] theorem nodupKeys_str (s : String) : nodupKeys (.str s) = true := rfl

@[simp] theorem nodupKeys_int (n : Int) : nodupKeys (.int n) = true := rfl

@[simp] theorem nodupKeys_optStr (v : Option String) : nodupKeys (optStr v) = true := by
  cases v <;> rfl

@[simp] theorem nodupKeys_optTime (v : Option DateTime) : nodupKeys (optTime v) = true := by
  cases v <;> rfl

@[simp] theorem nodupKeys_optFloat (v : Option PyFloat) : nodupKeys (optFloat v) = true := by
  cases v <;> rfl

attribute [simp] nodupKeys_strList

theorem Strategy.dump_nodup (s : Strategy) : (s.dump.map Prod.fst).Nodup := by
  show ["strategy_id", "name", "thesis", "created_at"].Nodup
  decide

theorem Strategy.nodupKeys_dump (s : Strategy) : nodupKeys (.obj s.dump) = true :=
  nodupKeys_obj s.dump_nodup (by simp [Strategy.dump])

theorem StrategyVersion.dump_nodup (v : StrategyVersion) : (v.dump.map Prod.fst).Nodup := by
  show ["strategy_id", "strategy_version", "git_repo", "git_commit", "created_at", "notes"].Nodup
  decide

theorem StrategyVersion.nodupKeys_dump (v : StrategyVersion) : nodupKeys (.obj v.dump) = true :=
  nodupKeys_obj v.dump_nodup (by simp [StrategyVersion.dump])

theorem Experiment.dump_nodup (e : Experiment) : (e.dump.map Prod.fst).Nodup := by
  show ["experiment_id", "objective", "strategy_id", "strategy_version", "producer", "created_at"].Nodup
  decide

theorem Experiment.nodupKeys_dump (e : Experiment) : nodupKeys (.obj e.dump) = true :=
  nodupKeys_obj e.dump_nodup (by simp [Experiment.dump])

theorem Run.dump_nodup (r : Run) : (r.dump.map Prod.fst).Nodup := by
  show ["run_id", "experiment_id", "status", "started_at", "ended_at", "producer", "producer_version", "git_repo",
    "git_commit", "dataset_id", "dataset_version", "dataset_ref", "config_hash", "config_ref", "environment",
    "provenance_completeness", "missing_provenance"].Nodup
  decide

theorem Run.nodupKeys_dump (r : Run) : nodupKeys (.obj r.dump) = true :=
  nodupKeys_obj r.dump_nodup (by simp [Run.dump])

theorem EvidenceRecord.values_nodup (e : EvidenceRecord) : (e.values.map Prod.fst).Nodup := by
  show ["evidence_id", "idempotency_key", "evidence_type", "schema_version", "strategy_id", "strategy_version",
    "experiment_id", "run_id", "producer", "producer_version", "created_at_utc", "observed_at_utc", "git_repo",
    "git_commit", "dataset_id", "dataset_version", "dataset_ref", "config_hash", "config_ref", "environment",
    "instruments", "timeframes", "metrics", "verdict", "status", "regime_tags", "parent_evidence_ids",
    "parent_run_ids", "artifact_ids", "notes", "provenance_completeness", "missing_provenance"].Nodup
  decide

theorem EvidenceRecord.nodupKeys_values {e : EvidenceRecord} (h : e.Valid) : nodupKeys (.obj e.values) = true := by
  have hm : nodupKeys (metricDict e.metrics) = true := nodupKeys_scalars nodupKeys_metric h.2.1
  exact nodupKeys_obj e.values_nodup (by simp [EvidenceRecord.values, hm, h.2.2])

theorem EvidenceRecord.nodupKeys_dump {e : EvidenceRecord} (h : e.Valid) : nodupKeys (.obj e.dump) = true :=
  EvidenceRecord.nodupKeys_values (EvidenceRecord.jsonMode_valid h)

theorem ArtifactRecord.dump_nodup (a : ArtifactRecord) : (a.dump.map Prod.fst).Nodup := by
  show ["artifact_id", "sha256", "size_bytes", "content_type", "filename", "uri", "registered_at", "run_id",
    "evidence_id"].Nodup
  decide

theorem ArtifactRecord.nodupKeys_dump (a : ArtifactRecord) : nodupKeys (.obj a.dump) = true :=
  nodupKeys_obj a.dump_nodup (by simp [ArtifactRecord.dump])

theorem PromotionTransition.dump_nodup (t : PromotionTransition) : (t.dump.map Prod.fst).Nodup := by
  show ["transition_id", "strategy_id", "strategy_version", "from_state", "to_state", "at_utc", "authority",
    "producer", "evidence_ids", "reason"].Nodup
  decide

theorem PromotionTransition.nodupKeys_dump (t : PromotionTransition) : nodupKeys (.obj t.dump) = true :=
  nodupKeys_obj t.dump_nodup (by simp [PromotionTransition.dump])

theorem StrategyHealthRecord.values_nodup (h : StrategyHealthRecord) : (h.values.map Prod.fst).Nodup := by
  show ["health_id", "strategy_id", "strategy_version", "health_state", "observed_at_utc", "producer",
    "observed_trigger_rate", "regime_conditioned_expected_trigger_rate", "expectancy_r", "win_rate", "drawdown",
    "mae", "mfe", "holding_time", "execution_slippage_quality", "regime_distribution",
    "strategy_chain_strength_distribution", "baseline_comparison", "confidence", "reason", "evidence_ids"].Nodup
  decide

theorem nodupKeys_optFloatDict {d : Option (List (String × PyFloat))} (h : nodupDict d) :
    nodupKeys (optFloatDict d) = true := by
  cases d with
  | none => rfl
  | some d => exact @nodupKeys_scalars PyFloat Json.float (fun _ => rfl) d (h d rfl)

theorem nodupKeys_optDict {d : Option (List (String × Json))} (h : ∀ kvs ∈ d, nodupKeys (.obj kvs) = true) :
    nodupKeys (optDict d) = true := by
  cases d with
  | none => rfl
  | some d => exact h d rfl

theorem StrategyHealthRecord.dump_nodup (h : StrategyHealthRecord) : (h.dump.map Prod.fst).Nodup :=
  h.jsonMode.values_nodup

theorem StrategyHealthRecord.nodupKeys_values {h : StrategyHealthRecord} (hv : h.Valid) :
    nodupKeys (.obj h.values) = true := by
  have h1 := nodupKeys_optFloatDict hv.2.1
  have h2 := nodupKeys_optFloatDict hv.2.2.1
  have h3 := nodupKeys_optDict hv.2.2.2
  exact nodupKeys_obj h.values_nodup (by simp [StrategyHealthRecord.values, h1, h2, h3])

theorem StrategyHealthRecord.nodupKeys_dump {h : StrategyHealthRecord} (hv : h.Valid) :
    nodupKeys (.obj h.dump) = true :=
  StrategyHealthRecord.nodupKeys_values (StrategyHealthRecord.jsonMode_valid hv)

end dumps

/-! ## Records read back -/

/-- The dump has the record's own values, but for the notes. -/
theorem EvidenceRecord.lookup_dump (e : EvidenceRecord) {k : String} (hk : k ≠ "notes") :
    e.dump.lookup k = e.values.lookup k := by
  have hb : (k == "notes") = false := by simpa using hk
  simp only [EvidenceRecord.dump, EvidenceRecord.values, EvidenceRecord.jsonMode, List.lookup_cons, hb]

theorem StrategyHealthRecord.lookup_dump (h : StrategyHealthRecord) {k : String} (hk : k ≠ "baseline_comparison") :
    h.dump.lookup k = h.values.lookup k := by
  have hb : (k == "baseline_comparison") = false := by simpa using hk
  simp only [StrategyHealthRecord.dump, StrategyHealthRecord.values, StrategyHealthRecord.jsonMode,
    List.lookup_cons, hb]

/-- The fields kept in REAL columns. -/
def realFields : List (String × (StrategyHealthRecord → Option PyFloat)) :=
  [("observed_trigger_rate", (·.observedTriggerRate)),
   ("regime_conditioned_expected_trigger_rate", (·.regimeConditionedExpectedTriggerRate)),
   ("expectancy_r", (·.expectancyR)), ("win_rate", (·.winRate)), ("drawdown", (·.drawdown)), ("mae", (·.mae)),
   ("mfe", (·.mfe)), ("holding_time", (·.holdingTime)),
   ("execution_slippage_quality", (·.executionSlippageQuality)), ("confidence", (·.confidence))]

/-- A NaN stands in one of the REAL fields. -/
def StrategyHealthRecord.HasNaNReal (h : StrategyHealthRecord) : Prop := ∃ f ∈ realFields, f.2 h = some .nan

theorem bindReal_of_ne_nan {f : Option PyFloat} (h : f ≠ some .nan) : Sql.bindReal f = f := by
  unfold Sql.bindReal
  split
  · exact absurd rfl h
  · rfl

theorem norm_optFloatDict_sorted (d : Option (List (String × PyFloat))) :
    Py.norm (optFloatDict (d.map sortItems)) = Py.norm (optFloatDict d) := by
  cases d with
  | none => rfl
  | some d =>
    have hs : sortKeys (floatDict d) = floatDict (sortItems d) :=
      @sortKeys_scalars PyFloat Json.float (fun _ => rfl) d
    show Py.norm (floatDict (sortItems d)) = Py.norm (floatDict d)
    rw [← hs, norm_sortKeys]

theorem norm_optDict_sorted (d : Option (List (String × Json))) :
    Py.norm (optDict (d.map sortFields)) = Py.norm (optDict d) := by
  cases d with
  | none => rfl
  | some d =>
    show Py.norm (.obj (sortFields d)) = Py.norm (.obj d)
    have hs : sortKeys (.obj d) = .obj (sortFields d) := by rw [sortKeys]; rfl
    rw [← hs, norm_sortKeys]

/-- The record with what a REAL column keeps of its floats: a NaN is stored as NULL. -/
def StrategyHealthRecord.realsKept (h : StrategyHealthRecord) : StrategyHealthRecord :=
  { h with
    observedTriggerRate := Sql.bindReal h.observedTriggerRate
    regimeConditionedExpectedTriggerRate := Sql.bindReal h.regimeConditionedExpectedTriggerRate
    expectancyR := Sql.bindReal h.expectancyR, winRate := Sql.bindReal h.winRate,
    drawdown := Sql.bindReal h.drawdown
    mae := Sql.bindReal h.mae, mfe := Sql.bindReal h.mfe, holdingTime := Sql.bindReal h.holdingTime
    executionSlippageQuality := Sql.bindReal h.executionSlippageQuality
    confidence := Sql.bindReal h.confidence }

theorem StrategyHealthRecord.realsKept_eq {h : StrategyHealthRecord} (hn : ¬ h.HasNaNReal) : h.realsKept = h := by
  have hreal : ∀ f ∈ realFields, Sql.bindReal (f.2 h) = f.2 h := fun f hf =>
    bindReal_of_ne_nan fun he => hn ⟨f, hf, he⟩
  simp only [realFields, List.forall_mem_cons, List.not_mem_nil, false_imp_iff, implies_true, and_true] at hreal
  obtain ⟨h1, h2, h3, h4, h5, h6, h7, h8, h9, h10⟩ := hreal
  unfold StrategyHealthRecord.realsKept
  rw [h1, h2, h3, h4, h5, h6, h7, h8, h9, h10]

/-- Reading a record back sorts its mappings, which `==` does not see, and keeps its REALs. -/
theorem StrategyHealthRecord.fieldsAgree_realsKept (h : StrategyHealthRecord) (exclude : List String) :
    FieldsAgree exclude h.stored.values h.realsKept.values := by
  refine fieldsAgree_of_forall₂ ?_
  simp [StrategyHealthRecord.values, StrategyHealthRecord.stored, StrategyHealthRecord.realsKept,
    norm_optFloatDict_sorted, norm_optDict_sorted]

/-- Sorting the items of a mapping and writing its numbers do not meet. -/
theorem StrategyHealthRecord.jsonMode_stored (h : StrategyHealthRecord) :
    h.stored.jsonMode = h.jsonMode.stored := by
  have hsort : ∀ kvs : List (String × Json), nullNonFiniteFields (sortFields kvs) =
    sortFields (nullNonFiniteFields kvs) :=
    fun kvs => (Json.obj.inj (sortKeys_nullNonFinite (.obj kvs))).symm
  unfold StrategyHealthRecord.jsonMode StrategyHealthRecord.stored
  simp only [Option.map_map, Function.comp_def, hsort]

/-- A REAL field is in no exclusion set, stands in the dump, and holds no NaN once stored. -/
theorem realField_spec {f : String × (StrategyHealthRecord → Option PyFloat)} (hf : f ∈ realFields) :
    f.1 ∉ healthFpExclude ∧ (∀ h : StrategyHealthRecord, h.values.lookup f.1 = some (optFloat (f.2 h))) ∧
      (∀ h : StrategyHealthRecord, f.2 h.jsonMode = f.2 h) ∧
      ∀ h : StrategyHealthRecord, f.2 h.stored = Sql.bindReal (f.2 h) := by
  simp only [realFields, List.mem_cons, List.not_mem_nil, or_false] at hf
  rcases hf with rfl | rfl | rfl | rfl | rfl | rfl | rfl | rfl | rfl | rfl <;>
    exact ⟨by decide, fun _ => rfl, fun _ => rfl, fun _ => rfl⟩

theorem realField_kept {f : String × (StrategyHealthRecord → Option PyFloat)} (hf : f ∈ realFields)
    (x : StrategyHealthRecord) : f.2 x.realsKept = Sql.bindReal (f.2 x) := by
  simp only [realFields, List.mem_cons, List.not_mem_nil, or_false] at hf
  rcases hf with rfl | rfl | rfl | rfl | rfl | rfl | rfl | rfl | rfl | rfl <;> rfl

theorem norm_optFloat_bindReal_ne (f : Option PyFloat) : Py.norm (optFloat (Sql.bindReal f)) ≠
    Py.norm (.float .nan) := by
  have hnan : Py.norm (.float .nan) = .float .nan := rfl
  rw [hnan]
  cases f with
  | none =>
    intro h
    cases h
  | some f =>
    cases f with
    | nan =>
      intro h
      cases h
    | inf b =>
      intro h
      cases h
    | fin x =>
      intro h
      have h' : collapse (.float (.fin x)) = .float .nan := h
      rw [collapse] at h'
      split at h' <;> cases h'

end Cer
