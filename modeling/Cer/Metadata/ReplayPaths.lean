import Cer.Metadata.Binding

/-!
# The two paths to a replay

A stored record can be submitted again under its key, or under its identity with no key
or an unused one.  Each path decides on its own whether that is a replay: the key path
compares fingerprints, the identity path compares fingerprints for an experiment and
whole dumps for a promotion or a health record.  `Decides` says what a path's outcome
depends on; two paths agree when they depend on the same thing.
-/

namespace Cer

open Py

/-! ## Fields compared as canonical JSON -/

theorem keys_payload (d : List (String × Json)) (exclude : List String) :
    (payload d exclude).map Prod.fst = (d.map Prod.fst).filter fun k => !exclude.contains k := by
  unfold payload
  rw [List.filter_map]
  rfl

/-- Dumps with their fields in one order have one canonical text where they agree. -/
theorem canonical_eq_iff (env : Env) {a b : List (String × Json)} {exclude : List String}
    (ha : nodupKeys (.obj a) = true) (hb : nodupKeys (.obj b) = true) (hkeys : a.map Prod.fst = b.map Prod.fst) :
    canonical env a exclude = canonical env b exclude ↔ SameFields exclude a b := by
  refine ⟨fun h k hk => lookup_eq_of_canonical_eq ha hb h hk, fun h => ?_⟩
  have hpa := nodupKeys_payload ha exclude
  rw [nodupKeys, Bool.and_eq_true, decide_eq_true_eq] at hpa
  have hfst : ∀ l : List (String × Json), (sortKeysFields l).map Prod.fst = l.map Prod.fst := fun l => by
    rw [sortKeysFields_eq_map, List.map_map]
    rfl
  have hfields : sortKeysFields (payload a exclude) = sortKeysFields (payload b exclude) := by
    refine eq_of_lookup_eq ?_ ?_ fun k => ?_
    · rw [hfst, hfst, keys_payload, keys_payload, hkeys]
    · rw [hfst]
      exact hpa.1
    · rw [sortKeysFields_eq_map, sortKeysFields_eq_map, lookup_map_snd, lookup_map_snd]
      by_cases hk : k ∈ exclude
      · have hnone : ∀ d : List (String × Json), (payload d exclude).lookup k = none := fun d =>
          List.lookup_eq_none_iff.2 fun kv hkv => by
            have hkv' := (List.mem_filter.1 hkv).2
            rw [bne_iff_ne]
            rintro rfl
            simp [hk] at hkv'
        rw [hnone, hnone]
      · rw [lookup_payload hk, lookup_payload hk]
        exact h k hk
  unfold canonical dumps
  rw [sortKeys, sortKeys, hfields]

/-- The fingerprints of two dumps are equal just when the dumps agree, the digest telling their texts apart. -/
theorem fingerprint_eq_iff {env : Env} {a b : List (String × Json)} {exclude : List String}
    (ha : nodupKeys (.obj a) = true) (hb : nodupKeys (.obj b) = true) (hkeys : a.map Prod.fst = b.map Prod.fst)
    (hcol : env.NoCollision (canonical env a exclude) (canonical env b exclude)) :
    fingerprint env a exclude = fingerprint env b exclude ↔ SameFields exclude a b :=
  ⟨fun h => (canonical_eq_iff env ha hb hkeys).1 (hcol h), fun h =>
    congrArg env.digest ((canonical_eq_iff env ha hb hkeys).2 h)⟩

theorem ArtifactRecord.dump_keys (x r : ArtifactRecord) : x.dump.map Prod.fst = r.dump.map Prod.fst := by
  simp only [ArtifactRecord.dump, List.map_cons, List.map_nil]

/-- What the fingerprint of a key covers: digest, length, content type and filename. -/
def ArtifactRecord.content (r : ArtifactRecord) : String × Int × String × String :=
  (r.sha256, r.sizeBytes, r.contentType, r.filename)

theorem ArtifactRecord.canonical_of_content {env : Env} {a b : ArtifactRecord} (h : a.content = b.content) :
    canonical env a.dump artifactIdemFpExclude = canonical env b.dump artifactIdemFpExclude := by
  obtain ⟨hsha, hsize, htype, hname⟩ : a.sha256 = b.sha256 ∧ a.sizeBytes = b.sizeBytes ∧
    a.contentType = b.contentType ∧
      a.filename = b.filename := by simpa [ArtifactRecord.content] using h
  have hpayload : ∀ r : ArtifactRecord, payload r.dump artifactIdemFpExclude = [("sha256", .str r.sha256),
      ("size_bytes", .int r.sizeBytes), ("content_type", .str r.contentType),
      ("filename", .str r.filename)] := fun _ => rfl
  unfold canonical
  rw [hpayload, hpayload, hsha, hsize, htype, hname]

/-- The fingerprints of two records agree just where their contents do. -/
theorem ArtifactRecord.idemFp_eq_iff {env : Env} {a b : ArtifactRecord}
    (hcol : env.NoCollision (canonical env a.dump artifactIdemFpExclude)
      (canonical env b.dump artifactIdemFpExclude)) :
    a.idemFp env = b.idemFp env ↔ a.content = b.content := by
  refine ⟨fun h => ?_, fun h => congrArg env.digest (ArtifactRecord.canonical_of_content h)⟩
  unfold ArtifactRecord.idemFp at h
  rw [fingerprint_eq_iff (ArtifactRecord.nodupKeys_dump _) (ArtifactRecord.nodupKeys_dump _)
    (ArtifactRecord.dump_keys _ _) hcol] at h
  have hsha := h "sha256" (by decide)
  have hsize := h "size_bytes" (by decide)
  have htype := h "content_type" (by decide)
  have hname := h "filename" (by decide)
  simp [ArtifactRecord.dump, List.lookup_cons, sortKeys] at hsha hsize htype hname
  unfold ArtifactRecord.content
  rw [hsha, hsize, htype, hname]

/-- Whole dumps with their fields in one order are `==` where their values are, NaNs by identity. -/
theorem pyEq_obj_iff {shared : Bool} {a b : List (String × Json)} (ha : (a.map Prod.fst).Nodup)
    (hkeys : a.map Prod.fst = b.map Prod.fst) : pyEq shared (.obj a) (.obj b) = true ↔
      FieldsAgree [] a b ∧ (shared = true ∨ hasNaN (.obj b) = false) := by
  constructor
  · intro h
    exact ⟨fieldsAgree_of_pyEq ha (hkeys ▸ ha) h [], (pyEq_iff.1 h).2⟩
  · rintro ⟨h, hnan⟩
    exact pyEq_iff.2 ⟨norm_obj_eq hkeys ha fun k => h k List.not_mem_nil, hnan⟩

/-! The fields of a record's dump stand in one order. -/

theorem Experiment.dump_keys (x s : Experiment) : x.dump.map Prod.fst = s.dump.map Prod.fst := by
  simp only [Experiment.dump, List.map_cons, List.map_nil]

theorem PromotionTransition.dump_keys (x s : PromotionTransition) : x.dump.map Prod.fst = s.dump.map Prod.fst := by
  simp only [PromotionTransition.dump, List.map_cons, List.map_nil]

theorem StrategyHealthRecord.dump_keys (x s : StrategyHealthRecord) :
    x.dump.map Prod.fst = s.dump.map Prod.fst := by
  simp only [StrategyHealthRecord.dump, StrategyHealthRecord.values, List.map_cons, List.map_nil]

/-! ## Two paths -/

/-- The outcome depends on `same` alone: the stored record where it holds, the refusal where it does not. -/
structure Decides {Rec : Type} (out : Except Exc (Rec × Database)) (same : Prop) (stored : Rec) (db : Database)
    (refusal : String → Exc) : Prop where
  replays : same → out = .ok (stored, db)
  refuses : ¬ same → ∃ m, out = .error (refusal m)

/-- Both paths decide by the same thing, each with its own refusal. -/
structure PathsAgree {Rec : Type} (idPath keyPath : Except Exc (Rec × Database)) (same : Prop) (stored : Rec)
    (db : Database) : Prop where
  byId : Decides idPath same stored db immutability
  byKey : Decides keyPath same stored db idempotencyConflict

section decides
variable {Rec : Type} {out : Except Exc (Rec × Database)} {same same' : Prop} {stored : Rec} {db : Database}
  {refusal : String → Exc}

theorem Decides.congr (h : Decides out same stored db refusal) (hs : same ↔ same') :
    Decides out same' stored db refusal :=
  ⟨fun h' => h.replays (hs.2 h'), fun h' => h.refuses fun h'' => h' (hs.1 h'')⟩

/-- An outcome depends on one thing only. -/
theorem Decides.iff (h : Decides out same stored db refusal) (h' : Decides out same' stored db refusal) :
    same ↔ same' := by
  constructor
  · intro hs
    by_contra hs'
    obtain ⟨m, hm⟩ := h'.refuses hs'
    cases (h.replays hs).symm.trans hm
  · intro hs'
    by_contra hs
    obtain ⟨m, hm⟩ := h.refuses hs
    cases (h'.replays hs').symm.trans hm

theorem Decides.asReply (h : Decides out same stored db refusal) (f : Rec → Reply) :
    Decides (asReply f out) same (f stored) db refusal := by
  refine ⟨fun hs => ?_, fun hs => ?_⟩
  · rw [h.replays hs]
    exact asReply_mk f stored db
  · obtain ⟨m, hm⟩ := h.refuses hs
    rw [hm]
    exact ⟨m, rfl⟩

/-- What is decided is no exception of another kind. -/
theorem Decides.not_error {c : ErrorClass} (h : Decides out same stored db c.exc) {e : Exc}
    (he : e.isCer = false) : out ≠ .error e := by
  rintro rfl
  by_cases hs : same
  · cases h.replays hs
  · obtain ⟨m, hm⟩ := h.refuses hs
    rw [Except.error.inj hm, ErrorClass.isCer_exc] at he
    cases he

theorem pathsAgree_iff {idPath keyPath : Except Exc (Rec × Database)} {idSame keySame : Prop}
    (hid : Decides idPath idSame stored db immutability)
    (hkey : Decides keyPath keySame stored db idempotencyConflict) :
    PathsAgree idPath keyPath same stored db ↔ (idSame ↔ same) ∧ (keySame ↔ same) :=
  ⟨fun h => ⟨hid.iff h.byId, hkey.iff h.byKey⟩, fun h => ⟨hid.congr h.1, hkey.congr h.2⟩⟩

end decides

section submission
variable {Row Rec I : Type} {s : Submission Row Rec} {db : Database} {r : Row} {rec : Rec}

/-- The key path decides by the fingerprints. -/
theorem Submission.decides_key (hk : s.byKey db = some r) (hr : s.replay r = .ok rec) :
    Decides (s.run db) (s.fpOf r = some s.fp) rec db idempotencyConflict :=
  ⟨fun h => Submission.run_replay hk h hr, fun h => ⟨s.conflict, Submission.run_conflict hk h⟩⟩

/-- The identity path decides by the comparison made there. -/
theorem Submission.decides_id {same : Prop} (hk : s.byKey db = none) (hi : s.byId db = some r)
    (hsame : same → s.existing r = .ok rec) (hother : ¬ same → ∃ m, s.existing r = .error (immutability m)) :
    Decides (s.run db) same rec db immutability := by
  have hrun : s.run db = (s.existing r).map fun rec => (rec, db) := by
    unfold Submission.run
    rw [hk, hi]
  constructor
  · intro h
    rw [hrun, hsame h]
    rfl
  · intro h
    obtain ⟨m, hm⟩ := hother h
    refine ⟨m, ?_⟩
    rw [hrun, hm]
    rfl

end submission

/-! ## Experiments -/

section paths
variable {env : Env} {db : Database}

/-- An experiment's paths agree: both compare the one fingerprint. -/
theorem WellFormed.experiment_paths (h : WellFormed env db) {x s : Experiment} {kr : String} {k : Option String}
    (hx : x.Valid) (stored : x.toRow env (some kr) ∈ db.experiments) (hp : s.producer = x.producer)
    (free : db.KeyFree .experiments s.producer k)
    (hcol : env.NoCollision (canonical env x.dump experimentFpExclude)
      (canonical env s.dump experimentFpExclude)) :
    PathsAgree (createExperiment env db { s with experimentId := x.experimentId } k)
      (createExperiment env db s (some kr)) (SameFields experimentFpExclude x.dump s.dump) x db := by
  have hread := rowToExperiment_toRow env hx (some kr)
  have hfp : x.fp env = s.fp env ↔ SameFields experimentFpExclude x.dump s.dump :=
    fingerprint_eq_iff x.nodupKeys_dump s.nodupKeys_dump (x.dump_keys s) hcol
  constructor
  · -- the identity is no part of the fingerprint
    have hfp' : Experiment.fp env { s with experimentId := x.experimentId } = s.fp env := rfl
    refine (Submission.decides_id (s := experimentSubmission env { s with experimentId := x.experimentId } k)
      (r := x.toRow env (some kr)) (Submission.byKey_unused ?_) ?_ ?_ ?_).congr hfp
    · exact keyFree_rows (f := KeyedRow.experiment) (fun _ => rfl) free
    · exact h.experiments.distinct.find_ident stored fun _ => beq_iff_eq
    · intro hsame
      exact compare_same hread (fun y => y.fp env ≠ _) _ (not_not_intro (hsame.trans hfp'.symm))
    · intro hother
      exact ⟨_, compare_differs hread (fun y => y.fp env ≠ _) _ fun he => hother (he.trans hfp')⟩
  · have hkey : (x.toRow env (some kr)).key = some (s.producer, kr) := by
      rw [hp]
      rfl
    refine (Submission.decides_key (s := experimentSubmission env s (some kr))
      (h.experiments.distinct.find_key stored hkey) hread).congr ?_
    show some (x.fp env) = some (s.fp env) ↔ _
    rw [Option.some.injEq, hfp]

/-! ## Promotions -/

theorem collapse_strList (vs : List String) : collapse (strList vs) = strList vs := by
  unfold strList
  rw [collapse]
  induction vs with
  | nil => rfl
  | cons v vs ih =>
    rw [Json.arr.injEq] at ih ⊢
    rw [List.map_cons, collapseList, ih, collapse]

/-- Every field of a promotion is a text or a list of texts: `==` is equality of JSON values. -/
theorem PromotionTransition.plain (t : PromotionTransition) :
    ∀ kv ∈ t.dump, Py.norm kv.2 = kv.2 ∧ sortKeys kv.2 = kv.2 := by
  simp [PromotionTransition.dump, collapse_strList, sortKeys_strList, Py.norm, sortKeys, collapse]

theorem map_lookup_of_fixed {d : List (String × Json)} {f : Json → Json} (h : ∀ kv ∈ d, f kv.2 = kv.2)
    (k : String) :
    (d.lookup k).map f = d.lookup k := by
  have hmap : d.map (fun kv => (kv.1, f kv.2)) = d := by
    conv_rhs => rw [← List.map_id d]
    exact List.map_congr_left fun kv hkv => by rw [h kv hkv, id]
  rw [← lookup_map_snd, hmap]

theorem lookup_cons_ne {β : Type} {l : List (String × β)} {k a : String} {v : β} (h : k ≠ a) :
    ((a, v) :: l).lookup k = l.lookup k := by
  have hb : (k == a) = false := by simpa using h
  rw [List.lookup_cons, hb]

theorem PromotionTransition.lookup_setId (t : PromotionTransition) (i : String) {k : String}
    (hk : k ≠ "transition_id") :
    ({ t with transitionId := i } : PromotionTransition).dump.lookup k = t.dump.lookup k :=
  (lookup_cons_ne hk).trans (lookup_cons_ne hk).symm

/-- The whole dumps are `==` where the content is and the time is. -/
theorem PromotionTransition.pyEq_iff (x s : PromotionTransition) :
    pyEq true (.obj x.dump) (.obj ({ s with transitionId := x.transitionId } : PromotionTransition).dump) = true ↔
      SameFields promotionFpExclude x.dump s.dump ∧ s.atUtc = x.atUtc := by
  have hfix : ∀ (t : PromotionTransition) k, (t.dump.lookup k).map Py.norm = t.dump.lookup k ∧
      (t.dump.lookup k).map sortKeys = t.dump.lookup k := fun t k =>
    ⟨map_lookup_of_fixed (fun kv hkv => (t.plain kv hkv).1) k,
      map_lookup_of_fixed (fun kv hkv => (t.plain kv hkv).2) k⟩
  rw [pyEq_obj_iff x.dump_nodup (x.dump_keys _)]
  constructor
  · rintro ⟨h, _⟩
    refine ⟨fun k hk => ?_, ?_⟩
    · have hk' : k ≠ "transition_id" := fun he => hk (he ▸ List.mem_cons_self)
      have hl := h k List.not_mem_nil
      rw [(hfix _ k).1, (hfix _ k).1, s.lookup_setId _ hk'] at hl
      rw [(hfix _ k).2, (hfix _ k).2, hl]
    · have hl := h "at_utc" List.not_mem_nil
      have ht : some (Json.str (jsonText x.atUtc)) = some (Json.str (jsonText s.atUtc)) := hl
      exact (jsonText_inj (Json.str.inj (Option.some.inj ht))).symm
  · rintro ⟨h, ht⟩
    refine ⟨fun k _ => ?_, Or.inl rfl⟩
    by_cases hid : k = "transition_id"
    · rw [hid]
      rfl
    · rw [s.lookup_setId _ hid]
      by_cases hat : k = "at_utc"
      · rw [hat]
        show some (Py.norm (.str (jsonText x.atUtc))) = some (Py.norm (.str (jsonText s.atUtc)))
        rw [ht]
      · have hl := h k (by simp [promotionFpExclude, hid, hat])
        rw [(hfix _ k).2, (hfix _ k).2] at hl
        rw [hl]

section promotion
variable {x s : PromotionTransition} {kr : String} {k : Option String}

/-- A promotion's identity path compares the time as well. -/
theorem WellFormed.promotion_byId (h : WellFormed env db) (hx : x.Valid)
    (stored : x.toRow env (some kr) ∈ db.promotions) (free : db.KeyFree .promotions s.producer k) :
    Decides (recordPromotion env db { s with transitionId := x.transitionId } k)
      (SameFields promotionFpExclude x.dump s.dump ∧ s.atUtc = x.atUtc) x db immutability := by
  have hread := rowToPromotion_toRow env hx (some kr)
  refine (Submission.decides_id (s := promotionSubmission env { s with transitionId := x.transitionId } k)
    (r := x.toRow env (some kr)) (Submission.byKey_unused ?_) ?_ ?_ ?_).congr (x.pyEq_iff s)
  · exact keyFree_rows (f := KeyedRow.promotion) (fun _ => rfl) free
  · exact h.promotions.distinct.find_ident stored fun _ => beq_iff_eq
  · intro hsame
    exact compare_same hread (fun y => (!pyEq true (.obj y.dump) (.obj _)) = true) _ (by simp [hsame])
  · intro hother
    exact ⟨_, compare_differs hread (fun y => (!pyEq true (.obj y.dump) (.obj _)) = true) _
      (by simpa using hother)⟩

theorem WellFormed.promotion_byKey (h : WellFormed env db) (hx : x.Valid)
    (stored : x.toRow env (some kr) ∈ db.promotions) (hp : s.producer = x.producer)
    (hcol : env.NoCollision (canonical env x.dump promotionFpExclude) (canonical env s.dump promotionFpExclude)) :
    Decides (recordPromotion env db s (some kr)) (SameFields promotionFpExclude x.dump s.dump) x db
      idempotencyConflict := by
  have hkeyOf : (x.toRow env (some kr)).key = some (s.producer, kr) := by
    rw [hp]
    rfl
  refine (Submission.decides_key (s := promotionSubmission env s (some kr))
    (h.promotions.distinct.find_key stored hkeyOf) (rowToPromotion_toRow env hx (some kr))).congr ?_
  show some (x.fp env) = some (s.fp env) ↔ _
  rw [Option.some.injEq]
  exact fingerprint_eq_iff x.nodupKeys_dump s.nodupKeys_dump (x.dump_keys s) hcol

end promotion

/-! ## Health records -/

/-- The fields that hold numbers, or mappings that may. -/
def numberFields : List String :=
  realFields.map Prod.fst ++ ["regime_distribution", "strategy_chain_strength_distribution", "baseline_comparison"]

/-- The other fields of a health record. -/
def StrategyHealthRecord.texts (h : StrategyHealthRecord) : List (String × Json) :=
  [("health_id", .str h.healthId), ("strategy_id", .str h.strategyId),
    ("strategy_version", .str h.strategyVersion),
   ("health_state", .str h.healthState.value), ("observed_at_utc", .str (jsonText h.observedAtUtc)),
   ("producer", .str h.producer), ("reason", .str h.reason), ("evidence_ids", strList h.evidenceIds)]

theorem StrategyHealthRecord.lookup_texts (h : StrategyHealthRecord) {k : String} (hk : k ∉ numberFields) :
    h.values.lookup k = h.texts.lookup k := by
  have hb : ∀ n ∈ numberFields, (k == n) = false := fun n hn => beq_eq_false_iff_ne.2 fun he => hk (he ▸ hn)
  simp only [numberFields, realFields, List.map_cons, List.map_nil, List.cons_append, List.nil_append,
    List.forall_mem_cons] at hb
  simp only [StrategyHealthRecord.values, StrategyHealthRecord.texts, List.lookup_cons, hb]

theorem StrategyHealthRecord.texts_plain (h : StrategyHealthRecord) :
    ∀ kv ∈ h.texts, Py.norm kv.2 = kv.2 ∧ sortKeys kv.2 = kv.2 := by
  simp [StrategyHealthRecord.texts, collapse_strList, sortKeys_strList, Py.norm, sortKeys, collapse]

/-- A NaN in one of the two mappings of floats. -/
def StrategyHealthRecord.HasNaNMapping (h : StrategyHealthRecord) : Prop :=
  hasNaN (optFloatDict h.regimeDistribution) = true ∨
  hasNaN (optFloatDict h.strategyChainStrengthDistribution) = true

theorem hasNaN_strList (vs : List String) : hasNaN (strList vs) = false := by
  unfold strList
  rw [hasNaN]
  induction vs with
  | nil => rfl
  | cons v vs ih =>
    rw [List.map_cons, hasNaNList, ih]
    rfl

theorem hasNaN_optFloat (f : Option PyFloat) : hasNaN (optFloat f) = true ↔ f = some .nan := by
  cases f with
  | none => simp [optFloat, hasNaN]
  | some f => cases f <;> simp [optFloat, hasNaN]

theorem hasNaN_jsonDict (d : Option (List (String × Json))) :
    hasNaN (optDict (d.map nullNonFiniteFields)) = false := by
  cases d with
  | none => rfl
  | some kvs => exact hasNaN_of_isFinite (isFinite_nullNonFinite (.obj kvs))

/-- The NaNs of a dump are those of the REAL fields and of the two mappings. -/
theorem StrategyHealthRecord.hasNaN_dump (h : StrategyHealthRecord) :
    hasNaN (.obj h.dump) = true ↔ h.HasNaNReal ∨ h.HasNaNMapping := by
  have hreal : h.HasNaNReal ↔ ∃ f ∈ realFields, hasNaN (optFloat (f.2 h)) = true := by
    simp only [hasNaN_optFloat]
    rfl
  rw [hreal]
  simp only [StrategyHealthRecord.HasNaNMapping, realFields, StrategyHealthRecord.dump,
    StrategyHealthRecord.values,
    StrategyHealthRecord.jsonMode, hasNaN, hasNaNFields, hasNaN_strList, hasNaN_jsonDict, List.exists_mem_cons_iff,
    List.not_mem_nil, false_and, exists_false, Bool.or_eq_true, Bool.false_eq_true, false_or, or_false]
  tauto

theorem StrategyHealthRecord.lookup_setId (h : StrategyHealthRecord) (i : String) {k : String}
    (hk : k ≠ "health_id") :
    ({ h with healthId := i } : StrategyHealthRecord).dump.lookup k = h.dump.lookup k :=
  (lookup_cons_ne hk).trans (lookup_cons_ne hk).symm

theorem StrategyHealthRecord.hasNaN_setId (h : StrategyHealthRecord) (i : String) :
    hasNaN (.obj ({ h with healthId := i } : StrategyHealthRecord).dump) = hasNaN (.obj h.dump) := by
  simp only [StrategyHealthRecord.dump, StrategyHealthRecord.values, StrategyHealthRecord.jsonMode,
    hasNaN, hasNaNFields]

/-- The record has the content of `x`: the same value in every field outside the exclusion set. -/
def StrategyHealthRecord.SameContent (x s : StrategyHealthRecord) : Prop :=
  SameFields healthFpExclude x.values s.values

/-- The numbers of the two records are the same, kind and sign of zero included. -/
structure StrategyHealthRecord.SameNumbers (x s : StrategyHealthRecord) : Prop where
  reals : ∀ f ∈ realFields, f.2 x = f.2 s
  regimes : sortKeys (optFloatDict x.regimeDistribution) = sortKeys (optFloatDict s.regimeDistribution)
  strengths : sortKeys (optFloatDict x.strategyChainStrengthDistribution) =
    sortKeys (optFloatDict s.strategyChainStrengthDistribution)
  baseline : sortKeys (optDict x.baselineComparison) = sortKeys (optDict s.baselineComparison)

/-- The two records agree on every field without numbers but the identity. -/
def StrategyHealthRecord.SameTexts (x s : StrategyHealthRecord) : Prop :=
  SameFields ("health_id" :: numberFields) x.values s.values

/-- The numbers that SQLite and the dump keep of `x` are equal, as Python compares numbers, to those of the record:
`1` is to `1.0`, and `0.0` to `-0.0`. -/
structure StrategyHealthRecord.EqualNumbers (x s : StrategyHealthRecord) : Prop where
  reals : ∀ f ∈ realFields, Py.norm (optFloat (Sql.bindReal (f.2 x))) = Py.norm (optFloat (f.2 s))
  regimes : Py.norm (optFloatDict x.regimeDistribution) = Py.norm (optFloatDict s.regimeDistribution)
  strengths : Py.norm (optFloatDict x.strategyChainStrengthDistribution) =
    Py.norm (optFloatDict s.strategyChainStrengthDistribution)
  baseline : Py.norm (nullNonFinite (optDict x.baselineComparison)) =
    Py.norm (nullNonFinite (optDict s.baselineComparison))

/-- Python's `==` takes the record for the stored one. -/
structure StrategyHealthRecord.Equals (x s : StrategyHealthRecord) (sharedNaN : Bool) : Prop where
  texts : x.SameTexts s
  numbers : x.EqualNumbers s
  nans : sharedNaN = true ∨ ¬ s.HasNaNMapping

section content
variable {x s : StrategyHealthRecord} {n : Bool}

theorem optFloat_inj {f g : Option PyFloat} (h : sortKeys (optFloat f) = sortKeys (optFloat g)) : f = g := by
  cases f with
  | none =>
    cases g with
    | none => rfl
    | some g => cases h
  | some f =>
    cases g with
    | none => cases h
    | some g =>
      have h' : Json.float f = Json.float g := h
      rw [Json.float.inj h']

theorem StrategyHealthRecord.SameContent.numbers (h : x.SameContent s) : x.SameNumbers s where
  reals f hf := by
    obtain ⟨hk, hlook, _⟩ := realField_spec hf
    have hl := h f.1 hk
    rw [hlook, hlook] at hl
    exact optFloat_inj (Option.some.inj hl)
  regimes := Option.some.inj (h "regime_distribution" (by decide))
  strengths := Option.some.inj (h "strategy_chain_strength_distribution" (by decide))
  baseline := Option.some.inj (h "baseline_comparison" (by decide))

theorem optDict_jsonDict (d : Option (List (String × Json))) :
    optDict (d.map nullNonFiniteFields) = nullNonFinite (optDict d) := by
  cases d <;> rfl

theorem sortKeys_jsonDict {d d' : Option (List (String × Json))}
    (h : sortKeys (optDict d) = sortKeys (optDict d')) :
    sortKeys (optDict (d.map nullNonFiniteFields)) = sortKeys (optDict (d'.map nullNonFiniteFields)) := by
  rw [optDict_jsonDict, optDict_jsonDict, sortKeys_nullNonFinite, sortKeys_nullNonFinite, h]

/-- Records of one content have one dump. -/
theorem StrategyHealthRecord.SameContent.dump (h : x.SameContent s) :
    SameFields healthFpExclude x.dump s.dump := by
  intro k hk
  by_cases hb : k = "baseline_comparison"
  · rw [hb]
    exact congrArg some (sortKeys_jsonDict h.numbers.baseline)
  · rw [x.lookup_dump hb, s.lookup_dump hb]
    exact h k hk

/-- Records of one dump have one content where their baselines are the same. -/
theorem StrategyHealthRecord.sameContent_of_dump (h : SameFields healthFpExclude x.dump s.dump)
    (hb : sortKeys (optDict x.baselineComparison) = sortKeys (optDict s.baselineComparison)) :
    x.SameContent s := by
  intro k hk
  by_cases he : k = "baseline_comparison"
  · rw [he]
    exact congrArg some hb
  · rw [← x.lookup_dump he, ← s.lookup_dump he]
    exact h k hk

/-- Off the numbers, `norm` and `sortKeys` change nothing. -/
theorem StrategyHealthRecord.lookup_plain (h : StrategyHealthRecord) {k : String} (hk : k ∉ numberFields) :
    (h.dump.lookup k).map Py.norm = h.values.lookup k ∧ (h.values.lookup k).map sortKeys = h.values.lookup k := by
  have hdump : h.dump.lookup k = h.texts.lookup k := h.jsonMode.lookup_texts hk
  rw [hdump, h.lookup_texts hk]
  exact ⟨map_lookup_of_fixed (fun kv hkv => (h.texts_plain kv hkv).1) k,
    map_lookup_of_fixed (fun kv hkv => (h.texts_plain kv hkv).2) k⟩

theorem StrategyHealthRecord.lookup_real {f : String × (StrategyHealthRecord → Option PyFloat)}
    (hf : f ∈ realFields)
    (h : StrategyHealthRecord) : h.dump.lookup f.1 = some (optFloat (f.2 h)) := by
  obtain ⟨_, hlook, hjson, _⟩ := realField_spec hf
  rw [← hjson h]
  exact hlook h.jsonMode

/-- The identity path compares the fields without numbers, and the numbers. -/
theorem StrategyHealthRecord.dumps_agree_iff :
    FieldsAgree ["health_id"] x.realsKept.dump s.dump ↔ x.SameTexts s ∧ x.EqualNumbers s := by
  constructor
  · intro h
    have hl : ∀ k, k ≠ "health_id" → (x.realsKept.dump.lookup k).map Py.norm = (s.dump.lookup k).map Py.norm :=
      fun k hk => h k fun he => hk (List.mem_singleton.1 he)
    refine ⟨fun k hk => ?_, fun f hf => ?_, Option.some.inj (hl "regime_distribution" (by decide)),
      Option.some.inj (hl "strategy_chain_strength_distribution" (by decide)), ?_⟩
    · obtain ⟨hid, hnum⟩ := not_or.1 (mt List.mem_cons.2 hk)
      have hk' := hl k hid
      rw [(x.realsKept.lookup_plain hnum).1, (s.lookup_plain hnum).1] at hk'
      rw [(x.lookup_plain hnum).2, (s.lookup_plain hnum).2, ← hk', x.realsKept.lookup_texts hnum,
        x.lookup_texts hnum]
      rfl
    · have hid : f.1 ≠ "health_id" := fun he => (realField_spec hf).1 (by simp [healthFpExclude, he])
      have hf' := hl f.1 hid
      rw [StrategyHealthRecord.lookup_real hf, StrategyHealthRecord.lookup_real hf, realField_kept hf] at hf'
      exact Option.some.inj hf'
    · rw [← optDict_jsonDict, ← optDict_jsonDict]
      exact Option.some.inj (hl "baseline_comparison" (by decide))
  · rintro ⟨htexts, hn⟩ k hk
    by_cases hnum : k ∈ numberFields
    · rcases List.mem_append.1 hnum with hreal | hrest
      · obtain ⟨f, hf, rfl⟩ := List.mem_map.1 hreal
        rw [StrategyHealthRecord.lookup_real hf, StrategyHealthRecord.lookup_real hf, realField_kept hf]
        exact congrArg some (hn.reals f hf)
      · simp only [List.mem_cons, List.not_mem_nil, or_false] at hrest
        rcases hrest with rfl | rfl | rfl
        · exact congrArg some hn.regimes
        · exact congrArg some hn.strengths
        · have hb := hn.baseline
          rw [← optDict_jsonDict, ← optDict_jsonDict] at hb
          exact congrArg some hb
    · have hl := htexts k (mt List.mem_cons.1 (not_or.2 ⟨fun he => hk (List.mem_singleton.2 he), hnum⟩))
      rw [(x.lookup_plain hnum).2, (s.lookup_plain hnum).2] at hl
      rw [(x.realsKept.lookup_plain hnum).1, (s.lookup_plain hnum).1, ← hl, x.realsKept.lookup_texts hnum,
        x.lookup_texts hnum]
      rfl

/-- Numbers of which SQLite keeps each are equal to themselves. -/
theorem StrategyHealthRecord.SameNumbers.equal (h : x.SameNumbers s) (hx : ¬ x.HasNaNReal) : x.EqualNumbers s where
  reals f hf := by
    rw [← realField_kept hf, StrategyHealthRecord.realsKept_eq hx, h.reals f hf]
  regimes := congrArg collapse h.regimes
  strengths := congrArg collapse h.strengths
  baseline := by
    unfold Py.norm
    rw [sortKeys_nullNonFinite, sortKeys_nullNonFinite, h.baseline]

/-- What `==` takes for the stored record is its content where the numbers are its numbers. -/
theorem StrategyHealthRecord.Equals.sameContent (h : x.Equals s n) (hn : x.SameNumbers s) : x.SameContent s := by
  intro k hk
  by_cases hnum : k ∈ numberFields
  · rcases List.mem_append.1 hnum with hreal | hrest
    · obtain ⟨f, hf, rfl⟩ := List.mem_map.1 hreal
      rw [(realField_spec hf).2.1, (realField_spec hf).2.1, hn.reals f hf]
    · simp only [List.mem_cons, List.not_mem_nil, or_false] at hrest
      rcases hrest with rfl | rfl | rfl
      · exact congrArg some hn.regimes
      · exact congrArg some hn.strengths
      · exact congrArg some hn.baseline
  · refine h.texts k (mt List.mem_cons.1 (not_or.2 ⟨fun he => hk ?_, hnum⟩))
    rw [he]
    exact List.mem_cons_self

theorem StrategyHealthRecord.EqualNumbers.not_hasNaNReal (h : x.EqualNumbers s) : ¬ s.HasNaNReal := by
  rintro ⟨f, hf, hs⟩
  have hl := h.reals f hf
  rw [hs] at hl
  exact norm_optFloat_bindReal_ne _ hl

/-- A resubmission of the stored content is `==` to the stored record just when it has the stored time, no NaN in a
REAL field, and no NaN in a mapping but the one object that `json.loads` has. -/
theorem StrategyHealthRecord.SameContent.equals_iff (h : x.SameContent s) : x.Equals s n ↔
    s.observedAtUtc = x.observedAtUtc ∧ ¬ s.HasNaNReal ∧ (n = true ∨ ¬ s.HasNaNMapping) := by
  constructor
  · intro he
    refine ⟨?_, he.numbers.not_hasNaNReal, he.nans⟩
    have hl : some (Json.str (jsonText x.observedAtUtc)) = some (.str (jsonText s.observedAtUtc)) :=
      he.texts "observed_at_utc" (by decide)
    exact (jsonText_inj (Json.str.inj (Option.some.inj hl))).symm
  · rintro ⟨ht, hreal, hnans⟩
    have hx : ¬ x.HasNaNReal := by
      rintro ⟨f, hf, hnan⟩
      exact hreal ⟨f, hf, (h.numbers.reals f hf).symm.trans hnan⟩
    refine ⟨fun k hk => ?_, h.numbers.equal hx, hnans⟩
    by_cases hat : k = "observed_at_utc"
    · rw [hat]
      show some (sortKeys (.str (jsonText x.observedAtUtc))) = some (sortKeys (.str (jsonText s.observedAtUtc)))
      rw [ht]
    · refine h k ?_
      simp only [healthFpExclude, List.mem_cons, List.not_mem_nil, or_false, not_or] at hk ⊢
      exact ⟨hk.1, hat⟩

theorem StrategyHealthRecord.pyEq_iff (x s : StrategyHealthRecord) :
    pyEq n (.obj x.stored.dump) (.obj ({ s with healthId := x.healthId } : StrategyHealthRecord).dump) = true ↔
      x.Equals s n := by
  have hkept : FieldsAgree [] x.stored.dump x.realsKept.dump := by
    have hj := x.jsonMode.fieldsAgree_realsKept []
    rwa [← x.jsonMode_stored] at hj
  have hfields : FieldsAgree [] x.stored.dump ({ s with healthId := x.healthId } : StrategyHealthRecord).dump ↔
      FieldsAgree ["health_id"] x.realsKept.dump s.dump := by
    refine ⟨fun h k hk => ?_, fun h => hkept.trans fun k _ => ?_⟩
    · have hk' : k ≠ "health_id" := fun he => hk (he ▸ List.mem_singleton_self _)
      rw [← s.lookup_setId x.healthId hk', ← h k List.not_mem_nil]
      exact (hkept k List.not_mem_nil).symm
    · by_cases hid : k = "health_id"
      · rw [hid]
        rfl
      · rw [s.lookup_setId _ hid]
        exact h k (by simpa using hid)
  rw [pyEq_obj_iff x.stored.dump_nodup (x.stored.dump_keys _), s.hasNaN_setId, hfields,
    StrategyHealthRecord.dumps_agree_iff]
  constructor
  · rintro ⟨⟨htexts, hnum⟩, hnan⟩
    refine ⟨htexts, hnum, hnan.imp_right fun hb hm => ?_⟩
    rw [s.hasNaN_dump.2 (Or.inr hm)] at hb
    cases hb
  · intro h
    refine ⟨⟨h.texts, h.numbers⟩, h.nans.imp_right fun hm => Bool.eq_false_iff.2 fun hb => ?_⟩
    exact (s.hasNaN_dump.1 hb).elim h.numbers.not_hasNaNReal hm

end content

/-- What a health submission must meet for its two paths to agree. -/
structure StrategyHealthRecord.PathsAgreeOn (x s : StrategyHealthRecord) (sharedNaN : Bool) : Prop where
  /-- Of the stored content, it was observed at the stored time, -/
  time : x.SameContent s → s.observedAtUtc = x.observedAtUtc
  /-- has no NaN in a REAL field, where SQLite keeps none, -/
  reals : x.SameContent s → ¬ s.HasNaNReal
  /-- and no NaN in a mapping other than the object that `json.loads` has. -/
  mappings : x.SameContent s → sharedNaN = true ∨ ¬ s.HasNaNMapping
  /-- Of the stored dump, it has the stored baseline: there a dump has no NaN and no infinity. -/
  baseline : SameFields healthFpExclude x.dump s.dump →
    sortKeys (optDict x.baselineComparison) = sortKeys (optDict s.baselineComparison)
  /-- Equal to the stored record as Python compares numbers, it has the stored numbers. -/
  numbers : x.Equals s sharedNaN → x.SameNumbers s

theorem StrategyHealthRecord.pathsAgreeOn_iff (x s : StrategyHealthRecord) (n : Bool) :
    x.PathsAgreeOn s n ↔
      (x.Equals s n ↔ x.SameContent s) ∧ (SameFields healthFpExclude x.dump s.dump ↔ x.SameContent s) := by
  constructor
  · intro h
    refine ⟨⟨fun he => he.sameContent (h.numbers he), fun hc => ?_⟩,
      fun hd => StrategyHealthRecord.sameContent_of_dump hd (h.baseline hd), fun hc => hc.dump⟩
    exact hc.equals_iff.2 ⟨h.time hc, h.reals hc, h.mappings hc⟩
  · rintro ⟨hid, hkey⟩
    have heq : x.SameContent s → s.observedAtUtc = x.observedAtUtc ∧ ¬ s.HasNaNReal ∧
      (n = true ∨ ¬ s.HasNaNMapping) :=
      fun hc => hc.equals_iff.1 (hid.2 hc)
    exact ⟨fun hc => (heq hc).1, fun hc => (heq hc).2.1, fun hc => (heq hc).2.2,
      fun hd => (hkey.1 hd).numbers.baseline,
      fun he => (hid.1 he).numbers⟩

section health
variable {x s : StrategyHealthRecord} {kr : String} {k : Option String} {n : Bool}

/-- A health record's identity path compares whole dumps as Python does, on what SQLite kept. -/
theorem WellFormed.health_byId (h : WellFormed env db) (hx : x.Valid)
    (stored : x.toRow env (some kr) ∈ db.healthRecords) (free : db.KeyFree .healthRecords s.producer k) :
    Decides (recordHealth env db { s with healthId := x.healthId } k n)
      (x.Equals s n) x.stored db immutability := by
  have hread := rowToHealth_toRow env hx (some kr)
  refine (Submission.decides_id (s := healthSubmission env { s with healthId := x.healthId } k n)
    (r := x.toRow env (some kr)) (Submission.byKey_unused ?_) ?_ ?_ ?_).congr (x.pyEq_iff s)
  · exact keyFree_rows (f := KeyedRow.health) (fun _ => rfl) free
  · exact h.healthRecords.distinct.find_ident stored fun _ => beq_iff_eq
  · intro hsame
    exact compare_same hread (fun y => (!pyEq n (.obj y.dump) (.obj _)) = true) _ (by simp [hsame])
  · intro hother
    exact ⟨_, compare_differs hread (fun y => (!pyEq n (.obj y.dump) (.obj _)) = true) _ (by simpa using hother)⟩

theorem WellFormed.health_byKey (h : WellFormed env db) (hx : x.Valid) (hs : s.Valid)
    (stored : x.toRow env (some kr) ∈ db.healthRecords) (hp : s.producer = x.producer)
    (hcol : env.NoCollision (canonical env x.dump healthFpExclude) (canonical env s.dump healthFpExclude)) :
    Decides (recordHealth env db s (some kr) n) (SameFields healthFpExclude x.dump s.dump) x.stored db
      idempotencyConflict := by
  have hkeyOf : (x.toRow env (some kr)).key = some (s.producer, kr) := by
    rw [hp]
    rfl
  refine (Submission.decides_key (s := healthSubmission env s (some kr) n)
    (h.healthRecords.distinct.find_key stored hkeyOf) (rowToHealth_toRow env hx (some kr))).congr ?_
  show some (x.fp env) = some (s.fp env) ↔ _
  rw [Option.some.injEq]
  exact fingerprint_eq_iff (StrategyHealthRecord.nodupKeys_dump hx) (StrategyHealthRecord.nodupKeys_dump hs)
    (x.dump_keys s) hcol

/-- The two paths as they are called: a submission without a text is taken by neither. -/
theorem health_paths_iff {s' : StrategyHealthRecord} {out₁ out₂ same : Prop}
    (hid : Decides (recordHealth env db s' k n) out₁ x.stored db immutability)
    (hkey : Decides (recordHealth env db s (some kr) n) out₂ x.stored db idempotencyConflict)
    (htext : (Write.recordHealth s' k n).textError env = (Write.recordHealth s (some kr) n).textError env) :
    PathsAgree ((Write.recordHealth s' k n).call env db) ((Write.recordHealth s (some kr) n).call env db) same
        (.health x.stored) db ↔
      ((out₁ ↔ same) ∧ (out₂ ↔ same)) ∧ (Write.recordHealth s (some kr) n).HasText env := by
  by_cases ht : (Write.recordHealth s (some kr) n).HasText env
  · rw [Write.call_of_hasText ht, Write.call_of_hasText (htext.trans ht)]
    exact (pathsAgree_iff (hid.asReply .health) (hkey.asReply .health)).trans (and_iff_left ht).symm
  · refine iff_of_false (fun h => ?_) fun h => ht h.2
    rcases Write.call_of_noText db ht with ⟨⟨e, he, hcer⟩, _⟩ | ⟨_, hrefs⟩
    · exact h.byKey.not_error (c := .idempotencyConflict) hcer he
    · exact hrefs trivial

end health

end paths

/-! ## When the paths agree -/

/-- **The key path and the identity path**: an experiment's always agree.  A promotion's agree unless a
resubmission of the stored content has another time, a health record's where `PathsAgreeOn` holds of a
submission that has a text. -/
theorem replay_paths_agree_iff (env : Env) {db : Database} (reached : Reachable env db) :
    (∀ row ∈ db.experiments, ∀ kr, row.idempotencyKey = some kr →
      ∃ x : Experiment, x.Valid ∧ row = x.toRow env (some kr) ∧
        ∀ (s : Experiment) (k : Option String), s.producer = row.producer → db.KeyFree .experiments s.producer k →
          env.NoCollision (canonical env x.dump experimentFpExclude) (canonical env s.dump experimentFpExclude) →
          PathsAgree (createExperiment env db { s with experimentId := row.experimentId } k)
            (createExperiment env db s (some kr)) (SameFields experimentFpExclude x.dump s.dump) x db) ∧
    (∀ row ∈ db.promotions, ∀ kr, row.idempotencyKey = some kr →
      ∃ x : PromotionTransition, x.Valid ∧ row = x.toRow env (some kr) ∧
        ∀ (s : PromotionTransition) (k : Option String), s.producer = row.producer →
          db.KeyFree .promotions s.producer k →
          env.NoCollision (canonical env x.dump promotionFpExclude) (canonical env s.dump promotionFpExclude) →
          (PathsAgree (recordPromotion env db { s with transitionId := row.transitionId } k)
              (recordPromotion env db s (some kr)) (SameFields promotionFpExclude x.dump s.dump) x db ↔
            (SameFields promotionFpExclude x.dump s.dump → s.atUtc = x.atUtc))) ∧
    (∀ row ∈ db.healthRecords, ∀ kr, row.idempotencyKey = some kr →
      ∃ x : StrategyHealthRecord, x.Valid ∧ row = x.toRow env (some kr) ∧
        ∀ (s : StrategyHealthRecord) (k : Option String) (n : Bool), s.Valid → s.producer = row.producer →
          db.KeyFree .healthRecords s.producer k →
          env.NoCollision (canonical env x.dump healthFpExclude) (canonical env s.dump healthFpExclude) →
          (PathsAgree ((Write.recordHealth { s with healthId := row.healthId } k n).call env db)
              ((Write.recordHealth s (some kr) n).call env db) (x.SameContent s) (.health x.stored) db ↔
            x.PathsAgreeOn s n ∧ (Write.recordHealth s (some kr) n).HasText env)) := by
  have h := reached.wellFormed
  refine ⟨fun row hrow kr hkr => ?_, fun row hrow kr hkr => ?_, fun row hrow kr hkr => ?_⟩
  · obtain ⟨x, k, hx, rfl⟩ := h.experiments.origin row hrow
    obtain rfl : k = some kr := hkr
    exact ⟨x, hx, rfl, fun s k hp free hcol => h.experiment_paths hx hrow hp free hcol⟩
  · obtain ⟨x, k, hx, rfl⟩ := h.promotions.origin row hrow
    obtain rfl : k = some kr := hkr
    refine ⟨x, hx, rfl, fun s k hp free hcol => ?_⟩
    refine Iff.trans (pathsAgree_iff (h.promotion_byId hx hrow free) (h.promotion_byKey hx hrow hp hcol)) ?_
    exact (and_iff_left Iff.rfl).trans and_iff_left_iff_imp
  · obtain ⟨x, k, hx, rfl⟩ := h.healthRecords.origin row hrow
    obtain rfl : k = some kr := hkr
    refine ⟨x, hx, rfl, fun s k n hs hp free hcol => ?_⟩
    refine Iff.trans (health_paths_iff (h.health_byId hx hrow free) (h.health_byKey hx hs hrow hp hcol) rfl) ?_
    exact and_congr_left' (x.pathsAgreeOn_iff s n).symm
/-! ## Promotions recorded twice -/

def samplePromotion : PromotionTransition :=
  { transitionId := "promo_01", strategyId := "strat_01", strategyVersion := "1.0.0", fromState := .backtested
    toState := .validated, atUtc := sampleTime, authority := "board", producer := "hsa", evidenceIds := ["ev_01"]
    reason := "walk-forward holds" }

theorem samplePromotion_valid : samplePromotion.Valid := by
  unfold PromotionTransition.Valid
  decide +kernel

theorem laterTime_inRange : (1 ≤ 2026 ∧ 2026 ≤ 9999) ∧ (1 ≤ 9 ∧ 9 ≤ 12) ∧ (1 ≤ 4 ∧ 4 ≤ daysInMonth 2026 9) ∧
    12 < 24 ∧ 0 < 60 ∧ 5 < 60 ∧ 0 < 1000000 := by
  decide

/-- The same promotion, submitted five seconds later. -/
def samplePromotionLater : PromotionTransition :=
  { samplePromotion with atUtc := ⟨2026, 9, 4, 12, 0, 5, 0, laterTime_inRange⟩ }

/-- The sample promotion recorded under the key `k`. -/
def samplePromoted : Database :=
  { Database.empty with promotions := [samplePromotion.toRow .reference (some "k")] }

theorem samplePromoted_record : (Write.recordPromotion samplePromotion (some "k")).run .reference .empty =
    .ok (.promotion samplePromotion, samplePromoted) := rfl

theorem samplePromoted_reachable : Reachable .reference samplePromoted :=
  .commit (w := .recordPromotion samplePromotion (some "k")) (.refl _) samplePromotion_valid samplePromoted_record

/-- The time is no part of a promotion's content. -/
theorem PromotionTransition.payload_setTime (t : PromotionTransition) (at_ : DateTime) :
    payload ({ t with atUtc := at_ } : PromotionTransition).dump promotionFpExclude =
      payload t.dump promotionFpExclude := by
  simp [payload, PromotionTransition.dump, promotionFpExclude]

theorem samplePromotion_canonical : canonical .reference samplePromotion.dump promotionFpExclude =
    canonical .reference samplePromotionLater.dump promotionFpExclude :=
  congrArg (fun p => Py.dumps Env.reference.floats (.obj p)) (samplePromotion.payload_setTime _).symm

/-- A stored promotion and its resubmission with the stored time: both paths replay it. -/
theorem samplePromoted_paths_agree : ∃ x : PromotionTransition, x.Valid ∧
    PathsAgree (recordPromotion .reference samplePromoted { samplePromotion with transitionId := "promo_01" } none)
      (recordPromotion .reference samplePromoted samplePromotion (some "k"))
      (SameFields promotionFpExclude x.dump samplePromotion.dump) x samplePromoted := by
  obtain ⟨x, hx, hrow, h⟩ := (replay_paths_agree_iff .reference samplePromoted_reachable).2.1
    (samplePromotion.toRow .reference (some "k")) (List.mem_singleton_self _) "k" rfl
  have hxe : x = samplePromotion := by
    have hread := rowToPromotion_toRow .reference hx (some "k")
    rw [← hrow, rowToPromotion_toRow .reference samplePromotion_valid] at hread
    exact (Except.ok.inj hread).symm
  subst hxe
  refine ⟨_, hx, (h samplePromotion none rfl (fun _ hk => by cases hk) fun _ => rfl).2 fun _ => rfl⟩

/-- A stored promotion resubmitted with a later time: a replay under its key, refused under its identity. -/
theorem promotion_paths_disagree : Reachable .reference samplePromoted ∧
    SameFields promotionFpExclude samplePromotion.dump samplePromotionLater.dump ∧
    recordPromotion .reference samplePromoted samplePromotionLater (some "k") =
      .ok (samplePromotion, samplePromoted) ∧
    ∃ m, recordPromotion .reference samplePromoted
      { samplePromotionLater with transitionId := samplePromotion.transitionId } none =
        .error (immutability m) := by
  have hmem : samplePromotion.toRow .reference (some "k") ∈ samplePromoted.promotions := List.mem_singleton_self _
  have hwf := samplePromoted_reachable.wellFormed
  have hsame := (canonical_eq_iff .reference samplePromotion.nodupKeys_dump samplePromotionLater.nodupKeys_dump
    (samplePromotion.dump_keys _)).1 samplePromotion_canonical
  refine ⟨samplePromoted_reachable, hsame, ?_, ?_⟩
  · have hcol : Env.reference.NoCollision (canonical .reference samplePromotion.dump promotionFpExclude)
        (canonical .reference samplePromotionLater.dump promotionFpExclude) := fun _ => samplePromotion_canonical
    have hkey := hwf.promotion_byKey (s := samplePromotionLater) samplePromotion_valid hmem rfl hcol
    exact hkey.replays hsame
  · have free : samplePromoted.KeyFree .promotions samplePromotionLater.producer none := fun _ hk => by cases hk
    have hid := hwf.promotion_byId (s := samplePromotionLater) samplePromotion_valid hmem free
    have hne : samplePromotionLater.atUtc ≠ samplePromotion.atUtc := by decide
    exact hid.refuses fun h => hne h.2

end Cer
