import Cer.Api.Routes
import Cer.Contract.Identity

/-!
# The languages of identities

What `validate_id` accepts, kind by kind, as a set of strings; no string belongs to two
generated kinds, and what the two generators mint belongs to its own kind.
-/

namespace Cer

open Py

/-! ## Character classes -/

/-- `[0-9a-fA-F-]`. -/
def IsToken (c : Char) : Prop := ('0' ≤ c ∧ c ≤ '9') ∨ ('a' ≤ c ∧ c ≤ 'f') ∨ ('A' ≤ c ∧ c ≤ 'F') ∨ c = '-'

/-- `[A-Za-z0-9]`. -/
def IsLetterOrDigit (c : Char) : Prop := ('A' ≤ c ∧ c ≤ 'Z') ∨ ('a' ≤ c ∧ c ≤ 'z') ∨ ('0' ≤ c ∧ c ≤ '9')

/-- `[A-Za-z0-9._-]`. -/
def IsLogical (c : Char) : Prop := IsLetterOrDigit c ∨ c = '.' ∨ c = '_' ∨ c = '-'

theorem le_iff_toNat {c d : Char} : c ≤ d ↔ c.toNat ≤ d.toNat := Iff.rfl

theorem isTokenChar_iff (c : Char) : isTokenChar c = true ↔ IsToken c := by
  have h0 : ('0' : Char).toNat = 48 := rfl
  have h9 : ('9' : Char).toNat = 57 := rfl
  have ha : ('a' : Char).toNat = 97 := rfl
  have hf : ('f' : Char).toNat = 102 := rfl
  have hA : ('A' : Char).toNat = 65 := rfl
  have hF : ('F' : Char).toNat = 70 := rfl
  unfold isTokenChar IsToken hexVal
  simp only [le_iff_toNat, h0, h9, ha, hf, hA, hF, Bool.or_eq_true, beq_iff_eq]
  constructor
  · rintro (h | h)
    · split at h
      · next h1 => exact Or.inl h1
      · split at h
        · next h2 => exact Or.inr (Or.inl h2)
        · split at h
          · next h3 => exact Or.inr (Or.inr (Or.inl h3))
          · cases h
    · exact Or.inr (Or.inr (Or.inr h))
  · rintro (h | h | h | h)
    · simp [h]
    · have h1 : ¬ (48 ≤ c.toNat ∧ c.toNat ≤ 57) := by omega
      simp [h1, h]
    · have h1 : ¬ (48 ≤ c.toNat ∧ c.toNat ≤ 57) := by omega
      have h2 : ¬ (97 ≤ c.toNat ∧ c.toNat ≤ 102) := by omega
      simp [h1, h2, h]
    · exact Or.inr h

theorem isAlphanum_iff (c : Char) : c.isAlphanum = true ↔ IsLetterOrDigit c := by
  unfold Char.isAlphanum Char.isAlpha Char.isUpper Char.isLower Char.isDigit IsLetterOrDigit
  simp only [Bool.or_eq_true, Bool.and_eq_true, decide_eq_true_eq, ge_iff_le, or_assoc]
  exact Iff.rfl

theorem isLogicalChar_iff (c : Char) : isLogicalChar c = true ↔ IsLogical c := by
  unfold isLogicalChar IsLogical
  simp only [Bool.or_eq_true, isAlphanum_iff, beq_iff_eq, or_assoc]

theorem not_isSpace_of_isLogical {c : Char} (h : IsLogical c) : isSpace c = false := by
  have hA : ('A' : Char).toNat = 65 := rfl
  have hZ : ('Z' : Char).toNat = 90 := rfl
  have ha : ('a' : Char).toNat = 97 := rfl
  have hz : ('z' : Char).toNat = 122 := rfl
  have h0 : ('0' : Char).toNat = 48 := rfl
  have h9 : ('9' : Char).toNat = 57 := rfl
  unfold IsLogical IsLetterOrDigit at h
  simp only [le_iff_toNat, hA, hZ, ha, hz, h0, h9] at h
  rcases h with h | rfl | rfl | rfl
  · unfold isSpace
    simp only [Bool.or_eq_false_iff, Bool.and_eq_false_iff, decide_eq_false_iff_not, beq_eq_false_iff_ne]
    omega
  · decide
  · decide
  · decide

/-! ## Languages -/

/-- At most 128 characters: the prefix, and one or more of `[0-9a-fA-F-]`. -/
def GeneratedLanguage (idPrefix s : String) : Prop :=
  s.length ≤ 128 ∧ ∃ t, s = idPrefix ++ t ∧ t ≠ "" ∧ ∀ c ∈ t.toList, IsToken c

/-- At most 128 characters: `[A-Za-z0-9][A-Za-z0-9._-]*`. -/
def LogicalLanguage (s : String) : Prop :=
  s.length ≤ 128 ∧ ∃ c l, s.toList = c :: l ∧ IsLetterOrDigit c ∧ ∀ x ∈ l, IsLogical x

/-- The strings of a kind. -/
def IdKind.Language (kind : IdKind) (s : String) : Prop :=
  if kind.generated then GeneratedLanguage kind.idPrefix s else LogicalLanguage s

/-! ## What the validators accept -/

theorem rejectOverLong_ok {kindName value : String} {u : Unit} (h : rejectOverLong kindName value = .ok u) :
    value.length ≤ 128 := by
  unfold rejectOverLong maxIdentifierLength at h
  split at h
  · cases h
  · omega

/-- What passed the checks of a generated kind. -/
theorem validateGeneratedId_ok {kindName value v : String} {kind : IdKind} (hk : kindOf kindName = .ok kind)
    (h : validateGeneratedId kindName value = .ok v) : GeneratedLanguage kind.idPrefix value := by
  unfold validateGeneratedId at h
  rw [hk] at h
  simp only [bind, Except.bind, pure, Except.pure, throw, throwThe, MonadExceptOf.throw] at h
  split at h
  · cases h
  · split at h
    · cases h
    · split at h
      · cases h
      · next hlong =>
        split at h
        · cases h
        · next hprefix =>
          split at h
          · cases h
          · next hsuffix =>
            have hstarts : kind.idPrefix.toList <+: value.toList := by simpa using hprefix
            obtain ⟨t, ht⟩ := hstarts
            rw [← ht, ← String.length_toList, List.drop_left] at hsuffix
            simp only [Bool.or_eq_true, List.isEmpty_iff, Bool.not_eq_true', not_or, Bool.not_eq_false] at hsuffix
            refine ⟨rejectOverLong_ok hlong, String.ofList t, ?_, fun hnil => hsuffix.1 ?_, fun c hc => ?_⟩
            · rw [← String.toList_inj, String.toList_append, String.toList_ofList, ht]
            · rw [← String.toList_eq_nil_iff, String.toList_ofList] at hnil
              exact hnil
            · rw [String.toList_ofList] at hc
              exact (isTokenChar_iff c).1 (List.all_eq_true.1 hsuffix.2 c hc)

/-- A generated kind accepts its language. -/
theorem generatedId_iff {kind : IdKind} (hk : kind ∈ idKinds) (hg : kind.generated = true) (s : String) :
    validateGeneratedId kind.name s = .ok s ↔ GeneratedLanguage kind.idPrefix s := by
  constructor
  · exact validateGeneratedId_ok (kindOf_name hk)
  · rintro ⟨hlen, t, rfl, hne, htoken⟩
    exact validateGeneratedId_append (kindOf_name hk) hg (idPrefix_not_space hk) hne
      (fun c hc => (isTokenChar_iff c).2 (htoken c hc)) hlen

/-- The shape a logical identity is checked for. -/
theorem logicalShape_iff (l : List Char) :
    ((l.head?.map Char.isAlphanum).getD false && l.all isLogicalChar) = true ↔
      ∃ c l', l = c :: l' ∧ IsLetterOrDigit c ∧ ∀ x ∈ l', IsLogical x := by
  cases l with
  | nil => simp
  | cons c l =>
    simp only [List.head?_cons, Option.map_some, Option.getD_some, List.all_cons, Bool.and_eq_true, isAlphanum_iff,
      List.all_eq_true, isLogicalChar_iff]
    constructor
    · rintro ⟨hc, -, hl⟩
      exact ⟨c, l, rfl, hc, hl⟩
    · rintro ⟨c', l', h, hc, hl⟩
      obtain ⟨rfl, rfl⟩ := List.cons.inj h
      exact ⟨hc, Or.inl hc, hl⟩

/-- A logical kind accepts the logical language. -/
theorem logicalId_iff {kind : IdKind} (hk : kind ∈ idKinds) (hg : kind.generated = false) (s : String) :
    validateLogicalId kind.name s = .ok s ↔ LogicalLanguage s := by
  unfold validateLogicalId
  rw [kindOf_name hk]
  simp only [bind, Except.bind, pure, Except.pure, throw, throwThe, MonadExceptOf.throw, hg, Bool.false_eq_true,
    if_false]
  constructor
  · intro h
    split at h
    · cases h
    · split at h
      · cases h
      · next hlong =>
        split at h
        · cases h
        · next hshape => exact ⟨rejectOverLong_ok hlong, (logicalShape_iff s.toList).1 (by simpa using hshape)⟩
  · rintro ⟨hlen, hshape⟩
    have hall := (logicalShape_iff s.toList).2 hshape
    have hspace : ∀ x ∈ s.toList, isSpace x = false := by
      intro x hx
      exact not_isSpace_of_isLogical
        ((isLogicalChar_iff x).1 (List.all_eq_true.1 (Bool.and_eq_true_iff.1 hall).2 x hx))
    have hne : s ≠ "" := by
      rintro rfl
      obtain ⟨c, l, hl, -⟩ := hshape
      cases hl
    have hlong : rejectOverLong kind.name s = .ok () := by
      unfold rejectOverLong maxIdentifierLength
      rw [if_neg (by omega)]
    rw [rejectEmptyOrPadded_of hne hspace, hlong]
    simp [hall]

theorem validateId_name {kind : IdKind} (hk : kind ∈ idKinds) (s : String) :
    validateId kind.name s =
      if kind.generated then validateGeneratedId kind.name s else validateLogicalId kind.name s := by
  unfold validateId
  rw [kindOf_name hk]
  rfl

/-- `validate_id` accepts a string of the kind's language. -/
theorem validateId_of_language {kind : IdKind} (hk : kind ∈ idKinds) {s : String} (h : kind.Language s) :
    validateId kind.name s = .ok s := by
  rw [validateId_name hk]
  unfold IdKind.Language at h
  by_cases hg : kind.generated = true
  · rw [if_pos hg] at h ⊢
    exact (generatedId_iff hk hg s).2 h
  · rw [if_neg hg] at h ⊢
    exact (logicalId_iff hk (by simpa using hg) s).2 h

/-- Every other string raises `IdentityError`. -/
theorem validateId_of_not_language {kind : IdKind} (hk : kind ∈ idKinds) {s : String} (h : ¬ kind.Language s) :
    ∃ m, validateId kind.name s = .error (idError m) := by
  rw [validateId_name hk]
  unfold IdKind.Language at h
  by_cases hg : kind.generated = true
  · rw [if_pos hg] at h ⊢
    cases hv : validateGeneratedId kind.name s with
    | ok v =>
      obtain rfl := validateGeneratedId_eq hv
      exact absurd ((generatedId_iff hk hg v).1 hv) h
    | error e =>
      obtain ⟨m, rfl⟩ := validateGeneratedId_error hv
      exact ⟨m, rfl⟩
  · rw [if_neg hg] at h ⊢
    cases hv : validateLogicalId kind.name s with
    | ok v =>
      obtain rfl := validateLogicalId_eq hv
      exact absurd ((logicalId_iff hk (by simpa using hg) v).1 hv) h
    | error e =>
      obtain ⟨m, rfl⟩ := validateLogicalId_error hv
      exact ⟨m, rfl⟩

/-! ## Disjointness -/

/-- Neither prefix begins with the other, as decided on two lists. -/
def clash (p q : List Char) : Bool := p.isPrefixOf q || q.isPrefixOf p

theorem prefixes_apart {k₁ k₂ : IdKind} (h₁ : k₁ ∈ idKinds) (h₂ : k₂ ∈ idKinds) (hg₁ : k₁.generated = true)
    (hg₂ : k₂.generated = true) (hne : k₁ ≠ k₂) : clash k₁.idPrefix.toList k₂.idPrefix.toList = false := by
  have hall : (idKinds.all fun a => idKinds.all fun b =>
      !a.generated || !b.generated || a == b || !clash a.idPrefix.toList b.idPrefix.toList) = true := by decide
  have h := List.all_eq_true.1 (List.all_eq_true.1 hall k₁ h₁) k₂ h₂
  simpa [hg₁, hg₂, hne] using h

/-- No string belongs to two generated kinds. -/
theorem generated_disjoint {k₁ k₂ : IdKind} (h₁ : k₁ ∈ idKinds) (h₂ : k₂ ∈ idKinds) (hg₁ : k₁.generated = true)
    (hg₂ : k₂.generated = true) (hne : k₁ ≠ k₂) (s : String) : ¬ (k₁.Language s ∧ k₂.Language s) := by
  unfold IdKind.Language
  rw [if_pos hg₁, if_pos hg₂]
  rintro ⟨⟨-, t₁, hs₁, -⟩, -, t₂, hs₂, -⟩
  have hp₁ : k₁.idPrefix.toList <+: s.toList := by
    rw [hs₁, String.toList_append]
    exact List.prefix_append _ _
  have hp₂ : k₂.idPrefix.toList <+: s.toList := by
    rw [hs₂, String.toList_append]
    exact List.prefix_append _ _
  have hclash := prefixes_apart h₁ h₂ hg₁ hg₂ hne
  unfold clash at hclash
  rw [Bool.or_eq_false_iff] at hclash
  rcases List.prefix_or_prefix_of_prefix hp₁ hp₂ with h | h
  · rw [List.isPrefixOf_iff_prefix.2 h] at hclash
    cases hclash.1
  · rw [List.isPrefixOf_iff_prefix.2 h] at hclash
    cases hclash.2

/-! ## Generation -/

theorem language_of_uuid {kind : IdKind} (hk : kind ∈ idKinds) (hg : kind.generated = true) (u : UuidHex) :
    kind.Language (kind.idPrefix ++ u.hex) := by
  unfold IdKind.Language
  rw [if_pos hg]
  exact (generatedId_iff hk hg _).1 (validateGeneratedId_new hk hg u)

/-- `generate_id` mints an identity of the kind, or refuses a kind that is not generated. -/
theorem generateId_language {kind : IdKind} (hk : kind ∈ idKinds) (u : UuidHex) :
    if kind.generated then ∃ i, generateId kind.name u = .ok i ∧ kind.Language i
    else ∃ m, generateId kind.name u = .error (idError m) := by
  unfold generateId
  rw [kindOf_name hk]
  simp only [bind, Except.bind, pure, Except.pure, throw, throwThe, MonadExceptOf.throw]
  by_cases hg : kind.generated = true
  · simp only [hg, if_true]
    exact ⟨_, rfl, language_of_uuid hk hg u⟩
  · simp only [hg]
    exact ⟨_, rfl⟩

/-- The records that the API mints an identity for: the prefix and the word it hands `_generate_id`,
the kind, and the validator of the contract model. -/
inductive Mints : (idPrefix word : String) → IdKind → (String → Except Exc String) → Prop
  | experiment : Mints "exp_" "experiment" ⟨"experiment_id", "exp_", true⟩ validateExperimentId
  | run : Mints "run_" "run" ⟨"run_id", "run_", true⟩ validateRunId
  | evidence : Mints "ev_" "evidence" ⟨"evidence_id", "ev_", true⟩ validateEvidenceId

/-- The API mints a prefix and a UUID, or refuses a key without a producer. -/
theorem generateId_cases (uuid5 : Api.Uuid5) (draw : Api.Draw) (idPrefix word : String)
    (key producer : Option String) :
    (∃ u : UuidHex, Api.generateId uuid5 draw idPrefix word key producer = .ok (idPrefix ++ u.hex)) ∨
      (Api.truthy key ≠ none ∧ ∀ p, producer = some p → isBlank p = true) := by
  unfold Api.generateId
  cases ht : Api.truthy key with
  | none => exact Or.inl ⟨draw.uuid4, rfl⟩
  | some k =>
    cases producer with
    | none => exact Or.inr ⟨Option.some_ne_none k, fun p hp => by cases hp⟩
    | some p =>
      by_cases hp : isBlank p = true
      · exact Or.inr ⟨Option.some_ne_none k, fun q hq => Option.some.inj hq ▸ hp⟩
      · refine Or.inl ⟨uuid5 (Api.derivationName word p k), ?_⟩
        simp [Api.requireProducerForKey, hp, bind, Except.bind, pure, Except.pure]

/-- What is minted passes the kind's validator and the contract model's. -/
theorem Mints.accepted {idPrefix word : String} {kind : IdKind} {validate : String → Except Exc String}
    (hm : Mints idPrefix word kind validate) (u : UuidHex) :
    validateId kind.name (idPrefix ++ u.hex) = .ok (idPrefix ++ u.hex) ∧
    identity (validate (idPrefix ++ u.hex)) = .pass := by
  have hpass : ∀ k ∈ idKinds, k.generated = true →
      validateId k.name (k.idPrefix ++ u.hex) = .ok (k.idPrefix ++ u.hex) ∧
        identity (validateGeneratedId k.name (k.idPrefix ++ u.hex)) = .pass := by
    intro k hk hg
    refine ⟨validateId_of_language hk (language_of_uuid hk hg u), ?_⟩
    rw [validateGeneratedId_new hk hg u]
    rfl
  cases hm with
  | experiment => exact hpass ⟨"experiment_id", "exp_", true⟩ (by decide) rfl
  | run => exact hpass ⟨"run_id", "run_", true⟩ (by decide) rfl
  | evidence => exact hpass ⟨"evidence_id", "ev_", true⟩ (by decide) rfl

/-- The languages of identities are exact, those of the generated kinds disjoint, and what
`generate_id` and the API mint is in them. -/
theorem identity_languages :
    (∀ kind ∈ idKinds, ∀ s, (kind.Language s → validateId kind.name s = .ok s) ∧
      (¬ kind.Language s → ∃ m, validateId kind.name s = .error (idError m))) ∧
    (∀ k₁ ∈ idKinds, ∀ k₂ ∈ idKinds, k₁.generated = true → k₂.generated = true → ∀ s,
      validateId k₁.name s = .ok s → validateId k₂.name s = .ok s → k₁ = k₂) ∧
    (∀ kind ∈ idKinds, kind.generated = true → ∀ u, ∃ i, generateId kind.name u = .ok i ∧
      validateId kind.name i = .ok i) ∧
    ∀ idPrefix word kind validate, Mints idPrefix word kind validate → ∀ uuid5 draw key producer,
      (∃ i, Api.generateId uuid5 draw idPrefix word key producer = .ok i ∧ validateId kind.name i = .ok i ∧
        identity (validate i) = .pass) ∨
      (Api.truthy key ≠ none ∧ ∀ p, producer = some p → isBlank p = true) := by
  refine ⟨fun kind hk s => ⟨validateId_of_language hk, validateId_of_not_language hk⟩, ?_, ?_, ?_⟩
  · intro k₁ h₁ k₂ h₂ hg₁ hg₂ s hs₁ hs₂
    have hlanguage : ∀ k ∈ idKinds, validateId k.name s = .ok s → k.Language s := by
      intro k hk hs
      by_contra hnot
      obtain ⟨m, hm⟩ := validateId_of_not_language hk hnot
      rw [hs] at hm
      cases hm
    by_contra hne
    exact generated_disjoint h₁ h₂ hg₁ hg₂ hne s ⟨hlanguage k₁ h₁ hs₁, hlanguage k₂ h₂ hs₂⟩
  · intro kind hk hg u
    have hid := generateId_language hk u
    rw [if_pos hg] at hid
    obtain ⟨i, hi, hlanguage⟩ := hid
    exact ⟨i, hi, validateId_of_language hk hlanguage⟩
  · intro idPrefix word kind validate hm uuid5 draw key producer
    rcases generateId_cases uuid5 draw idPrefix word key producer with ⟨u, hu⟩ | hrefused
    · exact Or.inl ⟨_, hu, hm.accepted u⟩
    · exact Or.inr hrefused

example : validateId "run_id" "run_0-F" = .ok "run_0-F" := rfl

end Cer
