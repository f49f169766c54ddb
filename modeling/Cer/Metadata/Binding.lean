import Cer.Metadata.Idempotency

/-!
# Whether an accepted key is bound

A keyed submission can succeed in three ways: it inserts its row, it replays the row of
its key, or it finds its identity stored with the same content.  The first two leave a
row under the key; the third hands back a record and forgets the key, so the next
submission under it, whatever its content, is taken for a first one.
-/

namespace Cer

open Py

/-! ## The three exits -/

section submission
variable {Row Rec I : Type}

/-- After a success the key is bound to the submission's fingerprint, unless the identity exit was taken. -/
theorem Submission.bound_iff {s : Submission Row Rec} {ident : Row → I} (hl : s.Lawful ident) {db db' : Database}
    {rec : Rec} {k : String × String} (hk : s.key = some k) (hfp : s.fpOf s.row = some s.fp)
    (hrows : ∀ rows, s.table.rows (s.table.setRows db rows) = rows) (h : s.run db = .ok (rec, db')) :
    (∃ r ∈ s.table.rows db', s.keyOf r = some k ∧ s.fpOf r = some s.fp) ↔
      (∃ r ∈ s.table.rows db, s.keyOf r = some k) ∨ ¬ ∃ r ∈ s.table.rows db, ident r = ident s.row := by
  have hnokey : s.byKey db = none → ∀ r ∈ s.table.rows db, s.keyOf r ≠ some k := fun hn r hr =>
    hl.fresh_key hn k (hl.key_row.trans hk) r hr
  rcases Submission.run_ok h with ⟨r, hby, hfpr, _, rfl⟩ | ⟨r, hby, hid, _, rfl⟩ | ⟨hby, hid, hins, _⟩
  · -- the row of the key was replayed
    obtain ⟨hmem, k', hk', hkey⟩ := Submission.byKey_mem hby
    rw [hk] at hk'
    rw [← hk'] at hkey
    exact ⟨fun _ => Or.inl ⟨r, hmem, hkey⟩, fun _ => ⟨r, hmem, hkey, hfpr⟩⟩
  · -- the identity was stored, the key unused: nothing is written
    have hident : ∃ r ∈ s.table.rows db', ident r = ident s.row :=
      ⟨r, List.mem_of_find?_eq_some hid, (hl.sameId_iff r).1 (List.find?_some hid)⟩
    refine ⟨fun ⟨x, hx, hkey, _⟩ => absurd hkey (hnokey hby x hx), fun hor => ?_⟩
    rcases hor with ⟨x, hx, hkey⟩ | hnot
    · exact absurd hkey (hnokey hby x hx)
    · exact absurd hident hnot
  · refine ⟨fun _ => Or.inr fun ⟨x, hx, he⟩ => hl.fresh_id hid x hx he, fun _ => ?_⟩
    rw [Table.insert_ok hins, hrows]
    exact ⟨s.row, List.mem_append_right _ (List.mem_singleton_self _), hl.key_row.trans hk, hfp⟩

end submission

/-! ## The six writes -/

/-- A row of the table has the key. -/
def Database.KeyUsed (db : Database) (κ : KeyedTable) (p k : String) : Prop :=
  ∃ row ∈ db.keyedRows κ, row.key = some (p, k)

/-- A row of the table has the key and the fingerprint of the content. -/
def Database.Bound (env : Env) (db : Database) (κ : KeyedTable) (p k content : String) : Prop :=
  ∃ row ∈ db.keyedRows κ, row.key = some (p, k) ∧ row.fp = some (env.digest content)

/-- No key is given, or one that no row has. -/
def Database.KeyFree (db : Database) (κ : KeyedTable) (p : String) (k : Option String) : Prop :=
  ∀ k', k = some k' → ¬ db.KeyUsed κ p k'

theorem keyFree_rows {Row : Type} {rows : List Row} {f : Row → KeyedRow} {keyOf : Row → Option (String × String)}
    (hkey : ∀ r, (f r).key = keyOf r) {p : String} {k : Option String}
    (h : ∀ k', k = some k' → ¬ ∃ row ∈ rows.map f, row.key = some (p, k')) :
    ∀ k', producerKey p k = some k' → ∀ r ∈ rows, keyOf r ≠ some k' := by
  intro k' hk r hr he
  cases k with
  | none => cases hk
  | some k =>
    cases hk
    exact h k rfl ⟨f r, List.mem_map_of_mem hr, (hkey r).trans he⟩

/-- The same question asked of the rows of one table. -/
theorem keyedRow_bound_iff {Row : Type} {rows rows' : List Row} {f : Row → KeyedRow}
    {keyOf : Row → Option (String × String)} {fpOf : Row → Option String} {k : String × String}
    {fp : String} {Q : Prop}
    (hkey : ∀ r, (f r).key = keyOf r) (hfp : ∀ r, (f r).fp = fpOf r)
    (h : (∃ r ∈ rows', keyOf r = some k ∧ fpOf r = some fp) ↔ (∃ r ∈ rows, keyOf r = some k) ∨ Q) :
    (∃ row ∈ rows'.map f, row.key = some k ∧ row.fp = some fp) ↔ (∃ row ∈ rows.map f, row.key = some k) ∨ Q := by
  simp only [List.mem_map, exists_exists_and_eq_and, hkey, hfp]
  exact h

/-- A successful keyed write leaves its key bound just when the key was bound before or the identity was new. -/
theorem bound_iff_of_run {env : Env} {db db' : Database} {w : Write} {rep : Reply} {κ : KeyedTable} {p k : String}
    (hk : w.keyed = some (κ, p, k)) (h : w.run env db = .ok (rep, db')) :
    db'.Bound env κ p k (w.content env) ↔ db.KeyUsed κ p k ∨ ¬ w.NamesUsed db := by
  unfold Database.Bound Database.KeyUsed
  rcases Write.keyed_cases hk with ⟨e, rfl, rfl, rfl⟩ | ⟨x, rfl, rfl, rfl⟩ |
    ⟨e, rfl, rfl, rfl, rfl⟩ | ⟨a, rfl, rfl⟩ |
    ⟨t, rfl, rfl, rfl⟩ | ⟨x, n, rfl, rfl, rfl⟩
  · obtain ⟨_, h, _⟩ := asReply_ok h
    have hb := Submission.bound_iff (experimentSubmission_lawful env e (some k)) rfl rfl (fun _ => rfl) h
    exact keyedRow_bound_iff (f := KeyedRow.experiment) (fun _ => rfl) (fun _ => rfl) hb
  · obtain ⟨_, h, _⟩ := asReply_ok h
    obtain ⟨_, _, h⟩ := bind_ok h
    have hb := Submission.bound_iff (runSubmission_lawful env db x (some k)) rfl rfl (fun _ => rfl) h
    exact keyedRow_bound_iff (f := KeyedRow.run) (fun _ => rfl) (fun _ => rfl) hb
  · obtain ⟨_, h, _⟩ := asReply_ok h
    obtain ⟨_, _, h⟩ := bind_ok h
    obtain ⟨_, _, h⟩ := bind_ok h
    have hb := Submission.bound_iff (evidenceSubmission_lawful env db e) rfl rfl (fun _ => rfl) h
    exact keyedRow_bound_iff (f := KeyedRow.evidence) (fun _ => rfl) (fun _ => rfl) hb
  · obtain ⟨_, h, _⟩ := asReply_ok h
    obtain ⟨_, _, h⟩ := bind_ok h
    obtain ⟨_, _, h⟩ := bind_ok h
    obtain ⟨_, _, h⟩ := bind_ok h
    have hb := Submission.bound_iff (artifactSubmission_lawful env a (some k) (some p)) rfl rfl (fun _ => rfl) h
    exact keyedRow_bound_iff (f := KeyedRow.artifact) (fun _ => rfl) (fun _ => rfl) hb
  · obtain ⟨_, h, _⟩ := asReply_ok h
    have hb := Submission.bound_iff (promotionSubmission_lawful env t (some k)) rfl rfl (fun _ => rfl) h
    exact keyedRow_bound_iff (f := KeyedRow.promotion) (fun _ => rfl) (fun _ => rfl) hb
  · obtain ⟨_, h, _⟩ := asReply_ok h
    have hb := Submission.bound_iff (healthSubmission_lawful env x (some k) n) rfl rfl (fun _ => rfl) h
    exact keyedRow_bound_iff (f := KeyedRow.health) (fun _ => rfl) (fun _ => rfl) hb

/-! ## Later submissions -/

/-- The fields that the fingerprint of a key leaves out. -/
def KeyedTable.exclude : KeyedTable → List String
  | .experiments => experimentFpExclude
  | .runs => runFpExclude
  | .evidence => evidenceFpExclude
  | .artifacts => artifactIdemFpExclude
  | .promotions => promotionFpExclude
  | .healthRecords => healthFpExclude

/-- The two submissions have the same values outside the fields that the fingerprint leaves out. -/
def Write.SameContent (κ : KeyedTable) (w w' : Write) : Prop :=
  ∃ s s', w.submitted = some s ∧ w'.submitted = some s' ∧ SameFields κ.exclude s.values s'.values

/-- The key is bound to the content of `w`, and a later submission of other content under it conflicts. -/
structure Database.KeyHeld (env : Env) (db : Database) (κ : KeyedTable) (p k : String) (w : Write)
    (later : Database) (w' : Write) : Prop where
  bound : db.Bound env κ p k (w.content env)
  refused : ¬ w.SameContent κ w' → ∃ m, w'.call env later = .error (idempotencyConflict m)

section held
variable {env : Env} {db db' : Database} {κ : KeyedTable} {p k : String}

/-- A key has one row. -/
theorem WellFormed.key_unique (h : WellFormed env db) {row row' : KeyedRow} (hr : row ∈ db.keyedRows κ)
    (hr' : row' ∈ db.keyedRows κ) (hk : row.key = some (p, k)) (hk' : row'.key = some (p, k)) : row = row' :=
  Ledger.eq_of_nodup_keys (h.keys_nodup κ) hr hr' hk hk'

theorem Database.Bound.mono (hb : db.Bound env κ p k content) (h : db.Extends db') :
    db'.Bound env κ p k content := by
  obtain ⟨row, hmem, hkey, hfp⟩ := hb
  obtain ⟨row', hmem', hkey', hfp', _⟩ := h.keyedRow hmem
  exact ⟨row', hmem', hkey'.trans hkey, hfp'.trans hfp⟩

theorem Database.Bound.unique (h : WellFormed env db) {c c' : String} (hb : db.Bound env κ p k c)
    (hb' : db.Bound env κ p k c') : env.digest c = env.digest c' := by
  obtain ⟨row, hmem, hkey, hfp⟩ := hb
  obtain ⟨row', hmem', hkey', hfp'⟩ := hb'
  rw [h.key_unique hmem hmem' hkey hkey', hfp'] at hfp
  exact (Option.some.inj hfp).symm

theorem notFound_ne_conflict {m m' : String} : notFound m ≠ idempotencyConflict m' := by
  intro h
  cases h

/-- Only a submission whose references exist conflicts: their guards come first. -/
theorem refsExist_of_conflict {w : Write} {m : String} (hk : w.keyed = some (κ, p, k))
    (h : w.run env db = .error (idempotencyConflict m)) : w.RefsExist db := by
  have hguard : ∀ {g : Except Exc Unit} {P : Prop} {α : Type} {f : α → Reply} {x : Except Exc (α × Database)},
      (g = .ok () ∧ P ∨ (∃ m, g = .error (notFound m)) ∧ ¬ P) →
      asReply f (g >>= fun _ => x) = .error (idempotencyConflict m) →
      P := by
    intro g P α f x hg hx
    rcases hg with ⟨_, hp⟩ | ⟨⟨m', rfl⟩, _⟩
    · exact hp
    · exact absurd (Except.error.inj hx) notFound_ne_conflict
  rcases Write.keyed_cases hk with ⟨e, rfl, rfl, rfl⟩ | ⟨x, rfl, rfl, rfl⟩ |
    ⟨e, rfl, rfl, rfl, rfl⟩ | ⟨a, rfl, rfl⟩ |
    ⟨t, rfl, rfl, rfl⟩ | ⟨x, n, rfl, rfl, rfl⟩
  · exact trivial
  · exact hguard (requireExperiment_cases db x.experimentId) h
  · have hboth := guards_cases (ifPresent_cases (requireRun_cases db) e.runId)
      (ifPresent_cases (requireExperiment_cases db) e.experimentId)
    exact hguard hboth (by rw [bind_assoc]; exact h)
  · have hboth := guards_cases (ifPresent_cases (requireRun_cases db) a.runId)
      (ifPresent_cases (requireEvidence_cases db) a.evidenceId)
    exact hguard hboth (by rw [bind_assoc]; exact h)
  · exact trivial
  · exact trivial

/-- A submission without a text raises something else. -/
theorem hasText_of_conflict {w : Write} {m : String} (h : w.call env db = .error (idempotencyConflict m)) :
    w.HasText env := by
  by_contra htext
  rcases Write.call_of_noText db htext with ⟨⟨e, he, hcer⟩, _⟩ | ⟨⟨m', he⟩, _⟩
  · rw [Except.error.inj (he.symm.trans h)] at hcer
    cases hcer
  · exact absurd (Except.error.inj (he.symm.trans h)) notFound_ne_conflict

/-- **A submission under a bound key** conflicts just when the rows it refers to exist, it has a
canonical text, and that text is another. -/
theorem Database.Bound.conflicts_iff (h : WellFormed env db) {content : String} (hb : db.Bound env κ p k content)
    (hscope : ScopeOk κ p) {w : Write} (hk : w.keyed = some (κ, p, k))
    (hcol : env.NoCollision content (w.content env)) :
    (∃ m, w.call env db = .error (idempotencyConflict m)) ↔ w.RefsExist db ∧ w.HasText env ∧
    w.content env ≠ content := by
  obtain ⟨row, hmem, hkey, hfp⟩ := hb
  constructor
  · rintro ⟨m, herr⟩
    have htext := hasText_of_conflict herr
    rw [Write.call_of_hasText htext] at herr
    have hrefs := refsExist_of_conflict hk herr
    refine ⟨hrefs, htext, fun hsame => ?_⟩
    obtain ⟨rep, _, hok⟩ := (h.run_bound hk hmem hkey hrefs hscope).1 (by rw [hsame]; exact hfp)
    rw [hok] at herr
    cases herr
  · rintro ⟨hrefs, htext, hne⟩
    rw [Write.call_of_hasText htext]
    refine (h.run_bound hk hmem hkey hrefs hscope).2 fun hsame => hne ?_
    rw [hfp] at hsame
    exact (hcol (Option.some.inj hsame)).symm

end held

/-- **An accepted key is bound** just when it was bound before or the record's identity was new; a
success through the stored identity leaves the key free.  Where it is bound, a later submission of
other content conflicts just when its references exist and its canonical text is another: the
infinities and NaNs of free-form fields are `null` there. -/
theorem accepted_key_is_held_iff (env : Env) {db db' later : Database} (reached : Reachable env db) {w w' : Write}
    {rep : Reply} {κ : KeyedTable} {p k : String} (keyed : w.keyed = some (κ, p, k)) (valid : w.Valid)
    (accepted : w.call env db = .ok (rep, db')) (writes : Writes env db' later)
    (sameKey : w'.keyed = some (κ, p, k))
    (noCollision : env.NoCollision (w.content env) (w'.content env)) :
    db'.KeyHeld env κ p k w later w' ↔ (db.KeyUsed κ p k ∨ ¬ w.NamesUsed db) ∧
      (¬ w.SameContent κ w' → w'.RefsExist later ∧ w'.HasText env ∧ w'.content env ≠ w.content env) := by
  have hrun := Write.run_of_call accepted
  have hiff := bound_iff_of_run keyed hrun
  have hwf := reached.wellFormed.effect valid (effect_of_run hrun)
  have hscope := scopeOk_of_run keyed hrun
  have hlater : db'.Bound env κ p k (w.content env) →
      ((∃ m, w'.call env later = .error (idempotencyConflict m)) ↔
        w'.RefsExist later ∧ w'.HasText env ∧ w'.content env ≠ w.content env) := fun hb =>
    (hb.mono (writes.extends hwf)).conflicts_iff (writes.wellFormed hwf) hscope sameKey noCollision
  constructor
  · exact fun h => ⟨hiff.1 h.bound, fun hne => (hlater h.bound).1 (h.refused hne)⟩
  · rintro ⟨hcond, hother⟩
    have hb := hiff.2 hcond
    exact ⟨hb, fun hne => (hlater hb).2 (hother hne)⟩

/-- Another experiment of the same producer. -/
def sampleOtherExperiment : Experiment :=
  { sampleExperiment with experimentId := "exp_02", objective := "another" }

theorem sampleOtherExperiment_digest :
    Env.reference.digest (Write.content .reference (.createExperiment sampleExperiment (some "k"))) ≠
      Env.reference.digest (Write.content .reference (.createExperiment sampleOtherExperiment (some "k"))) := by
  decide +kernel

/-- A first submission holds its key: the other experiment conflicts. -/
theorem sample_key_is_held : sampleKeyed.KeyHeld .reference .experiments "hsa" "k"
    (.createExperiment sampleExperiment (some "k")) sampleKeyed
    (.createExperiment sampleOtherExperiment (some "k")) := by
  refine Iff.mpr (accepted_key_is_held_iff .reference (.refl _) rfl sampleExperiment_valid sampleKeyed_create
    (.refl _) rfl fun he => absurd he sampleOtherExperiment_digest)
    ⟨Or.inr ?_, fun _ => ⟨trivial, rfl, fun he => ?_⟩⟩
  · rintro ⟨r, hr, _⟩
    cases hr
  · exact sampleOtherExperiment_digest (congrArg Env.reference.digest he.symm)

def sampleUnkeyed : Database := { Database.empty with experiments := [sampleExperiment.toRow .reference none] }

/-- The same experiment again, under the identity it is stored with. -/
theorem experiment_existing (env : Env) {e : Experiment} (hv : e.Valid) (k k' : Option String) :
    (experimentSubmission env e k').existing (e.toRow env k) = .ok e := by
  show (rowToExperiment (e.toRow env k) >>= fun _ => _) = _
  rw [rowToExperiment_toRow env hv k]
  exact if_neg (not_not_intro rfl)

theorem sampleUnkeyed_resubmit :
    (Write.createExperiment sampleExperiment (some "k")).run .reference sampleUnkeyed =
    .ok (.experiment sampleExperiment, sampleUnkeyed) := by
  have hk : (experimentSubmission .reference sampleExperiment (some "k")).byKey sampleUnkeyed = none := rfl
  have hi : (experimentSubmission .reference sampleExperiment (some "k")).byId sampleUnkeyed =
      some (sampleExperiment.toRow .reference none) := rfl
  show asReply .experiment ((experimentSubmission .reference sampleExperiment (some "k")).run sampleUnkeyed) = _
  rw [Submission.run_existing hk hi
    (experiment_existing .reference sampleExperiment_valid none (some "k")), asReply_mk]

/-- The key of an accepted submission is forgotten, and other content is created under it. -/
theorem accepted_key_is_forgotten : ∃ db', Reachable .reference sampleUnkeyed ∧
    (Write.createExperiment sampleExperiment (some "k")).run .reference sampleUnkeyed =
      .ok (.experiment sampleExperiment, sampleUnkeyed) ∧
    ¬ sampleUnkeyed.KeyHeld .reference .experiments "hsa" "k" (.createExperiment sampleExperiment (some "k"))
      sampleUnkeyed (.createExperiment sampleOtherExperiment (some "k")) ∧
    (Write.createExperiment sampleOtherExperiment (some "k")).run .reference sampleUnkeyed =
      .ok (.experiment sampleOtherExperiment, db') := by
  refine ⟨_, .commit (w := .createExperiment sampleExperiment none) (.refl _) sampleExperiment_valid
    sampleRegistry_writes.1, sampleUnkeyed_resubmit, fun h => ?_, rfl⟩
  obtain ⟨row, hmem, hkey, _⟩ := h.bound
  obtain ⟨r, hr, rfl⟩ := List.mem_map.1 hmem
  rw [List.mem_singleton.1 hr] at hkey
  cases hkey

end Cer
