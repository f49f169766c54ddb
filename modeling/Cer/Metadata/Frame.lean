import Cer.Lib.Unwinding
import Cer.Metadata.Insertion

/-!
# Rows of others

What the caller of a write gets depends on the rows with the write's own key and identity
only: rows of other keys and identities change neither the record handed back nor
whether it was created (`Write.outcome_thinned`), and so does one such row
(`Write.outcome_adds`).
-/

namespace Cer

open Py Unwinding

/-- What a caller gets: the record, and whether this call changed the database. -/
def fate {α : Type} (db : Database) (out : Except Exc (α × Database)) : Except Exc (α × Bool) :=
  out.map fun x => (x.1, decide (x.2 ≠ db))

def Write.outcome (env : Env) (db : Database) (w : Write) : Except Exc (Reply × Bool) := fate db (w.run env db)

theorem fate_asReply {α : Type} (f : α → Reply) (db : Database) (out : Except Exc (α × Database)) :
    fate db (asReply f out) = (fate db out).map fun x => (f x.1, x.2) := by
  cases out <;> rfl

theorem fate_same {α : Type} (db : Database) (x : Except Exc α) :
    fate db (x.map fun a => (a, db)) = x.map fun a => (a, false) := by
  cases x with
  | error e => rfl
  | ok a => simp [fate, Except.map]

section frame
variable {Row Rec I : Type}

/-- A submission that finds the same rows by key and identity, and reads them alike, has the same outcome. -/
theorem Submission.fate_frame {s : Submission Row Rec} {ident : Row → I} (hl : s.Lawful ident)
    (ht : s.table.Keyed ident s.keyOf) (hset : ∀ d rows, s.table.rows (s.table.setRows d rows) = rows)
    {db db₁ : Database} {replay existing : Row → Except Exc Rec} (hk : s.byKey db₁ = s.byKey db)
    (hi : s.byId db₁ = s.byId db) (hreplay : ∀ r ∈ s.table.rows db, replay r = s.replay r)
    (hexisting : ∀ r ∈ s.table.rows db, s.sameId r = true → existing r = s.existing r)
    (hfk : ∀ fk ∈ (schemaOf s.table.name).foreignKeys, fk.satisfied db.table (s.table.columns s.row) = true)
    (hfk₁ : ∀ fk ∈ (schemaOf s.table.name).foreignKeys, fk.satisfied db₁.table (s.table.columns s.row) = true) :
    fate db₁ (Submission.run { s with replay := replay, existing := existing } db₁) = fate db (s.run db) := by
  have hne : ∀ d : Database, s.table.setRows d (s.table.rows d ++ [s.row]) ≠ d := by
    intro d he
    have hrows := congrArg (fun d => (s.table.rows d).length) he
    simp only [hset, List.length_append, List.length_singleton] at hrows
    omega
  -- what an insertion does is the same whatever the rows: they hold neither the key nor the identity
  have hins : ∀ d : Database, s.byKey d = none → s.byId d = none →
      (∀ fk ∈ (schemaOf s.table.name).foreignKeys, fk.satisfied d.table (s.table.columns s.row) = true) →
      fate d ((s.table.insert d s.row).map fun d' => (s.record, d')) =
        if !Sql.bindable (s.table.columns s.row) then
          .error (.overflowError "Python int too large to convert to SQLite INTEGER")
        else .ok (s.record, true) := by
    intro d hkd hid hfkd
    rw [ht.insert_eq (hl.fresh hkd hid) hfkd]
    cases Sql.bindable (s.table.columns s.row) with
    | false => rfl
    | true =>
      show Except.ok (s.record, decide (s.table.setRows d (s.table.rows d ++ [s.row]) ≠ d)) = .ok (s.record, true)
      rw [decide_eq_true (hne d)]
  have hkey : Submission.byKey { s with replay := replay, existing := existing } db₁ = s.byKey db := hk
  have hid : Submission.byId { s with replay := replay, existing := existing } db₁ = s.byId db := hi
  unfold Submission.run
  rw [hkey, hid]
  cases hby : s.byKey db with
  | some r =>
    dsimp only
    rw [hreplay r (Submission.byKey_mem hby).1]
    by_cases hfp : s.fpOf r ≠ some s.fp
    · rw [if_pos hfp, if_pos hfp]
      rfl
    · rw [if_neg hfp, if_neg hfp, fate_same, fate_same]
  | none =>
    cases hbi : s.byId db with
    | some r =>
      dsimp only
      rw [hexisting r (List.mem_of_find?_eq_some hbi) (List.find?_some hbi), fate_same, fate_same]
    | none =>
      dsimp only
      rw [hins db hby hbi hfk]
      exact hins db₁ (hk.trans hby) (hi.trans hbi) hfk₁

end frame

/-! ## More rows -/

/-- The row shares neither identity nor key with what the write submits. -/
structure Write.Clear (w : Write) (κ' : KeyedTable) (row : KeyedRow) : Prop where
  ident : ∀ i, w.target = some (κ', i) → row.ident ≠ i
  key : ∀ p k, w.keyed = some (κ', p, k) → row.key ≠ some (p, k)

/-- `db` is `db₁` without some rows that share neither identity nor key with what the write submits. -/
def Database.Thins (db : Database) (w : Write) (db₁ : Database) : Prop :=
  ∀ κ, Thinned (w.Clear κ) (db.keyedRows κ) (db₁.keyedRows κ)

theorem Database.Adds.thins {db db₁ : Database} {κ' : KeyedTable} {row : KeyedRow}
    {w : Write} (h : db.Adds db₁ κ' row)
    (hclear : w.Clear κ' row) : db.Thins w db₁ := by
  intro κ
  by_cases hκ : κ = κ'
  · have happend : Thinned (w.Clear κ') (db.keyedRows κ' ++ []) (db.keyedRows κ' ++ [row]) :=
      (Thinned.refl _ _).append (.drop row hclear .nil)
    rw [hκ, h.self]
    rwa [List.append_nil] at happend
  · rw [h.other hκ]
    exact .refl _ _

/-- What a write refers to is among the rows that were not left out. -/
theorem Database.Thins.refsExist {db db₁ : Database} {w : Write} (h : db.Thins w db₁) (hrefs : w.RefsExist db) :
    w.RefsExist db₁ := by
  have hsub : ∀ κ, ∀ row ∈ db.keyedRows κ, row ∈ db₁.keyedRows κ := fun κ => (h κ).sublist.subset
  have hrun : ∀ {i}, db.hasRun i → db₁.hasRun i := by
    rintro i ⟨r, hr, hi⟩
    obtain ⟨r', hr', he⟩ := List.mem_map.1 (hsub .runs _ (List.mem_map_of_mem hr))
    exact ⟨r', hr', KeyedRow.run.inj he ▸ hi⟩
  have hexperiment : ∀ {i}, db.hasExperiment i → db₁.hasExperiment i := by
    rintro i ⟨r, hr, hi⟩
    obtain ⟨r', hr', he⟩ := List.mem_map.1 (hsub .experiments _ (List.mem_map_of_mem hr))
    exact ⟨r', hr', KeyedRow.experiment.inj he ▸ hi⟩
  have hevidence : ∀ {i}, db.hasEvidence i → db₁.hasEvidence i := by
    rintro i ⟨r, hr, hi⟩
    obtain ⟨r', hr', he⟩ := List.mem_map.1 (hsub .evidence _ (List.mem_map_of_mem hr))
    exact ⟨r', hr', KeyedRow.evidence.inj he ▸ hi⟩
  cases w with
  | createRun r k => exact hexperiment hrefs
  | appendEvidence e => exact ⟨fun i hi => hrun (hrefs.1 i hi), fun i hi => hexperiment (hrefs.2 i hi)⟩
  | registerArtifact a k p => exact ⟨fun i hi => hrun (hrefs.1 i hi), fun i hi => hevidence (hrefs.2 i hi)⟩
  | _ => trivial

section adds
variable {env : Env} {db db₁ : Database} {κ κ' : KeyedTable} {row : KeyedRow} {w : Write} {i : String}

/-- The lookups of a submission see nothing of rows with other keys and identities. -/
theorem Submission.lookups_thinned {Row Rec : Type} {s : Submission Row Rec} {f : Row → KeyedRow}
    (hf : Function.Injective f) (hrows : ∀ d, (s.table.rows d).map f = d.keyedRows κ)
    (hkeyOf : ∀ r, s.keyOf r = (f r).key) (hsame : ∀ r, s.sameId r = ((f r).ident == i))
    (hkey : ∀ p k, s.key = some (p, k) → w.keyed = some (κ, p, k)) (ht : w.target = some (κ, i))
    (hthin : db.Thins w db₁) : s.byKey db₁ = s.byKey db ∧ s.byId db₁ = s.byId db := by
  have h : Thinned (w.Clear κ) ((s.table.rows db).map f) ((s.table.rows db₁).map f) := by
    rw [hrows, hrows]
    exact hthin κ
  constructor
  · unfold Submission.byKey
    cases hk : s.key with
    | none => rfl
    | some pk =>
      have hq : (fun r => s.keyOf r == some pk) = (fun x : KeyedRow => x.key == some pk) ∘ f := funext fun r => by
        rw [hkeyOf]
        rfl
      show (s.table.rows db₁).find? (fun r => s.keyOf r == some pk) = (s.table.rows db).find? fun r =>
        s.keyOf r == some pk
      rw [hq]
      exact h.find?_map hf fun x hx => beq_eq_false_iff_ne.2 (hx.key pk.1 pk.2 (hkey pk.1 pk.2 hk))
  · have hq : s.sameId = (fun x : KeyedRow => x.ident == i) ∘ f := funext hsame
    unfold Submission.byId
    rw [hq]
    exact h.find?_map hf fun x hx => beq_eq_false_iff_ne.2 (hx.ident i ht)

/-- **Rows of other identities and keys** change nothing for the caller of a write. -/
theorem Write.outcome_thinned (h : WellFormed env db) (h₁ : WellFormed env db₁) (hthin : db.Thins w db₁)
    (ht : w.target = some (κ, i)) (hrefs : w.RefsExist db) : w.outcome env db₁ = w.outcome env db := by
  have hrefs₁ := hthin.refsExist hrefs
  have hreply : ∀ {α : Type} {f : α → Reply} {out out₁ : Except Exc (α × Database)}, fate db₁ out₁ = fate db out →
      fate db₁ (asReply f out₁) = fate db (asReply f out) := fun he => by rw [fate_asReply, fate_asReply, he]
  rcases Write.target_cases ht with ⟨e, k, rfl, rfl, rfl⟩ | ⟨r, k, rfl, rfl, rfl⟩ | ⟨e, rfl, rfl, rfl⟩ |
    ⟨t, k, rfl, rfl, rfl⟩ | ⟨x, k, n, rfl, rfl, rfl⟩
  · obtain ⟨hk, hi⟩ := @Submission.lookups_thinned db db₁ _ _ e.experimentId _ _ (experimentSubmission env e k)
      KeyedRow.experiment (fun a b => KeyedRow.experiment.inj) (fun _ => rfl) (fun _ => rfl) (fun _ => rfl)
      (fun p k' hk => by cases k <;> cases hk; rfl) ht hthin
    exact hreply (Submission.fate_frame (experimentSubmission_lawful env e k) experimentsTable_keyed
      (fun _ _ => rfl)
      hk hi (fun _ _ => rfl) (fun _ _ _ => rfl) (fun fk hfk => by cases hfk) fun fk hfk => by cases hfk)
  · obtain ⟨hk, hi⟩ := @Submission.lookups_thinned db db₁ _ _ r.runId _ _ (runSubmission env db r k)
      KeyedRow.run (fun a b => KeyedRow.run.inj) (fun _ => rfl) (fun _ => rfl) (fun _ => rfl)
      (fun p k' hk => by cases k <;> cases hk; rfl) ht hthin
    have hfetch : ∀ y ∈ db.runs, fetchRun db₁ y.runId = fetchRun db y.runId := by
      intro y hy
      have hmem : KeyedRow.run y ∈ db₁.keyedRows .runs := (hthin .runs).sublist.subset (List.mem_map_of_mem hy)
      obtain ⟨y', hy', hyy⟩ := List.mem_map.1 hmem
      rw [h.fetchRun_eq hy, h₁.fetchRun_eq (KeyedRow.run.inj hyy ▸ hy')]
    have hrun := Submission.fate_frame (runSubmission_lawful env db r k) runsTable_keyed (fun _ _ => rfl) hk hi
      hfetch (fun _ _ _ => rfl) (runRow_parents (r := r.toRow env k) hrefs)
        (runRow_parents (r := r.toRow env k) hrefs₁)
    refine hreply ?_
    show fate db₁ (requireExperiment db₁ r.experimentId >>= fun _ => _) =
      fate db (requireExperiment db r.experimentId >>= fun _ => _)
    rw [requireExperiment_of hrefs, requireExperiment_of hrefs₁]
    exact hrun
  · obtain ⟨hk, hi⟩ := @Submission.lookups_thinned db db₁ _ _ e.evidenceId _ _ (evidenceSubmission env db e)
      KeyedRow.evidence (fun a b => KeyedRow.evidence.inj) (fun _ => rfl) (fun _ => rfl) (fun _ => rfl)
      (fun p k' hk => by cases hk; rfl) ht hthin
    have hfetch : ∀ y ∈ db.evidence, fetchEvidence env db₁ y.evidenceId = fetchEvidence env db y.evidenceId := by
      intro y hy
      have hmem : KeyedRow.evidence y ∈ db₁.keyedRows .evidence :=
        (hthin .evidence).sublist.subset (List.mem_map_of_mem hy)
      obtain ⟨y', hy', hyy⟩ := List.mem_map.1 hmem
      rw [h.fetchEvidence_eq hy, h₁.fetchEvidence_eq (KeyedRow.evidence.inj hyy ▸ hy')]
    have hexisting : ∀ y ∈ db.evidence, (evidenceSubmission env db e).sameId y = true →
        (evidenceSubmission env db₁ e).existing y = (evidenceSubmission env db e).existing y := by
      intro y hy hid
      have hyi : y.evidenceId = e.evidenceId := beq_iff_eq.1 hid
      show (if _ then _ else fetchEvidence env db₁ e.evidenceId) = if _ then _
        else fetchEvidence env db e.evidenceId
      rw [← hyi, hfetch y hy]
    have hrun := Submission.fate_frame (evidenceSubmission_lawful env db e) evidenceTable_keyed
      (fun _ _ => rfl) hk hi
      hfetch hexisting (evidenceRow_parents (r := e.toRow env) hrefs.1 hrefs.2)
      (evidenceRow_parents (r := e.toRow env) hrefs₁.1 hrefs₁.2)
    refine hreply ?_
    show fate db₁ (ifPresent (requireRun db₁) e.runId >>= fun _ => ifPresent
      (requireExperiment db₁) e.experimentId >>=
        fun _ => _) =
      fate db (ifPresent (requireRun db) e.runId >>= fun _ => ifPresent (requireExperiment db) e.experimentId >>=
        fun _ => _)
    rw [ifPresent_of fun i hi => requireRun_of (hrefs.1 i hi),
      ifPresent_of fun i hi => requireRun_of (hrefs₁.1 i hi),
      ok_bind, ok_bind, ifPresent_of fun i hi => requireExperiment_of (hrefs.2 i hi),
      ifPresent_of fun i hi => requireExperiment_of (hrefs₁.2 i hi)]
    exact hrun
  · obtain ⟨hk, hi⟩ := @Submission.lookups_thinned db db₁ _ _ t.transitionId _ _ (promotionSubmission env t k)
      KeyedRow.promotion (fun a b => KeyedRow.promotion.inj) (fun _ => rfl) (fun _ => rfl) (fun _ => rfl)
      (fun p k' hk => by cases k <;> cases hk; rfl) ht hthin
    exact hreply (Submission.fate_frame (promotionSubmission_lawful env t k) promotionsTable_keyed (fun _ _ => rfl)
      hk hi (fun _ _ => rfl) (fun _ _ _ => rfl) (fun fk hfk => by cases hfk) fun fk hfk => by cases hfk)
  · obtain ⟨hk, hi⟩ := @Submission.lookups_thinned db db₁ _ _ x.healthId _ _ (healthSubmission env x k n)
      KeyedRow.health (fun a b => KeyedRow.health.inj) (fun _ => rfl) (fun _ => rfl) (fun _ => rfl)
      (fun p k' hk => by cases k <;> cases hk; rfl) ht hthin
    exact hreply (Submission.fate_frame (healthSubmission_lawful env x k n) healthRecordsTable_keyed
      (fun _ _ => rfl)
      hk hi (fun _ _ => rfl) (fun _ _ _ => rfl) (fun fk hfk => by cases hfk) fun fk hfk => by cases hfk)

/-- **A row of another identity and key** changes nothing for the caller of a write. -/
theorem Write.outcome_adds (h : WellFormed env db) (h₁ : WellFormed env db₁) (hadds : db.Adds db₁ κ' row)
    (ht : w.target = some (κ, i)) (hclear : w.Clear κ' row) (hrefs : w.RefsExist db) :
    w.outcome env db₁ = w.outcome env db :=
  Write.outcome_thinned h h₁ (hadds.thins hclear) ht hrefs

end adds

end Cer
