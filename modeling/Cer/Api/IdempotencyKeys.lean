import Cer.Api.Refusals
import Cer.Metadata.Insertion

/-!
# Whether a key was supplied

A key may come in a header and in a body.  Three layers ask whether there is one: the
reconciliation of the two and the derivation of the identity ask whether it is truthy, the
store whether it is there at all.  `key_layers_agree_iff` says where the answers agree:
everywhere but on an empty key in the body.
-/

namespace Cer.Api

open Py

/-! ## The three layers -/

/-- The header and the body key of a request to one of the four endpoints whose key is optional. -/
def Request.keyFields : Request → Option (Option String × Option String)
  | .createExperiment body header => some (header, body.idempotencyKey)
  | .createRun _ body header => some (header, body.idempotencyKey)
  | .createPromotion body header => some (header, body.idempotencyKey)
  | .createHealthRecord body header => some (header, body.idempotencyKey)
  | _ => none

/-- A request to one of the four endpoints, with what was drawn for it and the store call it made. -/
structure Call (uuid5 : Uuid5) (header bodyKey : Option String) where
  req : Request
  draw : Draw
  write : Write
  mappings : req.WellFormed
  fields : req.keyFields = some (header, bodyKey)
  call : req.toWrite uuid5 draw = .ok write

/-- The rows the call refers to are there, and the identity it names is not. -/
structure Call.Fits {uuid5 : Uuid5} {header bodyKey : Option String} (c : Call uuid5 header bodyKey)
    (db : Database) :
    Prop where
  refs : c.write.RefsExist db
  new : ∀ κ i, c.write.target = some (κ, i) → ¬ db.HasIdent κ i

section layers
variable (env : Env) (uuid5 : Uuid5)

end layers

theorem generateId_truthy {uuid5 : Uuid5} {draw : Draw} {idPrefix kind producer k : String} {key : Option String}
    (hk : truthy key = some k) (hp : isBlank producer = false) :
    generateId uuid5 draw idPrefix kind key (some producer) =
      .ok (idPrefix ++ (uuid5 (derivationName kind producer k)).hex) := by
  unfold generateId requireProducerForKey
  rw [hk]
  dsimp only
  rw [hp]
  rfl

/-- Two identities a process may draw. -/
def zeros : UuidHex := ⟨"00000000000000000000000000000000", by decide, by decide⟩
section calls
variable {uuid5 : Uuid5} {header bodyKey : Option String}

end calls

/-- A body with what an experiment must have, and a key. -/
def plainBody (producer : String) (key : Option String) : ExperimentCreateRequest :=
  { objective := "sweep", producer := producer, strategyId := none, strategyVersion := none, createdAt := none
    idempotencyKey := key }

/-- The experiment of that body. -/
def plainExperiment (u : UuidHex) (producer : String) : Experiment :=
  { experimentId := "exp_" ++ u.hex, objective := "sweep", strategyId := none, strategyVersion := none
    producer := producer, createdAt := minTime }

theorem plainExperiment_checks (u : UuidHex) {producer : String} (hp : isBlank producer = false) :
    ∀ c ∈ (plainExperiment u producer).checks, c = .pass := by
  have hid : validateExperimentId ("exp_" ++ u.hex) = .ok ("exp_" ++ u.hex) :=
    @validateGeneratedId_new ⟨"experiment_id", "exp_", true⟩ (by decide) rfl u
  have hidentity : identity (validateExperimentId ("exp_" ++ u.hex)) = .pass := by
    rw [hid]
    rfl
  have hproducer : nonEmpty "producer" producer = .pass := if_neg (by rw [hp]; exact Bool.false_ne_true)
  have hobjective : nonEmpty "objective" "sweep" = .pass := by decide
  intro c hc
  simp only [Experiment.checks, plainExperiment, hidentity, hproducer, hobjective, List.mem_cons, List.not_mem_nil,
    or_false] at hc
  rcases hc with rfl | rfl | rfl | rfl | rfl <;> rfl

/-- Posting it asks for the experiment under the key resolved and the identity generated. -/
theorem plainBody_call {uuid5 : Uuid5} {u v : UuidHex} {producer : String} {header bodyKey key : Option String}
    (hp : isBlank producer = false) (hkey : resolveIdempotencyKey header bodyKey = .ok key)
    (hid : generateId uuid5 ⟨v, minTime⟩ "exp_" "experiment" key (some producer) = .ok ("exp_" ++ u.hex)) :
    (Request.createExperiment (plainBody producer bodyKey) header).toWrite uuid5 ⟨v, minTime⟩ =
      .ok (.createExperiment (plainExperiment u producer) key) := by
  have hk : resolveIdempotencyKey header (plainBody producer bodyKey).idempotencyKey = .ok key := hkey
  have hi : generateId uuid5 ⟨v, minTime⟩ "exp_" "experiment" key (some (plainBody producer bodyKey).producer) =
      .ok ("exp_" ++ u.hex) := hid
  have hnow : instant (orNow ⟨v, minTime⟩ (plainBody producer bodyKey).createdAt) = minTime := rfl
  have hrec : constructAt Experiment.checks id 5
      [utcDateTime "created_at" (orNow ⟨v, minTime⟩ (plainBody producer bodyKey).createdAt)]
      (plainExperiment u producer) = .ok (plainExperiment u producer) := by
    refine constructAt_eq_ok_iff.2 ⟨plainExperiment_checks u hp, ?_, rfl⟩
    intro c hc
    rw [List.mem_singleton.1 hc]
    rfl
  show createExperiment uuid5 ⟨v, minTime⟩ (plainBody producer bodyKey) header = _
  unfold createExperiment
  rw [hk, ok_bind, hi, ok_bind]
  simp only [hnow]
  change (constructAt Experiment.checks id 5 _ (plainExperiment u producer) >>= _) = _
  rw [hrec]
  rfl

/-! ## An empty key in the body -/

end Cer.Api
