import Mathlib.Data.String.Defs

/-!
# The contract's exceptions

`ErrorClass` is the hierarchy under `CERError`, each with its stable `code`; `Exc` is
whatever may leave a function of the service, the exceptions of pydantic, the
standard library and `sqlite3` included.
-/

namespace Cer

inductive ErrorClass
  | cerError
  | contractViolation
  | incompatibleSchemaVersion
  | unknownEvidenceType
  | identityError
  | validationError
  | immutabilityError
  | idempotencyConflict
  | notFound
  | metadataStoreError
  | artifactStoreError
  | checksumMismatch
deriving DecidableEq, Repr

def ErrorClass.code : ErrorClass → String
  | .cerError => "cer_error"
  | .contractViolation => "contract_violation"
  | .incompatibleSchemaVersion => "incompatible_schema_version"
  | .unknownEvidenceType => "unknown_evidence_type"
  | .identityError => "identity_error"
  | .validationError => "validation_error"
  | .immutabilityError => "immutability_violation"
  | .idempotencyConflict => "idempotency_conflict"
  | .notFound => "not_found"
  | .metadataStoreError => "metadata_store_error"
  | .artifactStoreError => "artifact_store_error"
  | .checksumMismatch => "checksum_mismatch"

/-- The class a class derives from. -/
def ErrorClass.base : ErrorClass → Option ErrorClass
  | .cerError => none
  | .incompatibleSchemaVersion | .unknownEvidenceType | .identityError
  | .validationError => some .contractViolation
  | .checksumMismatch => some .artifactStoreError
  | .contractViolation | .immutabilityError | .idempotencyConflict | .notFound | .metadataStoreError
  | .artifactStoreError => some .cerError

/-- `issubclass(c, d)`. -/
def ErrorClass.isSubclass (c d : ErrorClass) : Bool :=
  c == d || c.base == some d || (c.base.bind ErrorClass.base) == some d

inductive Exc
  /-- A `CERError`: its class, its message, and the code it carries. -/
  | cer (cls : ErrorClass) (message code : String)
  /-- pydantic's `ValidationError`: the fields it names and what is wrong with each. -/
  | pydantic (errors : List (String × String))
  | valueError (message : String)
  | overflowError (message : String)
  /-- `sqlite3.IntegrityError`, naming the constraint. -/
  | integrityError (constraint : String)
  /-- `sqlite3.OperationalError`. -/
  | operationalError (message : String)
deriving DecidableEq, Repr

/-- `raise C(message)`. -/
def ErrorClass.exc (c : ErrorClass) (message : String) : Exc := .cer c message c.code

/-- `isinstance(e, C)` for a class of the hierarchy. -/
def Exc.isA (e : Exc) (c : ErrorClass) : Bool :=
  match e with
  | .cer d _ _ => d.isSubclass c
  | _ => false

/-- The exception is a `CERError`. -/
def Exc.isCer (e : Exc) : Bool := e.isA .cerError

/-- `isinstance(e, sqlite3.Error)`. -/
def Exc.isSqlite : Exc → Bool
  | .integrityError _ | .operationalError _ => true
  | _ => false

/-- `str(e)`; pydantic's text is abbreviated. -/
def Exc.str : Exc → String
  | .cer _ message _ => message
  | .pydantic errors => s!"{errors.length} validation errors"
  | .valueError message | .overflowError message | .integrityError message | .operationalError message => message

theorem ErrorClass.isSubclass_cerError (c : ErrorClass) : c.isSubclass .cerError = true := by
  cases c <;> rfl

@[simp] theorem ErrorClass.isCer_exc (c : ErrorClass) (m : String) : (c.exc m).isCer = true :=
  c.isSubclass_cerError

/-! ## What a computation of several steps comes to -/

@[simp] theorem ok_bind {α β : Type} (a : α) (f : α → Except Exc β) : (Except.ok a >>= f) = f a := rfl

theorem bind_of_ok {α β : Type} {x : Except Exc α} {f : α → Except Exc β} {a : α} (h : x = .ok a) :
    (x >>= f) = f a := by
  rw [h, ok_bind]

theorem error_bind {α β : Type} {x : Except Exc α} {f : α → Except Exc β} {e : Exc} (h : x = .error e) :
    (x >>= f) = .error e := by
  rw [h]
  rfl

theorem bind_ok {α β : Type} {x : Except Exc α} {f : α → Except Exc β} {b : β} (h : (x >>= f) = .ok b) :
    ∃ a, x = .ok a ∧ f a = .ok b := by
  cases x with
  | error e => cases h
  | ok a => exact ⟨a, rfl, h⟩

theorem bind_error {α β : Type} {x : Except Exc α} {f : α → Except Exc β} {e : Exc} (h : (x >>= f) = .error e) :
    x = .error e ∨ ∃ a, x = .ok a ∧ f a = .error e := by
  cases x with
  | error x => exact Or.inl (congrArg Except.error (Except.error.inj h))
  | ok a => exact Or.inr ⟨a, rfl, h⟩

theorem map_eq_ok {α β : Type} {x : Except Exc α} {f : α → β} {b : β} (h : x.map f = .ok b) : ∃ a,
    x = .ok a ∧ b = f a := by
  cases x with
  | error e => cases h
  | ok a => exact ⟨a, rfl, (Except.ok.inj h).symm⟩

end Cer
