import Cer.Lib.Json

/-!
# Table constraints of an SQL database

A row is seen as its columns' values.  `Schema` holds what a table declares (NOT NULL,
PRIMARY KEY, UNIQUE with an optional `WHERE c IS NOT NULL`, FOREIGN KEY) and `violation`
is the first constraint a new row breaks; `violation_eq_none` is the one rule for
showing that a row is accepted.
-/

namespace Sql

inductive Value
  | null
  | integer (n : Int)
  | real (f : Py.PyFloat)
  | text (s : String)
deriving DecidableEq

/-- A row: each column's name and value. -/
abbrev Columns := List (String × Value)

def Columns.get (row : Columns) (column : String) : Value := (row.lookup column).getD .null

/-- A text column that may be NULL. -/
def optText : Option String → Value
  | none => .null
  | some s => .text s

/-- A float bound as a parameter: SQLite stores a NaN as NULL. -/
def bindReal : Option Py.PyFloat → Option Py.PyFloat
  | some .nan => none
  | f => f

def optReal : Option Py.PyFloat → Value
  | none => .null
  | some f => .real f

structure UniqueIndex where
  name : String
  columns : List String
  /-- `WHERE c IS NOT NULL` of a partial index. -/
  whereNotNull : Option String
deriving DecidableEq

structure ForeignKey (T : Type) where
  column : String
  parent : T
  parentColumn : String
deriving DecidableEq

structure Schema (T : Type) where
  name : String
  notNull : List String
  primaryKey : List String
  uniques : List UniqueIndex
  foreignKeys : List (ForeignKey T)

variable {T : Type}

/-- `a = b` in SQL is true: NULL equals nothing. -/
def sqlEq (a b : Value) : Bool := a != .null && a == b

/-- Two rows agree on every one of the columns. -/
def sameOn (columns : List String) (a b : Columns) : Bool := columns.all fun c => sqlEq (a.get c) (b.get c)

/-- A partial index covers the row. -/
def UniqueIndex.covers (ix : UniqueIndex) (row : Columns) : Bool :=
  match ix.whereNotNull with
  | none => true
  | some c => row.get c != .null

def UniqueIndex.clash (ix : UniqueIndex) (a b : Columns) : Bool :=
  ix.covers a && ix.covers b && sameOn ix.columns a b

/-- The parent row a foreign key asks for exists. -/
def ForeignKey.satisfied (fk : ForeignKey T) (parents : T → List Columns) (row : Columns) : Bool :=
  row.get fk.column == .null || (parents fk.parent).any fun p => sqlEq (p.get fk.parentColumn) (row.get fk.column)

/-- The constraint a row breaks beside the other rows of its table, if there is one. -/
def Schema.violation (s : Schema T) (others : List Columns) (parents : T → List Columns) (row : Columns) :
    Option String :=
  match s.notNull.find? fun c => row.get c == .null with
  | some c => some s!"NOT NULL constraint failed: {s.name}.{c}"
  | none =>
    if others.any (sameOn s.primaryKey row) then some s!"UNIQUE constraint failed: {s.name} primary key"
    else match s.uniques.find? fun ix => others.any (ix.clash row) with
      | some ix => some s!"UNIQUE constraint failed: index {ix.name}"
      | none => match s.foreignKeys.find? fun fk => !fk.satisfied parents row with
        | some fk => some s!"FOREIGN KEY constraint failed: {s.name}.{fk.column}"
        | none => none

/-- A Python integer SQLite can bind. -/
def fitsInt64 (v : Value) : Bool :=
  match v with
  | .integer n => -2 ^ 63 ≤ n && n < 2 ^ 63
  | _ => true

def bindable (row : Columns) : Bool := row.all fun cv => fitsInt64 cv.2

@[simp] theorem fitsInt64_text (s : String) : fitsInt64 (.text s) = true := rfl

@[simp] theorem fitsInt64_optText (s : Option String) : fitsInt64 (optText s) = true := by
  cases s <;> rfl

@[simp] theorem fitsInt64_optReal (f : Option Py.PyFloat) : fitsInt64 (optReal f) = true := by
  cases f <;> rfl

/-! ## Lemmas -/

/-- A row with all its columns set, its keys free and its parents present breaks nothing. -/
theorem violation_eq_none {s : Schema T} {others : List Columns} {parents : T → List Columns} {row : Columns}
    (hnull : ∀ c ∈ s.notNull, row.get c ≠ .null) (hpk : ∀ o ∈ others, sameOn s.primaryKey row o = false)
    (huniq : ∀ ix ∈ s.uniques, ∀ o ∈ others, ix.clash row o = false)
    (hfk : ∀ fk ∈ s.foreignKeys, fk.satisfied parents row = true) : s.violation others parents row = none := by
  have h1 : (s.notNull.find? fun c => row.get c == .null) = none := by
    rw [List.find?_eq_none]
    intro c hc
    simpa using hnull c hc
  have h2 : others.any (sameOn s.primaryKey row) = false := by
    rw [List.any_eq_false]
    intro o ho
    simpa using hpk o ho
  have h3 : (s.uniques.find? fun ix => others.any (ix.clash row)) = none := by
    rw [List.find?_eq_none]
    intro ix hix
    have : others.any (ix.clash row) = false := by
      rw [List.any_eq_false]
      intro o ho
      simpa using huniq ix hix o ho
    simpa using this
  have h4 : (s.foreignKeys.find? fun fk => !fk.satisfied parents row) = none := by
    rw [List.find?_eq_none]
    intro fk hfk'
    simpa using hfk fk hfk'
  unfold Schema.violation
  rw [h1, h2, h3, h4]
  rfl

theorem sqlEq_text (a b : String) : sqlEq (.text a) (.text b) = (a == b) := by
  show (Value.text a != .null && Value.text a == .text b) = (a == b)
  by_cases h : a = b
  · subst h
    rw [beq_self_eq_true, beq_self_eq_true]
    rfl
  · have hv : (Value.text a == Value.text b) = false := by
      rw [beq_eq_false_iff_ne]
      intro he
      exact h (Value.text.inj he)
    rw [hv, Bool.and_false, beq_eq_false_iff_ne.2 h]

@[simp] theorem sqlEq_null_left (v : Value) : sqlEq .null v = false := by
  simp [sqlEq]

@[simp] theorem sqlEq_null_right (v : Value) : sqlEq v .null = false := by
  cases v <;> rfl

@[simp] theorem text_ne_null (s : String) : Value.text s ≠ .null := by
  intro h
  cases h

@[simp] theorem integer_ne_null (n : Int) : Value.integer n ≠ .null := by
  intro h
  cases h

@[simp] theorem optText_some (s : String) : optText (some s) = .text s := rfl

@[simp] theorem optText_none : optText none = .null := rfl

/-- Optional texts are equal in SQL when both are there and equal. -/
theorem sqlEq_optText (a b : Option String) : sqlEq (optText a) (optText b) = (a.isSome && a == b) := by
  cases a with
  | none => simp
  | some a =>
    cases b with
    | none => simp
    | some b => simp [sqlEq_text]

end Sql
