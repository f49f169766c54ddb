import Mathlib.Logic.Function.Basic

/-!
# Files that are replaced atomically

A disk has files under their paths and temporary files under numbers.  A text is
written to a new temporary file piece by piece, synced, and moved to its path in one
step, so that a path never names part of a text.

* `Step` is one step of such a write, `Holds` what its temporary file holds meanwhile.
* `Step.holds` and `Holds.frame` keep `Holds` over a writer's own steps and over those of
  others; `Holds.replace` is the end of the write, which `Steps.exists_synced` reaches.
-/

namespace AtomicFile

variable {P B : Type}

structure Disk (P B : Type) where
  file : P → Option (List B)
  temp : Nat → Option (List B)
  /-- The next temporary file. -/
  next : Nat

def Disk.empty : Disk P B := ⟨fun _ => none, fun _ => none, 0⟩

/-- A write under way: its temporary file and how much it holds. -/
inductive Writer
  | creating
  | filling (t n : Nat)
  | synced (t : Nat)
deriving DecidableEq

def Writer.temp? : Writer → Option Nat
  | .creating => none
  | .filling t _ => some t
  | .synced t => some t

inductive Step (text : List B) : Disk P B → Writer → Disk P B → Writer → Prop
  | create (d : Disk P B) : Step text d .creating
      { d with temp := Function.update d.temp d.next (some []), next := d.next + 1 } (.filling d.next 0)
  | fill (d : Disk P B) (t n m : Nat) (more : n < m) (fits : m ≤ text.length) : Step text d (.filling t n)
      { d with temp := Function.update d.temp t (some (text.take m)) } (.filling t m)
  | sync (d : Disk P B) (t : Nat) : Step text d (.filling t text.length) d (.synced t)

/-- `os.replace`: the temporary file takes the place of whatever the path named. -/
def Disk.replace [DecidableEq P] (d : Disk P B) (t : Nat) (p : P) : Disk P B :=
  { d with file := Function.update d.file p (d.temp t), temp := Function.update d.temp t none }

/-- The temporary file is unlinked. -/
def Disk.discard (d : Disk P B) (t : Nat) : Disk P B := { d with temp := Function.update d.temp t none }

/-- A whole write at once. -/
def Disk.write [DecidableEq P] (d : Disk P B) (p : P) (text : List B) : Disk P B :=
  { d with file := Function.update d.file p (some text) }

/-- What the write has put into its temporary file. -/
def Holds (d : Disk P B) (text : List B) : Writer → Prop
  | .creating => True
  | .filling t n => d.temp t = some (text.take n) ∧ t < d.next
  | .synced t => d.temp t = some text ∧ t < d.next

section
variable {text : List B} {d d' : Disk P B} {w w' : Writer}

theorem Holds.lt_next (h : Holds d text w) {t : Nat} (ht : w.temp? = some t) : t < d.next := by
  cases w with
  | creating => cases ht
  | filling u n =>
    rw [← Option.some.inj ht]
    exact h.2
  | synced u =>
    rw [← Option.some.inj ht]
    exact h.2

theorem Step.file (h : Step text d w d' w') : d'.file = d.file := by
  cases h <;> rfl

theorem Step.next (h : Step text d w d' w') : d.next ≤ d'.next := by
  cases h with
  | create => exact Nat.le_succ _
  | fill _ _ _ _ _ => exact Nat.le_refl _
  | sync _ => exact Nat.le_refl _

/-- A writer keeps its temporary file, or takes a new one. -/
theorem Step.temp? (h : Step text d w d' w') {t : Nat} (ht : w'.temp? = some t) : w.temp? = some t ∨
    d.next ≤ t := by
  cases h with
  | create =>
    rw [← Option.some.inj ht]
    exact Or.inr (Nat.le_refl _)
  | fill u n m more fits => exact Or.inl ht
  | sync u => exact Or.inl ht

/-- The temporary files of others stay as they are. -/
theorem Step.temp_other (h : Step text d w d' w') {t : Nat} (ht : t < d.next) (hw : w.temp? ≠ some t) :
    d'.temp t = d.temp t := by
  cases h with
  | create =>
    refine Function.update_of_ne (fun he => ?_) _ _
    rw [he] at ht
    exact Nat.lt_irrefl _ ht
  | fill u n m more fits =>
    refine Function.update_of_ne (fun he => ?_) _ _
    rw [he] at hw
    exact hw rfl
  | sync u => rfl

theorem Step.holds (h : Step text d w d' w') (hd : Holds d text w) : Holds d' text w' := by
  cases h with
  | create =>
    refine ⟨?_, Nat.lt_succ_self _⟩
    rw [List.take_zero]
    exact Function.update_self ..
  | fill t n m more fits => exact ⟨Function.update_self .., hd.2⟩
  | sync t =>
    refine ⟨?_, hd.2⟩
    rw [hd.1, List.take_length]

/-- A write keeps its temporary file while others change only theirs. -/
theorem Holds.frame (h : Holds d text w) (ht : ∀ t, w.temp? = some t → d'.temp t = d.temp t)
    (hn : d.next ≤ d'.next) :
    Holds d' text w := by
  cases w with
  | creating => trivial
  | filling t n => exact ⟨(ht t rfl).trans h.1, Nat.lt_of_lt_of_le h.2 hn⟩
  | synced t => exact ⟨(ht t rfl).trans h.1, Nat.lt_of_lt_of_le h.2 hn⟩

/-- A write that nothing interrupts. -/
inductive Steps (text : List B) : Disk P B → Writer → Disk P B → Writer → Prop
  | refl (d : Disk P B) (w : Writer) : Steps text d w d w
  | step {d d' d'' : Disk P B} {w w' w'' : Writer} (first : Step text d w d' w')
      (rest : Steps text d' w' d'' w'') :
    Steps text d w d'' w''

theorem Steps.file (h : Steps text d w d' w') : d'.file = d.file := by
  induction h with
  | refl _ _ => rfl
  | step first _ ih => rw [ih, first.file]

theorem Steps.holds (h : Steps text d w d' w') (hd : Holds d text w) : Holds d' text w' := by
  induction h with
  | refl _ _ => exact hd
  | step first _ ih => exact ih (first.holds hd)

/-- Every write can be brought to its end. -/
theorem Steps.exists_synced (text : List B) (d : Disk P B) : ∃ d' t, Steps text d .creating d' (.synced t) := by
  have hend : ∀ d' : Disk P B, Steps text d' (.filling d.next text.length) d' (.synced d.next) :=
    fun d' => .step (.sync d' d.next) (.refl _ _)
  by_cases hlen : text.length = 0
  · have hempty := hend { d with temp := Function.update d.temp d.next (some []), next := d.next + 1 }
    rw [hlen] at hempty
    exact ⟨_, d.next, .step (.create d) hempty⟩
  · exact ⟨_, d.next, .step (.create d) (.step (.fill _ _ 0 _ (Nat.pos_of_ne_zero hlen) (Nat.le_refl _)) (hend _))⟩

variable [DecidableEq P]

/-- At the end of the write the path names the whole text. -/
theorem Holds.replace {t : Nat} (h : Holds d text (.synced t)) (p : P) : (d.replace t p).file p = some text :=
  (Function.update_self ..).trans h.1

theorem Disk.replace_file_of_ne (d : Disk P B) (t : Nat) {p q : P} (h : q ≠ p) :
    (d.replace t p).file q = d.file q :=
  Function.update_of_ne h _ _

theorem Disk.replace_temp_of_ne (d : Disk P B) {t u : Nat} (p : P) (h : u ≠ t) :
    (d.replace t p).temp u = d.temp u :=
  Function.update_of_ne h _ _

theorem Disk.write_file_self (d : Disk P B) (p : P) (text : List B) : (d.write p text).file p = some text :=
  Function.update_self ..

theorem Disk.write_file_of_ne (d : Disk P B) {p q : P} (text : List B) (h : q ≠ p) :
    (d.write p text).file q = d.file q :=
  Function.update_of_ne h _ _

end

end AtomicFile
