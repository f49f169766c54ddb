import Mathlib.Data.List.Sort
import Mathlib.Data.String.Basic
import Cer.Lib.PyText

/-!
# JSON values as Python's `json` module writes them

`Json` is what `json.loads` returns and `model_dump(mode="json")` produces: integers
and floats are different values, a mapping is a list of pairs with distinct keys.

* `sortKeys` is the value `json.dumps(v, sort_keys=True)` goes on to write: every mapping's
  items sorted by key.
* `nullNonFinite` is a free-form value as `model_dump(mode="json")` writes it: no NaN and no
  infinity in it.
* `norm` is the value up to Python's `==` (numbers by value, mappings without order), and
  `pyEq` is `==` itself, for which a NaN equals at most the very object it is.
-/

namespace Py

/-! ## Floats -/

/-- A finite binary64 value `(-1)^neg * mant * 2^exp`, in its one normal form. -/
structure Binary64 where
  neg : Bool
  mant : Nat
  exp : Int
  normal : (2 ^ 52 ≤ mant ∧ mant < 2 ^ 53 ∧ -1074 ≤ exp ∧ exp ≤ 971) ∨ (mant < 2 ^ 52 ∧ exp = -1074)
deriving DecidableEq

inductive PyFloat
  | nan
  | inf (neg : Bool)
  | fin (x : Binary64)
deriving DecidableEq

/-- The integer a finite float is equal to, if it is integral. -/
def Binary64.toInt? (x : Binary64) : Option Int :=
  let sign : Int := if x.neg then -1 else 1
  if 0 ≤ x.exp then some (sign * (x.mant * 2 ^ x.exp.toNat : Nat))
  else if x.mant % 2 ^ (-x.exp).toNat = 0 then some (sign * (x.mant / 2 ^ (-x.exp).toNat : Nat))
  else none

/-- The characters of a JSON number. -/
def isNumberChar (c : Char) : Bool := c.isDigit || c == '-' || c == '+' || c == '.' || c == 'e' || c == 'E'

/-- `0|[1-9][0-9]*`. -/
def isDigitsLiteral (ds : List Char) : Bool :=
  ds == ['0'] || (ds != [] && ds.all (·.isDigit) && ds.head? != some '0')

/-- `-?(0|[1-9][0-9]*)`. -/
def isIntLiteral : List Char → Bool
  | '-' :: ds => isDigitsLiteral ds
  | ds => isDigitsLiteral ds

/-- An optional exponent, `([eE][-+]?[0-9]+)?`. -/
def isExponent : List Char → Bool
  | [] => true
  | [_] => false
  | c :: d :: ds => (c == 'e' || c == 'E') && ds.all (·.isDigit) &&
      (d.isDigit || ((d == '-' || d == '+') && ds != []))

/-- A JSON number with a fraction or an exponent. -/
def isFloatLiteral (cs : List Char) : Bool :=
  let whole := cs.takeWhile fun c => c.isDigit || c == '-'
  match cs.drop whole.length with
  | [] => false
  | '.' :: rest =>
    let frac := rest.takeWhile (·.isDigit)
    isIntLiteral whole && frac != [] && isExponent (rest.drop frac.length)
  | rest => isIntLiteral whole && isExponent rest

/-- `float.__repr__` and `float(text)`: the text is a float literal that reads back exactly. -/
structure FloatText where
  repr : Binary64 → List Char
  parse : List Char → PyFloat
  chars : ∀ x, ∀ c ∈ repr x, isNumberChar c = true
  literal : ∀ x, isFloatLiteral (repr x) = true
  parse_repr : ∀ x, parse (repr x) = .fin x

/-! ## Values -/

inductive Json
  | null
  | bool (b : Bool)
  | int (n : Int)
  | float (f : PyFloat)
  | str (s : String)
  | arr (xs : List Json)
  | obj (kvs : List (String × Json))

mutual

def Json.decEq : (a b : Json) → Decidable (a = b)
  | .null, .null => isTrue rfl
  | .bool a, .bool b => decidable_of_iff (a = b) (by simp)
  | .int a, .int b => decidable_of_iff (a = b) (by simp)
  | .float a, .float b => decidable_of_iff (a = b) (by simp)
  | .str a, .str b => decidable_of_iff (a = b) (by simp)
  | .arr a, .arr b => match decEqList a b with
    | isTrue h => isTrue (by rw [h])
    | isFalse h => isFalse (by simpa using h)
  | .obj a, .obj b => match decEqFields a b with
    | isTrue h => isTrue (by rw [h])
    | isFalse h => isFalse (by simpa using h)
  | .null, .bool _ | .null, .int _ | .null, .float _ | .null, .str _ | .null, .arr _ | .null, .obj _
  | .bool _, .null | .bool _, .int _ | .bool _, .float _ | .bool _, .str _ | .bool _, .arr _ | .bool _, .obj _
  | .int _, .null | .int _, .bool _ | .int _, .float _ | .int _, .str _ | .int _, .arr _ | .int _, .obj _
  | .float _, .null | .float _, .bool _ | .float _, .int _ | .float _, .str _ | .float _, .arr _ | .float _, .obj _
  | .str _, .null | .str _, .bool _ | .str _, .int _ | .str _, .float _ | .str _, .arr _ | .str _, .obj _
  | .arr _, .null | .arr _, .bool _ | .arr _, .int _ | .arr _, .float _ | .arr _, .str _ | .arr _, .obj _
  | .obj _, .null | .obj _, .bool _ | .obj _, .int _ | .obj _, .float _ | .obj _, .str _ | .obj _, .arr _ =>
    isFalse (by simp)

def Json.decEqList : (a b : List Json) → Decidable (a = b)
  | [], [] => isTrue rfl
  | [], _ :: _ => isFalse (by simp)
  | _ :: _, [] => isFalse (by simp)
  | x :: xs, y :: ys => match Json.decEq x y, Json.decEqList xs ys with
    | isTrue h1, isTrue h2 => isTrue (by rw [h1, h2])
    | isFalse h, _ => isFalse (by simp [h])
    | _, isFalse h => isFalse (by simp [h])

def Json.decEqFields : (a b : List (String × Json)) → Decidable (a = b)
  | [], [] => isTrue rfl
  | [], _ :: _ => isFalse (by simp)
  | _ :: _, [] => isFalse (by simp)
  | (k, v) :: xs, (l, w) :: ys => match instDecidableEqString k l, Json.decEq v w, Json.decEqFields xs ys with
    | isTrue h1, isTrue h2, isTrue h3 => isTrue (by rw [h1, h2, h3])
    | isFalse h, _, _ => isFalse (by simp [h])
    | _, isFalse h, _ => isFalse (by simp [h])
    | _, _, isFalse h => isFalse (by simp [h])

end

instance : DecidableEq Json := Json.decEq

/-- Every value holds of a property that goes from the members of a list or mapping to it. -/
@[elab_as_elim]
theorem Json.ind {motive : Json → Prop} (null : motive .null) (bool : ∀ b, motive (.bool b))
    (int : ∀ n, motive (.int n))
    (float : ∀ f, motive (.float f)) (str : ∀ s, motive (.str s)) (arr : ∀ xs, (∀ x ∈ xs, motive x) →
      motive (.arr xs))
    (obj : ∀ kvs : List (String × Json), (∀ kv ∈ kvs, motive kv.2) → motive (.obj kvs)) (j : Json) : motive j := by
  refine @Json.rec motive (fun xs => ∀ x ∈ xs, motive x) (fun kvs => ∀ kv ∈ kvs, motive kv.2)
    (fun kv => motive kv.2)
    null bool int float str arr obj ?_ ?_ ?_ ?_ ?_ j
  · intro x hx
    cases hx
  · intro x xs hx hxs
    exact List.forall_mem_cons.2 ⟨hx, hxs⟩
  · intro kv hkv
    cases hkv
  · intro kv kvs hkv hkvs
    exact List.forall_mem_cons.2 ⟨hkv, hkvs⟩
  · intro k v hv
    exact hv

/-- The value of a key. -/
def Json.field (k : String) (kvs : List (String × Json)) : Option Json := kvs.lookup k

/-! ## Sorted keys -/

def keyLe (a b : String × Json) : Prop := a.1 ≤ b.1

instance : DecidableRel keyLe := fun a b => inferInstanceAs (Decidable (a.1 ≤ b.1))

mutual

/-- `sort_keys=True`: every mapping's items sorted by key, at every level. -/
def sortKeys : Json → Json
  | .null => .null
  | .bool b => .bool b
  | .int n => .int n
  | .float f => .float f
  | .str s => .str s
  | .arr xs => .arr (sortKeysList xs)
  | .obj kvs => .obj ((sortKeysFields kvs).insertionSort keyLe)

def sortKeysList : List Json → List Json
  | [] => []
  | x :: xs => sortKeys x :: sortKeysList xs

def sortKeysFields : List (String × Json) → List (String × Json)
  | [] => []
  | (k, v) :: kvs => (k, sortKeys v) :: sortKeysFields kvs

end

mutual

/-- Every mapping in the value has distinct keys, as a Python `dict` has. -/
def nodupKeys : Json → Bool
  | .arr xs => nodupKeysList xs
  | .obj kvs => decide (kvs.map Prod.fst).Nodup && nodupKeysFields kvs
  | .null | .bool _ | .int _ | .float _ | .str _ => true

def nodupKeysList : List Json → Bool
  | [] => true
  | x :: xs => nodupKeys x && nodupKeysList xs

def nodupKeysFields : List (String × Json) → Bool
  | [] => true
  | (_, v) :: kvs => nodupKeys v && nodupKeysFields kvs

end

instance : Std.Total keyLe := ⟨fun a b => String.le_total a.1 b.1⟩
instance : IsTrans (String × Json) keyLe := ⟨fun _ _ _ h1 h2 => String.le_trans h1 h2⟩

theorem sortKeysList_eq_map (xs : List Json) : sortKeysList xs = xs.map sortKeys := by
  induction xs with
  | nil => rfl
  | cons x xs ih => simp [sortKeysList, ih]

theorem sortKeysFields_eq_map (kvs : List (String × Json)) :
    sortKeysFields kvs = kvs.map fun kv => (kv.1, sortKeys kv.2) := by
  induction kvs with
  | nil => rfl
  | cons kv kvs ih => simp [sortKeysFields, ih]

theorem nodupKeysList_iff (xs : List Json) : nodupKeysList xs = true ↔ ∀ x ∈ xs, nodupKeys x = true := by
  induction xs with
  | nil => simp [nodupKeysList]
  | cons x xs ih => simp [nodupKeysList, ih]

theorem nodupKeysFields_iff (kvs : List (String × Json)) :
    nodupKeysFields kvs = true ↔ ∀ kv ∈ kvs, nodupKeys kv.2 = true := by
  induction kvs with
  | nil => simp [nodupKeysFields]
  | cons kv kvs ih => simp [nodupKeysFields, ih]

/-- Sorting moves pairs and sorts inside them, nothing else. -/
theorem sorted_perm (kvs : List (String × Json)) :
    ((sortKeysFields kvs).insertionSort keyLe).Perm (kvs.map fun kv => (kv.1, sortKeys kv.2)) := by
  rw [← sortKeysFields_eq_map]
  exact List.perm_insertionSort keyLe _

theorem sorted_keys_perm (kvs : List (String × Json)) :
    (((sortKeysFields kvs).insertionSort keyLe).map Prod.fst).Perm (kvs.map Prod.fst) := by
  have h := (sorted_perm kvs).map Prod.fst
  simpa [List.map_map, Function.comp_def] using h

theorem nodup_sorted_keys {kvs : List (String × Json)} (h : (kvs.map Prod.fst).Nodup) :
    (((sortKeysFields kvs).insertionSort keyLe).map Prod.fst).Nodup :=
  (sorted_keys_perm kvs).nodup_iff.2 h

mutual

theorem nodupKeys_sortKeys : ∀ j : Json, nodupKeys j = true → nodupKeys (sortKeys j) = true
  | .null, _ | .bool _, _ | .int _, _ | .float _, _ | .str _, _ => rfl
  | .arr xs, h => by
    rw [nodupKeys] at h
    rw [sortKeys, nodupKeys]
    exact nodupKeysList_sortKeys xs h
  | .obj kvs, h => by
    rw [nodupKeys, Bool.and_eq_true, decide_eq_true_eq] at h
    rw [sortKeys, nodupKeys, Bool.and_eq_true, decide_eq_true_eq]
    refine ⟨nodup_sorted_keys h.1, (nodupKeysFields_iff _).2 fun kv hkv => ?_⟩
    have hmem := (List.mem_insertionSort keyLe).1 hkv
    exact (nodupKeysFields_iff _).1 (nodupKeysFields_sortKeys kvs h.2) kv hmem

theorem nodupKeysList_sortKeys : ∀ xs : List Json, nodupKeysList xs = true →
    nodupKeysList (sortKeysList xs) = true
  | [], _ => rfl
  | x :: xs, h => by
    rw [nodupKeysList, Bool.and_eq_true] at h
    rw [sortKeysList, nodupKeysList, nodupKeys_sortKeys x h.1, nodupKeysList_sortKeys xs h.2]
    rfl

theorem nodupKeysFields_sortKeys : ∀ kvs : List (String × Json), nodupKeysFields kvs = true →
    nodupKeysFields (sortKeysFields kvs) = true
  | [], _ => rfl
  | (k, v) :: kvs, h => by
    rw [nodupKeysFields, Bool.and_eq_true] at h
    rw [sortKeysFields, nodupKeysFields, nodupKeys_sortKeys v h.1, nodupKeysFields_sortKeys kvs h.2]
    rfl

end

mutual

/-- Sorting twice is sorting once. -/
theorem sortKeys_sortKeys : ∀ j : Json, sortKeys (sortKeys j) = sortKeys j
  | .null | .bool _ | .int _ | .float _ | .str _ => rfl
  | .arr xs => by rw [sortKeys, sortKeys, sortKeysList_sortKeysList xs]
  | .obj kvs => by
    have hfix : sortKeysFields ((sortKeysFields kvs).insertionSort keyLe) =
        (sortKeysFields kvs).insertionSort keyLe := by
      rw [sortKeysFields_eq_map, List.map_congr_left (g := id), List.map_id]
      intro kv hkv
      exact sortKeysFields_fixed kvs kv ((List.mem_insertionSort keyLe).1 hkv)
    rw [sortKeys, sortKeys, hfix, (List.pairwise_insertionSort keyLe _).insertionSort_eq]

theorem sortKeysList_sortKeysList : ∀ xs : List Json, sortKeysList (sortKeysList xs) = sortKeysList xs
  | [] => rfl
  | x :: xs => by simp only [sortKeysList, sortKeys_sortKeys x, sortKeysList_sortKeysList xs]

theorem sortKeysFields_fixed : ∀ kvs : List (String × Json), ∀ kv ∈ sortKeysFields kvs,
    (kv.1, sortKeys kv.2) = id kv
  | [], kv, h => by simp [sortKeysFields] at h
  | (k, v) :: kvs, kv, h => by
    rw [sortKeysFields, List.mem_cons] at h
    rcases h with rfl | h
    · simp only [sortKeys_sortKeys v, id]
    · exact sortKeysFields_fixed kvs kv h

end

theorem lookup_eq_some_iff_mem {β : Type} {l : List (String × β)} (h : (l.map Prod.fst).Nodup)
    (k : String) (v : β) :
    l.lookup k = some v ↔ (k, v) ∈ l := by
  induction l with
  | nil => simp
  | cons kv l ih =>
    obtain ⟨k', v'⟩ := kv
    rw [List.map_cons, List.nodup_cons] at h
    rw [List.lookup_cons, List.mem_cons]
    by_cases hk : k = k'
    · subst hk
      simp only [beq_self_eq_true, Option.some.injEq, Prod.mk.injEq, true_and]
      constructor
      · rintro rfl; exact Or.inl rfl
      · rintro (rfl | hm)
        · rfl
        · exact absurd (List.mem_map.2 ⟨_, hm, rfl⟩) h.1
    · have hb : (k == k') = false := by simpa using hk
      simp only [hb, Prod.mk.injEq, hk, false_and, false_or]
      exact ih h.2

/-- A mapping's value at a key does not depend on the order of its items. -/
theorem lookup_perm {β : Type} {l l' : List (String × β)} (hp : l.Perm l')
    (h : (l.map Prod.fst).Nodup) (k : String) :
    l.lookup k = l'.lookup k := by
  apply Option.ext
  intro v
  have h' : (l'.map Prod.fst).Nodup := (hp.map Prod.fst).nodup_iff.1 h
  rw [lookup_eq_some_iff_mem h, lookup_eq_some_iff_mem h', hp.mem_iff]

theorem lookup_map_snd {β γ : Type} (f : β → γ) (l : List (String × β)) (k : String) :
    (l.map fun kv => (kv.1, f kv.2)).lookup k = (l.lookup k).map f := by
  induction l with
  | nil => rfl
  | cons kv l ih =>
    obtain ⟨k', v⟩ := kv
    rw [List.map_cons, List.lookup_cons, List.lookup_cons, ih]
    cases k == k' <;> rfl

/-- Sorting sorts the value of each key where it stands. -/
theorem lookup_sorted {kvs : List (String × Json)} (h : (kvs.map Prod.fst).Nodup) (k : String) :
    ((sortKeysFields kvs).insertionSort keyLe).lookup k = (kvs.lookup k).map sortKeys := by
  rw [lookup_perm (sorted_perm kvs) (nodup_sorted_keys h), lookup_map_snd]

/-- Mappings with one sorted form have the same keys, and values with one sorted form. -/
theorem lookup_eq_of_sortKeys_eq {kvs kvs' : List (String × Json)} (h : (kvs.map Prod.fst).Nodup)
    (h' : (kvs'.map Prod.fst).Nodup) (he : sortKeys (.obj kvs) = sortKeys (.obj kvs')) (k : String) :
    (kvs.lookup k).map sortKeys = (kvs'.lookup k).map sortKeys := by
  rw [← lookup_sorted h, ← lookup_sorted h']
  rw [sortKeys, sortKeys, Json.obj.injEq] at he
  rw [he]

/-- Two mappings with their keys in one order are equal where their lookups are. -/
theorem eq_of_lookup_eq {β : Type} {l l' : List (String × β)} (hkeys : l.map Prod.fst = l'.map Prod.fst)
    (hn : (l.map Prod.fst).Nodup) (h : ∀ k, l.lookup k = l'.lookup k) : l = l' := by
  induction l generalizing l' with
  | nil =>
    rw [List.map_nil] at hkeys
    exact (List.map_eq_nil_iff.1 hkeys.symm).symm
  | cons kv l ih =>
    obtain ⟨k, v⟩ := kv
    cases l' with
    | nil => cases hkeys
    | cons kv' l' =>
      obtain ⟨k', v'⟩ := kv'
      rw [List.map_cons, List.map_cons, List.cons.injEq] at hkeys
      obtain ⟨hk, hrest⟩ := hkeys
      dsimp only at hk
      subst hk
      rw [List.map_cons, List.nodup_cons] at hn
      have hv := h k
      rw [List.lookup_cons, List.lookup_cons, beq_self_eq_true] at hv
      have htail : ∀ j, l.lookup j = l'.lookup j := by
        intro j
        by_cases hj : j = k
        · have hnone : ∀ {m : List (String × β)}, k ∉ m.map Prod.fst → m.lookup k = none := fun hm =>
            List.lookup_eq_none_iff.2 fun p hp => by
              rw [bne_iff_ne]
              rintro rfl
              exact hm (List.mem_map_of_mem hp)
          rw [hj, hnone hn.1, hnone (hrest ▸ hn.1)]
        · have hjk := h j
          have hb : (j == k) = false := by simpa using hj
          rw [List.lookup_cons, List.lookup_cons, hb] at hjk
          exact hjk
      rw [Option.some.inj hv, ih hrest hn.2 htail]

/-! ## What a text can have -/

mutual

/-- Every integer in the value has at most `digits` digits. -/
def intsWithin (digits : Nat) : Json → Bool
  | .int n => decide (n.natAbs < 10 ^ digits)
  | .arr xs => intsWithinList digits xs
  | .obj kvs => intsWithinFields digits kvs
  | .null | .bool _ | .float _ | .str _ => true

def intsWithinList (digits : Nat) : List Json → Bool
  | [] => true
  | x :: xs => intsWithin digits x && intsWithinList digits xs

def intsWithinFields (digits : Nat) : List (String × Json) → Bool
  | [] => true
  | (_, v) :: kvs => intsWithin digits v && intsWithinFields digits kvs

end

mutual

/-- How deep lists and mappings are nested. -/
def depth : Json → Nat
  | .arr xs => depthList xs + 1
  | .obj kvs => depthFields kvs + 1
  | .null | .bool _ | .int _ | .float _ | .str _ => 0

def depthList : List Json → Nat
  | [] => 0
  | x :: xs => max (depth x) (depthList xs)

def depthFields : List (String × Json) → Nat
  | [] => 0
  | (_, v) :: kvs => max (depth v) (depthFields kvs)

end

/-! ## Finite values -/

mutual

/-- No NaN and no infinity occurs in the value. -/
def isFinite : Json → Bool
  | .float (.fin _) => true
  | .float _ => false
  | .arr xs => isFiniteList xs
  | .obj kvs => isFiniteFields kvs
  | .null | .bool _ | .int _ | .str _ => true

def isFiniteList : List Json → Bool
  | [] => true
  | x :: xs => isFinite x && isFiniteList xs

def isFiniteFields : List (String × Json) → Bool
  | [] => true
  | (_, v) :: kvs => isFinite v && isFiniteFields kvs

end

mutual

/-- The value as pydantic writes one whose type it does not know: `null` for a NaN and for an infinity. -/
def nullNonFinite : Json → Json
  | .null => .null
  | .bool b => .bool b
  | .int n => .int n
  | .float (.fin x) => .float (.fin x)
  | .float _ => .null
  | .str s => .str s
  | .arr xs => .arr (nullNonFiniteList xs)
  | .obj kvs => .obj (nullNonFiniteFields kvs)

def nullNonFiniteList : List Json → List Json
  | [] => []
  | x :: xs => nullNonFinite x :: nullNonFiniteList xs

def nullNonFiniteFields : List (String × Json) → List (String × Json)
  | [] => []
  | (k, v) :: kvs => (k, nullNonFinite v) :: nullNonFiniteFields kvs

end

theorem nullNonFiniteList_eq_map (xs : List Json) : nullNonFiniteList xs = xs.map nullNonFinite := by
  induction xs with
  | nil => rfl
  | cons x xs ih => simp [nullNonFiniteList, ih]

theorem nullNonFiniteFields_eq_map (kvs : List (String × Json)) :
    nullNonFiniteFields kvs = kvs.map fun kv => (kv.1, nullNonFinite kv.2) := by
  induction kvs with
  | nil => rfl
  | cons kv kvs ih => simp [nullNonFiniteFields, ih]

theorem isFiniteList_iff (xs : List Json) : isFiniteList xs = true ↔ ∀ x ∈ xs, isFinite x = true := by
  induction xs with
  | nil => simp [isFiniteList]
  | cons x xs ih => simp [isFiniteList, ih]

theorem isFiniteFields_iff (kvs : List (String × Json)) :
    isFiniteFields kvs = true ↔ ∀ kv ∈ kvs, isFinite kv.2 = true := by
  induction kvs with
  | nil => simp [isFiniteFields]
  | cons kv kvs ih => simp [isFiniteFields, ih]

theorem keys_nullNonFinite (kvs : List (String × Json)) :
    (nullNonFiniteFields kvs).map Prod.fst = kvs.map Prod.fst := by
  rw [nullNonFiniteFields_eq_map, List.map_map]
  rfl

theorem nodupKeys_nullNonFinite {j : Json} : nodupKeys j = true → nodupKeys (nullNonFinite j) = true := by
  induction j using Json.ind with
  | null | bool | int | str => exact id
  | float f => cases f <;> exact fun _ => rfl
  | arr xs ih =>
    intro h
    rw [nodupKeys, nodupKeysList_iff] at h
    rw [nullNonFinite, nodupKeys, nodupKeysList_iff, nullNonFiniteList_eq_map]
    intro y hy
    obtain ⟨x, hx, rfl⟩ := List.mem_map.1 hy
    exact ih x hx (h x hx)
  | obj kvs ih =>
    intro h
    rw [nodupKeys, Bool.and_eq_true, decide_eq_true_eq, nodupKeysFields_iff] at h
    rw [nullNonFinite, nodupKeys, Bool.and_eq_true, decide_eq_true_eq, nodupKeysFields_iff, keys_nullNonFinite,
      nullNonFiniteFields_eq_map]
    refine ⟨h.1, fun kv hkv => ?_⟩
    obtain ⟨x, hx, rfl⟩ := List.mem_map.1 hkv
    exact ih x hx (h.2 x hx)

/-- Sorting by key does not see what the values are. -/
theorem sortKeys_nullNonFinite (j : Json) : sortKeys (nullNonFinite j) = nullNonFinite (sortKeys j) := by
  induction j using Json.ind with
  | null | bool | int | str => rfl
  | float f => cases f <;> rfl
  | arr xs ih =>
    have hmap : (xs.map nullNonFinite).map sortKeys = (xs.map sortKeys).map nullNonFinite := by
      rw [List.map_map, List.map_map]
      exact List.map_congr_left ih
    rw [nullNonFinite, sortKeys, sortKeys, nullNonFinite, nullNonFiniteList_eq_map, nullNonFiniteList_eq_map,
      sortKeysList_eq_map, sortKeysList_eq_map, hmap]
  | obj kvs ih =>
    have hmap : sortKeysFields (nullNonFiniteFields kvs) = nullNonFiniteFields (sortKeysFields kvs) := by
      rw [sortKeysFields_eq_map, sortKeysFields_eq_map, nullNonFiniteFields_eq_map, nullNonFiniteFields_eq_map,
        List.map_map, List.map_map]
      exact List.map_congr_left fun kv hkv => congrArg (Prod.mk kv.1) (ih kv hkv)
    have hsort := List.map_insertionSort (r := keyLe) (s := keyLe)
      (fun kv : String × Json => (kv.1, nullNonFinite kv.2))
      (sortKeysFields kvs) fun _ _ _ _ => Iff.rfl
    rw [nullNonFinite, sortKeys, sortKeys, nullNonFinite, hmap, nullNonFiniteFields_eq_map,
      nullNonFiniteFields_eq_map,
      hsort]

theorem isFinite_nullNonFinite (j : Json) : isFinite (nullNonFinite j) = true := by
  induction j using Json.ind with
  | null | bool | int | str => rfl
  | float f => cases f <;> rfl
  | arr xs ih =>
    rw [nullNonFinite, isFinite, isFiniteList_iff, nullNonFiniteList_eq_map]
    intro y hy
    obtain ⟨x, hx, rfl⟩ := List.mem_map.1 hy
    exact ih x hx
  | obj kvs ih =>
    rw [nullNonFinite, isFinite, isFiniteFields_iff, nullNonFiniteFields_eq_map]
    intro kv hkv
    obtain ⟨x, hx, rfl⟩ := List.mem_map.1 hkv
    exact ih x hx

/-- A finite value is written as it is. -/
theorem nullNonFinite_of_isFinite {j : Json} : isFinite j = true → nullNonFinite j = j := by
  induction j using Json.ind with
  | null | bool | int | str => exact fun _ => rfl
  | float f =>
    intro h
    cases f with
    | fin x => rfl
    | nan | inf => cases h
  | arr xs ih =>
    intro h
    rw [isFinite, isFiniteList_iff] at h
    rw [nullNonFinite, nullNonFiniteList_eq_map,
      List.map_congr_left (g := id) fun x hx => ih x hx (h x hx), List.map_id]
  | obj kvs ih =>
    intro h
    rw [isFinite, isFiniteFields_iff] at h
    rw [nullNonFinite, nullNonFiniteFields_eq_map, List.map_congr_left (g := id) fun kv hkv =>
      congrArg (Prod.mk kv.1) (ih kv hkv (h kv hkv)), List.map_id]

/-! ## Python's `==` -/

mutual

/-- The value a number compares as: `1`, `1.0` and `True` are one value, and so are `0.0` and `-0.0`. -/
def collapse : Json → Json
  | .null => .null
  | .bool b => .int (if b then 1 else 0)
  | .int n => .int n
  | .float (.fin x) => match x.toInt? with
    | some n => .int n
    | none => .float (.fin x)
  | .float f => .float f
  | .str s => .str s
  | .arr xs => .arr (collapseList xs)
  | .obj kvs => .obj (collapseFields kvs)

def collapseList : List Json → List Json
  | [] => []
  | x :: xs => collapse x :: collapseList xs

def collapseFields : List (String × Json) → List (String × Json)
  | [] => []
  | (k, v) :: kvs => (k, collapse v) :: collapseFields kvs

end

mutual

/-- A NaN occurs in the value. -/
def hasNaN : Json → Bool
  | .float .nan => true
  | .arr xs => hasNaNList xs
  | .obj kvs => hasNaNFields kvs
  | .null | .bool _ | .int _ | .float (.inf _) | .float (.fin _) | .str _ => false

def hasNaNList : List Json → Bool
  | [] => false
  | x :: xs => hasNaN x || hasNaNList xs

def hasNaNFields : List (String × Json) → Bool
  | [] => false
  | (_, v) :: kvs => hasNaN v || hasNaNFields kvs

end

/-- The value up to the order of keys and the kind of equal numbers. -/
def norm (j : Json) : Json := collapse (sortKeys j)

/-- `a == b`.  A NaN equals no number, not even a NaN, but the members of mappings and lists are compared by
identity first: `shared` says that every NaN in the two is one and the same object. -/
def pyEq (shared : Bool) (a b : Json) : Bool := decide (norm a = norm b) && (shared || !hasNaN b)

theorem pyEq_iff {shared : Bool} {a b : Json} :
    pyEq shared a b = true ↔ norm a = norm b ∧ (shared = true ∨ hasNaN b = false) := by
  simp only [pyEq, Bool.and_eq_true, decide_eq_true_eq, Bool.or_eq_true, Bool.not_eq_true']

theorem norm_eq_of_pyEq {shared : Bool} {a b : Json} (h : pyEq shared a b = true) : norm a = norm b :=
  (pyEq_iff.1 h).1

theorem norm_sortKeys (j : Json) : norm (sortKeys j) = norm j :=
  congrArg collapse (sortKeys_sortKeys j)

theorem collapseFields_eq_map (kvs : List (String × Json)) :
    collapseFields kvs = kvs.map fun kv => (kv.1, collapse kv.2) := by
  induction kvs with
  | nil => rfl
  | cons kv kvs ih => simp [collapseFields, ih]

/-- Sorting and collapsing a mapping: its values in place, then its keys in order. -/
theorem norm_obj (kvs : List (String × Json)) :
    norm (.obj kvs) = .obj ((kvs.map fun kv => (kv.1, norm kv.2)).insertionSort keyLe) := by
  have hmap : ((sortKeysFields kvs).insertionSort keyLe).map (fun kv => (kv.1, collapse kv.2)) =
      ((sortKeysFields kvs).map fun kv => (kv.1, collapse kv.2)).insertionSort keyLe :=
    List.map_insertionSort (r := keyLe) (s := keyLe) _ _ fun _ _ _ _ => Iff.rfl
  unfold norm
  rw [sortKeys, collapse, collapseFields_eq_map, hmap, sortKeysFields_eq_map, List.map_map]
  rfl

/-- Mappings with their keys in one order are one value where their values are. -/
theorem norm_obj_eq {a b : List (String × Json)} (hkeys : a.map Prod.fst = b.map Prod.fst)
    (hn : (a.map Prod.fst).Nodup)
    (h : ∀ k, (a.lookup k).map norm = (b.lookup k).map norm) : norm (.obj a) = norm (.obj b) := by
  have hfst : ∀ l : List (String × Json), (l.map fun kv => (kv.1, norm kv.2)).map Prod.fst =
    l.map Prod.fst := fun l => by
    rw [List.map_map]
    rfl
  have hlist : (a.map fun kv => (kv.1, norm kv.2)) = b.map fun kv => (kv.1, norm kv.2) := by
    refine eq_of_lookup_eq ?_ ?_ fun k => ?_
    · rw [hfst, hfst, hkeys]
    · rw [hfst]
      exact hn
    · rw [lookup_map_snd, lookup_map_snd]
      exact h k
  rw [norm_obj, norm_obj, hlist]

/-! ## NaNs -/

theorem hasNaNList_iff (xs : List Json) : hasNaNList xs = true ↔ ∃ x ∈ xs, hasNaN x = true := by
  induction xs with
  | nil => simp [hasNaNList]
  | cons x xs ih => simp [hasNaNList, ih]

theorem hasNaNFields_iff (kvs : List (String × Json)) :
    hasNaNFields kvs = true ↔ ∃ kv ∈ kvs, hasNaN kv.2 = true := by
  induction kvs with
  | nil => simp [hasNaNFields]
  | cons kv kvs ih => simp [hasNaNFields, ih]

theorem hasNaN_of_isFinite {j : Json} : isFinite j = true → hasNaN j = false := by
  induction j using Json.ind with
  | null => exact fun _ => rfl
  | bool b => exact fun _ => rfl
  | int n => exact fun _ => rfl
  | float f => cases f <;> simp [isFinite, hasNaN]
  | str t => exact fun _ => rfl
  | arr xs ih =>
    intro h
    rw [isFinite, isFiniteList_iff] at h
    rw [hasNaN, Bool.eq_false_iff, Ne, hasNaNList_iff]
    rintro ⟨x, hx, hnan⟩
    rw [ih x hx (h x hx)] at hnan
    cases hnan
  | obj kvs ih =>
    intro h
    rw [isFinite, isFiniteFields_iff] at h
    rw [hasNaN, Bool.eq_false_iff, Ne, hasNaNFields_iff]
    rintro ⟨kv, hkv, hnan⟩
    rw [ih kv hkv (h kv hkv)] at hnan
    cases hnan

example : pyEq false (.obj [("a", .int 1), ("b", .null)]) (.obj [("b", .null), ("a", .bool true)]) =
    true := by decide

end Py
