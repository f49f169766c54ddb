import Cer.Lib.JsonRoundTrip

/-!
# When two JSON values are the same

`Json.Same` compares mappings by key, lists in order and the rest by what they are: no integer
is a float, no boolean a number.  Sorting the keys decides it (`sortKeys_eq_iff`).
-/

namespace Py

/-- The same value: mappings by key, whatever the order of their items, and lists in order. -/
inductive Json.Same : Json → Json → Prop
  | null : Json.Same .null .null
  | bool (b : Bool) : Json.Same (.bool b) (.bool b)
  | int (n : Int) : Json.Same (.int n) (.int n)
  | float (f : PyFloat) : Json.Same (.float f) (.float f)
  | str (s : String) : Json.Same (.str s) (.str s)
  | arr {xs ys : List Json} (length : xs.length = ys.length)
      (elem : ∀ (i : Nat) x y, xs[i]? = some x → ys[i]? = some y → Json.Same x y) : Json.Same (.arr xs) (.arr ys)
  | obj {kvs lws : List (String × Json)} (keys : ∀ k, (kvs.lookup k).isSome = (lws.lookup k).isSome)
      (item : ∀ k v w, kvs.lookup k = some v → lws.lookup k = some w → Json.Same v w) :
      Json.Same (.obj kvs) (.obj lws)

/-- Mappings with the same items are sorted into the same list. -/
theorem insertionSort_eq_of_lookup {l l' : List (String × Json)} (h : (l.map Prod.fst).Nodup)
    (h' : (l'.map Prod.fst).Nodup) (hl : ∀ k, l.lookup k = l'.lookup k) :
    l.insertionSort keyLe = l'.insertionSort keyLe := by
  have hmem : ∀ kv, kv ∈ l ↔ kv ∈ l' := by
    rintro ⟨k, v⟩
    rw [← lookup_eq_some_iff_mem h, ← lookup_eq_some_iff_mem h', hl]
  have hperm : (l.insertionSort keyLe).Perm (l'.insertionSort keyLe) := by
    refine (List.perm_insertionSort keyLe l).trans (List.Perm.trans ?_ (List.perm_insertionSort keyLe l').symm)
    exact (List.perm_ext_iff_of_nodup h.of_map h'.of_map).2 hmem
  refine List.Perm.eq_of_pairwise ?_ (List.pairwise_insertionSort keyLe l)
    (List.pairwise_insertionSort keyLe l') hperm
  rintro ⟨k, v⟩ ⟨k', w⟩ hkv hkw hle hle'
  obtain rfl : k = k' := String.le_antisymm hle hle'
  have hv := (lookup_eq_some_iff_mem h' k v).2 ((hmem _).1 ((List.mem_insertionSort keyLe).1 hkv))
  have hw := (lookup_eq_some_iff_mem h' k w).2 ((List.mem_insertionSort keyLe).1 hkw)
  rw [hv] at hw
  rw [Option.some.inj hw]

theorem nodupKeys_arr {xs : List Json} : nodupKeys (.arr xs) = true ↔ ∀ x ∈ xs, nodupKeys x = true := by
  rw [nodupKeys, nodupKeysList_iff]

theorem nodupKeys_obj_iff {kvs : List (String × Json)} :
    nodupKeys (.obj kvs) = true ↔ (kvs.map Prod.fst).Nodup ∧ ∀ kv ∈ kvs, nodupKeys kv.2 = true := by
  rw [nodupKeys, Bool.and_eq_true, decide_eq_true_eq, nodupKeysFields_iff]

/-- The same value has the same sorted form. -/
theorem Json.Same.sortKeys_eq {a b : Json} (h : Json.Same a b) (ha : nodupKeys a = true)
    (hb : nodupKeys b = true) :
    sortKeys a = sortKeys b := by
  induction h with
  | null | bool | int | float | str => rfl
  | @arr xs ys hlen _ ih =>
    rw [nodupKeys_arr] at ha hb
    rw [sortKeys, sortKeys, sortKeysList_eq_map, sortKeysList_eq_map]
    congr 1
    refine List.ext_getElem (by simp [hlen]) fun i hi hi' => ?_
    rw [List.length_map] at hi hi'
    rw [List.getElem_map, List.getElem_map]
    exact ih i _ _ (List.getElem?_eq_getElem hi) (List.getElem?_eq_getElem hi') (ha _ (List.getElem_mem hi))
      (hb _ (List.getElem_mem hi'))
  | @obj kvs lws hkeys _ ih =>
    rw [nodupKeys_obj_iff] at ha hb
    have hfst : ∀ l : List (String × Json), (sortKeysFields l).map Prod.fst = l.map Prod.fst := fun l => by
      rw [sortKeysFields_eq_map, List.map_map]
      rfl
    rw [sortKeys, sortKeys]
    congr 1
    refine insertionSort_eq_of_lookup (by rw [hfst]; exact ha.1) (by rw [hfst]; exact hb.1) fun k => ?_
    rw [sortKeysFields_eq_map, sortKeysFields_eq_map, lookup_map_snd, lookup_map_snd]
    have hk := hkeys k
    cases hv : kvs.lookup k with
    | none =>
      rw [hv] at hk
      rw [Option.isNone_iff_eq_none.1 (Option.isSome_eq_false_iff.1 hk.symm)]
    | some v =>
      rw [hv] at hk
      obtain ⟨w, hw⟩ := Option.isSome_iff_exists.1 hk.symm
      rw [hw]
      exact congrArg some (ih k v w hv hw (ha.2 (k, v) ((lookup_eq_some_iff_mem ha.1 k v).1 hv))
        (hb.2 (k, w) ((lookup_eq_some_iff_mem hb.1 k w).1 hw)))

/-- Values with one sorted form are the same. -/
theorem Json.same_of_sortKeys_eq {a b : Json} (ha : nodupKeys a = true) (hb : nodupKeys b = true)
    (h : sortKeys a = sortKeys b) : Json.Same a b := by
  induction a using Json.ind generalizing b with
  | null =>
    cases b <;> cases h
    exact .null
  | bool x =>
    cases b <;> cases h
    exact .bool x
  | int x =>
    cases b <;> cases h
    exact .int x
  | float x =>
    cases b <;> cases h
    exact .float x
  | str x =>
    cases b <;> cases h
    exact .str x
  | arr xs ih =>
    cases b with
    | arr ys =>
      rw [nodupKeys_arr] at ha hb
      rw [sortKeys, sortKeys, sortKeysList_eq_map, sortKeysList_eq_map] at h
      have hmap := Json.arr.inj h
      refine .arr (by simpa using congrArg List.length hmap) fun i x y hx hy => ?_
      have hi := congrArg (·[i]?) hmap
      simp only [List.getElem?_map, hx, hy, Option.map_some] at hi
      have hxs := List.mem_of_getElem? hx
      exact ih x hxs (ha x hxs) (hb y (List.mem_of_getElem? hy)) (Option.some.inj hi)
    | _ => cases h
  | obj kvs ih =>
    cases b with
    | obj lws =>
      rw [nodupKeys_obj_iff] at ha hb
      have hl := lookup_eq_of_sortKeys_eq ha.1 hb.1 h
      refine .obj (fun k => ?_) fun k v w hv hw => ?_
      · have hk := congrArg Option.isSome (hl k)
        rwa [Option.isSome_map, Option.isSome_map] at hk
      · have hk := hl k
        rw [hv, hw] at hk
        have hkvs := (lookup_eq_some_iff_mem ha.1 k v).1 hv
        have hlws := (lookup_eq_some_iff_mem hb.1 k w).1 hw
        exact ih _ hkvs (ha.2 _ hkvs) (hb.2 _ hlws) (Option.some.inj hk)
    | _ => cases h

theorem sortKeys_eq_iff {a b : Json} (ha : nodupKeys a = true) (hb : nodupKeys b = true) :
    sortKeys a = sortKeys b ↔ Json.Same a b :=
  ⟨Json.same_of_sortKeys_eq ha hb, fun h => h.sortKeys_eq ha hb⟩

end Py
