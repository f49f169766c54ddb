import Cer.Lib.JsonText

/-!
# Reading back what was written

Each written character, number and value is read back as itself, whatever
delimiter follows (`readValue_write`, by recursion on the value; the fuel is
bounded by the length of the text).  Two consequences:

    nodupKeys j → loads ft (dumps ft j) = some (sortKeys j)                   (loads_dumps)
    dumps ft a = dumps ft b → sortKeys a = sortKeys b                         (sortKeys_eq_of_dumps_eq)
-/

namespace Py

/-! ## Strings -/

theorem readHex4_hex4 (n : Nat) (h : n < 65536) (rest : List Char) :
    readHex4 (hex4 n ++ rest) = some (n, rest) := by
  have h1 := hexVal_hexDigit (n / 4096) (by omega)
  have h2 := hexVal_hexDigit (n / 256 % 16) (by omega)
  have h3 := hexVal_hexDigit (n / 16 % 16) (by omega)
  have h4 := hexVal_hexDigit (n % 16) (by omega)
  simp only [hex4, List.cons_append, List.nil_append, readHex4, h1, h2, h3, h4]
  congr 2
  omega

theorem char_valid (c : Char) : c.toNat < 0xD800 ∨ (0xDFFF < c.toNat ∧ c.toNat < 0x110000) := c.valid

theorem eq_ofNat_of_toNat {c : Char} {n : Nat} (h : c.toNat = n) : c = Char.ofNat n := by
  rw [← h, Char.ofNat_toNat]

theorem ne_of_toNat_ne {c d : Char} (h : c.toNat ≠ d.toNat) : c ≠ d := fun e => h (congrArg Char.toNat e)

theorem quoteChar_toNat : quoteChar.toNat = 34 := by decide
theorem backslash_toNat : backslash.toNat = 92 := by decide

/-- An escape is read back as the character it stands for. -/
theorem readStrBody_escape (n : Nat) (w : List Char) (c : Char) (rest : List Char)
    (h : readEscape w = some (c, rest)) :
    readStrBody (n + 1) (backslash :: w) = (readStrBody n rest).map fun p => (c :: p.1, p.2) := by
  have hq : backslash ≠ quoteChar := by decide
  simp only [readStrBody, if_neg hq, if_true, h]

theorem readEscape_hex4 (n : Nat) (h : n < 0xD800 ∨ (0xDFFF < n ∧ n < 65536)) (rest : List Char) :
    readEscape ('u' :: hex4 n ++ rest) = some (Char.ofNat n, rest) := by
  have hu : ¬('u' = quoteChar ∨ 'u' = backslash ∨ 'u' = '/') := by decide
  have hr := readHex4_hex4 n (by omega) rest
  simp only [List.cons_append, readEscape, if_neg hu, if_neg (by decide : ¬ 'u' = 'b'),
    if_neg (by decide : ¬ 'u' = 'f'),
    if_neg (by decide : ¬ 'u' = 'n'), if_neg (by decide : ¬ 'u' = 'r'),
    if_neg (by decide : ¬ 'u' = 't'), if_true, hr]
  rw [if_pos (by omega)]

theorem readEscape_pair (hi lo : Nat) (hhi : 0xD800 ≤ hi ∧ hi < 0xDC00) (hlo : 0xDC00 ≤ lo ∧ lo ≤ 0xDFFF)
    (rest : List Char) :
    readEscape ('u' :: hex4 hi ++ (backslash :: 'u' :: hex4 lo ++ rest)) =
      some (Char.ofNat (0x10000 + (hi - 0xD800) * 0x400 + (lo - 0xDC00)), rest) := by
  have hu : ¬('u' = quoteChar ∨ 'u' = backslash ∨ 'u' = '/') := by decide
  have h1 := readHex4_hex4 hi (by omega) (backslash :: 'u' :: hex4 lo ++ rest)
  have h2 := readHex4_hex4 lo (by omega) rest
  have hs : ¬(hi < 0xD800 ∨ 0xDFFF < hi) := by omega
  simp only [List.cons_append] at h1 ⊢
  simp only [readEscape, if_neg hu, if_neg (by decide : ¬ 'u' = 'b'), if_neg (by decide : ¬ 'u' = 'f'),
    if_neg (by decide : ¬ 'u' = 'n'), if_neg (by decide : ¬ 'u' = 'r'),
    if_neg (by decide : ¬ 'u' = 't'), if_true, h1,
    if_neg hs, true_and, if_pos hhi.2, h2, if_pos hlo]

theorem surrogates (n : Nat) (h : 0x10000 ≤ n ∧ n < 0x110000) :
    (0xD800 ≤ highSurrogate n ∧ highSurrogate n < 0xDC00) ∧ (0xDC00 ≤ lowSurrogate n ∧ lowSurrogate n ≤ 0xDFFF) ∧
      0x10000 + (highSurrogate n - 0xD800) * 0x400 + (lowSurrogate n - 0xDC00) = n := by
  unfold highSurrogate lowSurrogate
  omega

/-- Each written character is read back as itself. -/
theorem readStrBody_escapeChar (c : Char) (n : Nat) (rest : List Char) :
    readStrBody (n + 1) (escapeChar c ++ rest) = (readStrBody n rest).map fun p => (c :: p.1, p.2) := by
  have hv := char_valid c
  unfold escapeChar
  simp only
  split
  · next h =>
    have hc : c = quoteChar ∨ c = backslash ∨ c = '/' := by
      rcases h with h | h
      · exact Or.inl (eq_ofNat_of_toNat h)
      · exact Or.inr (Or.inl (eq_ofNat_of_toNat h))
    have he : readEscape (c :: rest) = some (c, rest) := by simp only [readEscape, if_pos hc]
    exact readStrBody_escape n _ c rest he
  split
  · next h => rw [eq_ofNat_of_toNat h]; exact readStrBody_escape n _ _ rest rfl
  split
  · next h => rw [eq_ofNat_of_toNat h]; exact readStrBody_escape n _ _ rest rfl
  split
  · next h => rw [eq_ofNat_of_toNat h]; exact readStrBody_escape n _ _ rest rfl
  split
  · next h => rw [eq_ofNat_of_toNat h]; exact readStrBody_escape n _ _ rest rfl
  split
  · next h => rw [eq_ofNat_of_toNat h]; exact readStrBody_escape n _ _ rest rfl
  split
  · next h0 _ _ _ _ _ h =>
    have hq : c ≠ quoteChar := ne_of_toNat_ne (by rw [quoteChar_toNat]; omega)
    have hb : c ≠ backslash := ne_of_toNat_ne (by rw [backslash_toNat]; omega)
    simp only [List.cons_append, List.nil_append, readStrBody, if_neg hq, if_neg hb,
      if_neg (by omega : ¬c.toNat < 32)]
  split
  · next h =>
    have he := readEscape_hex4 c.toNat (by omega) rest
    rw [Char.ofNat_toNat] at he
    exact readStrBody_escape n _ c rest he
  · next h =>
    obtain ⟨hhi, hlo, hn⟩ := surrogates c.toNat (by omega)
    have he := readEscape_pair _ _ hhi hlo rest
    rw [hn, Char.ofNat_toNat] at he
    rw [← readStrBody_escape n _ c rest he]
    generalize hex4 (highSurrogate c.toNat) = hi
    generalize hex4 (lowSurrogate c.toNat) = lo
    simp only [List.cons_append, List.append_assoc]

theorem readStrBody_write (cs : List Char) (rest : List Char) :
    ∀ n, cs.length < n → readStrBody n (cs.flatMap escapeChar ++ quoteChar :: rest) = some (cs, rest) := by
  induction cs with
  | nil =>
    intro n hn
    obtain ⟨m, rfl⟩ : ∃ m, n = m + 1 := ⟨n - 1, by simp at hn; omega⟩
    simp [readStrBody]
  | cons c cs ih =>
    intro n hn
    obtain ⟨m, rfl⟩ : ∃ m, n = m + 1 := ⟨n - 1, by simp at hn; omega⟩
    rw [List.flatMap_cons, List.append_assoc, readStrBody_escapeChar, ih m (by simp at hn; omega)]
    rfl

theorem length_le_flatMap_escape (cs : List Char) : cs.length ≤ (cs.flatMap escapeChar).length := by
  induction cs with
  | nil => simp
  | cons c cs ih =>
    have h1 : 1 ≤ (escapeChar c).length := by
      unfold escapeChar
      simp only
      repeat' split
      all_goals simp
    rw [List.flatMap_cons, List.length_append, List.length_cons]
    omega
/-! ## Numbers -/

/-- What may follow a value: nothing, a comma or a closing bracket. -/
def Delim (rest : List Char) : Prop := ∀ c r, rest = c :: r → c = ',' ∨ c = ']' ∨ c = closeBrace

theorem not_numberChar_of_delim {c : Char} {r : List Char} (h : Delim (c :: r)) : isNumberChar c = false := by
  rcases h c r rfl with rfl | rfl | rfl <;> decide

theorem takeWhile_append_of_all {p : Char → Bool} {cs rest : List Char} (h : ∀ c ∈ cs, p c = true)
    (hr : ∀ c r, rest = c :: r → p c = false) : (cs ++ rest).takeWhile p = cs := by
  induction cs with
  | nil =>
    cases rest with
    | nil => rfl
    | cons c r => simp [hr c r rfl]
  | cons c cs ih =>
    rw [List.cons_append, List.takeWhile_cons, if_pos (h c List.mem_cons_self),
      ih fun d hd => h d (List.mem_cons_of_mem _ hd)]

theorem takeWhile_number {tok rest : List Char} (h : ∀ c ∈ tok, isNumberChar c = true) (hr : Delim rest) :
    (tok ++ rest).takeWhile isNumberChar = tok :=
  takeWhile_append_of_all h fun _ _ e => not_numberChar_of_delim (e ▸ hr)

theorem toDigits_isDigit (n : Nat) : ∀ c ∈ Nat.toDigits 10 n, c.isDigit = true := fun _ hc =>
  Nat.isDigit_of_mem_toDigits (by omega) (by omega) hc

theorem head?_toDigits (n : Nat) (h : 0 < n) : (Nat.toDigits 10 n).head? ≠ some '0' := by
  induction n using Nat.strongRecOn with
  | ind n ih =>
    rcases Nat.lt_or_ge n 10 with hlt | hge
    · rw [Nat.toDigits_of_lt_base hlt]
      have : ∀ d, d < 10 → 0 < d → [Nat.digitChar d].head? ≠ some '0' := by decide
      exact this n hlt h
    · rw [Nat.toDigits_of_base_le (by omega) hge]
      have hne : Nat.toDigits 10 (n / 10) ≠ [] := Nat.toDigits_ne_nil
      rw [List.head?_append_of_ne_nil _ hne]
      exact ih (n / 10) (by omega) (by omega)

theorem isNumberChar_of_isDigit {c : Char} (h : c.isDigit = true) : isNumberChar c = true := by
  simp [isNumberChar, h]

theorem head?_toDigits_ne_minus (n : Nat) : (Nat.toDigits 10 n).head? ≠ some '-' := by
  intro h
  have hd := toDigits_isDigit n '-' (List.mem_of_mem_head? h)
  revert hd
  decide

theorem isDigitsLiteral_toDigits (n : Nat) : isDigitsLiteral (Nat.toDigits 10 n) = true := by
  rcases Nat.eq_zero_or_pos n with rfl | h
  · rfl
  · have hne : Nat.toDigits 10 n ≠ [] := Nat.toDigits_ne_nil
    simp only [isDigitsLiteral, Bool.or_eq_true, Bool.and_eq_true, bne_iff_ne, ne_eq, List.all_eq_true]
    exact Or.inr ⟨⟨hne, toDigits_isDigit n⟩, head?_toDigits n h⟩

theorem isIntLiteral_writeInt (n : Int) : isIntLiteral (writeInt n) = true := by
  cases n with
  | ofNat n =>
    have hh := head?_toDigits_ne_minus n
    unfold isIntLiteral
    split
    · next ds h =>
      have h' : Nat.toDigits 10 n = '-' :: ds := h
      rw [h'] at hh
      simp at hh
    · exact isDigitsLiteral_toDigits n
  | negSucc n => exact isDigitsLiteral_toDigits (n + 1)

theorem writeInt_chars (n : Int) : ∀ c ∈ writeInt n, (c.isDigit || c == '-') = true := by
  intro c hc
  cases n with
  | ofNat n =>
    have := toDigits_isDigit n c hc
    simp [this]
  | negSucc n =>
    rcases List.mem_cons.1 hc with rfl | hc
    · decide
    · have := toDigits_isDigit (n + 1) c hc
      simp [this]

theorem not_isFloatLiteral_writeInt (n : Int) : isFloatLiteral (writeInt n) = false := by
  have h : (writeInt n ++ []).takeWhile (fun c => c.isDigit || c == '-') = writeInt n :=
    takeWhile_append_of_all (writeInt_chars n) (by simp)
  rw [List.append_nil] at h
  unfold isFloatLiteral
  simp only [h, List.drop_length]

theorem readInt_writeInt (n : Int) : readInt (writeInt n) = some n := by
  unfold readInt
  rw [if_pos (isIntLiteral_writeInt n)]
  cases n with
  | ofNat n =>
    have hh := head?_toDigits_ne_minus n
    simp only [writeInt]
    split
    · next ds h => rw [h] at hh; simp at hh
    · next ds => rw [Nat.ofDigitChars_ten_toDigits]; rfl
  | negSucc n =>
    simp only [writeInt]
    rw [Nat.ofDigitChars_ten_toDigits]
    rfl

section
variable (ft : FloatText)

theorem readNumber_int (n : Int) {rest : List Char} (hr : Delim rest) :
    readNumber ft (writeInt n ++ rest) = some (.int n, rest) := by
  have hch : ∀ c ∈ writeInt n, isNumberChar c = true := by
    intro c hc
    have := writeInt_chars n c hc
    simp only [Bool.or_eq_true] at this
    rcases this with h | h
    · exact isNumberChar_of_isDigit h
    · simp [isNumberChar, h]
  unfold readNumber
  simp only [takeWhile_number hch hr, List.drop_left, not_isFloatLiteral_writeInt, Bool.false_eq_true, if_false,
    readInt_writeInt, Option.map_some]

theorem readNumber_float (x : Binary64) {rest : List Char} (hr : Delim rest) :
    readNumber ft (ft.repr x ++ rest) = some (.float (.fin x), rest) := by
  unfold readNumber
  simp only [takeWhile_number (ft.chars x) hr, List.drop_left, ft.literal x, if_true, ft.parse_repr]

/-! ## The round trip -/

/-- A value's text starts with a character that is no blank. -/
theorem skipWs_cons {c : Char} {cs : List Char} (h : isWs c = false) : skipWs (c :: cs) = c :: cs := by
  simp [skipWs, h]

theorem isWs_of_numberChar {c : Char} (h : isNumberChar c = true) : isWs c = false := by
  cases hw : isWs c with
  | false => rfl
  | true =>
    simp only [isWs, Bool.or_eq_true, beq_iff_eq] at hw
    rcases hw with ((rfl | rfl) | rfl) | rfl <;> revert h <;> decide

/-- A text that starts like a number is read as one. -/
theorem readValue_number (n : Nat) (c : Char) (cs : List Char) (hc : isNumberChar c = true)
    (hd : c = '-' → cs.head? ≠ some 'I') : readValue ft (n + 1) (c :: cs) = readNumber ft (c :: cs) := by
  have hne : ∀ e, isNumberChar e = false → c ≠ e := by
    rintro e he rfl
    rw [hc] at he
    cases he
  have hword : ∀ e w, isNumberChar e = false → afterWord (e :: w) (c :: cs) = none := by
    intro e w he
    have : ¬ (c :: cs).take (e :: w).length = e :: w := by
      intro h
      simp only [List.length_cons, List.take_succ_cons, List.cons.injEq] at h
      exact hne e he h.1
    simp only [afterWord, if_neg this]
  have hinf : afterWord ['-', 'I', 'n', 'f', 'i', 'n', 'i', 't', 'y'] (c :: cs) = none := by
    have : ¬ (c :: cs).take 9 = ['-', 'I', 'n', 'f', 'i', 'n', 'i', 't', 'y'] := by
      intro h
      rw [List.take_succ_cons, List.cons.injEq] at h
      cases cs with
      | nil => simp at h
      | cons d cs =>
        rw [List.take_succ_cons, List.cons.injEq] at h
        exact hd h.1 (by rw [h.2.1]; rfl)
    simp only [afterWord, List.length_cons, List.length_nil, Nat.zero_add, Nat.reduceAdd, if_neg this]
  rw [readValue, skipWs_cons (isWs_of_numberChar hc)]
  simp only [if_neg (hne quoteChar (by decide)), if_neg (hne '[' (by decide)), if_neg (hne openBrace (by decide)),
    hword 'n' _ (by decide), hword 't' _ (by decide), hword 'f' _ (by decide), hword 'N' _ (by decide),
    hword 'I' _ (by decide), hinf]

theorem readValue_int (n : Nat) (m : Int) {rest : List Char} (hr : Delim rest) :
    readValue ft (n + 1) (writeInt m ++ rest) = some (.int m, rest) := by
  have hread := readNumber_int ft m hr
  cases m with
  | ofNat k =>
    cases ht : Nat.toDigits 10 k with
    | nil => exact absurd ht Nat.toDigits_ne_nil
    | cons c ds =>
      have hd := toDigits_isDigit k c (by rw [ht]; exact List.mem_cons_self)
      have hm : c ≠ '-' := by rintro rfl; revert hd; decide
      rw [writeInt, ht] at hread ⊢
      rw [List.cons_append, readValue_number ft n c _ (isNumberChar_of_isDigit hd) fun e => absurd e hm]
      exact hread
  | negSucc k =>
    rw [writeInt, List.cons_append] at hread ⊢
    rw [readValue_number ft n '-' _ (by decide), hread]
    intro _ hI
    cases ht : Nat.toDigits 10 (k + 1) with
    | nil => exact Nat.toDigits_ne_nil ht
    | cons c ds =>
      rw [ht] at hI
      simp only [List.cons_append, List.head?_cons, Option.some.injEq] at hI
      subst hI
      have hd := toDigits_isDigit (k + 1) 'I' (by rw [ht]; exact List.mem_cons_self)
      revert hd
      decide

/-- A float literal has a second character. -/
theorem floatLiteral_two {cs : List Char} (h : isFloatLiteral cs = true) : ∃ c d ds, cs = c :: d :: ds := by
  match cs, h with
  | [], h => exact absurd h (by decide)
  | [c], h =>
    exfalso
    unfold isFloatLiteral at h
    cases hc : (c.isDigit || c == '-') with
    | true => simp [hc] at h
    | false =>
      simp only [List.takeWhile_cons, hc, Bool.false_eq_true, if_false, List.length_nil, List.drop_zero] at h
      split at h
      · cases h
      · simp [isIntLiteral, isDigitsLiteral] at h
      · simp [isIntLiteral, isDigitsLiteral] at h
  | c :: d :: ds, _ => exact ⟨c, d, ds, rfl⟩

theorem readValue_float (n : Nat) (x : Binary64) {rest : List Char} (hr : Delim rest) :
    readValue ft (n + 1) (ft.repr x ++ rest) = some (.float (.fin x), rest) := by
  have hread := readNumber_float ft x hr
  obtain ⟨c, d, ds, ht⟩ := floatLiteral_two (ft.literal x)
  have hc := ft.chars x c (by rw [ht]; exact List.mem_cons_self)
  have hd := ft.chars x d (by rw [ht]; exact List.mem_cons_of_mem _ List.mem_cons_self)
  rw [ht] at hread ⊢
  rw [List.cons_append, readValue_number ft n c _ hc, ← List.cons_append, hread]
  intro _ hI
  simp only [List.cons_append, List.head?_cons, Option.some.injEq] at hI
  subst hI
  revert hd
  decide

theorem writeStr_append (s : String) (rest : List Char) :
    writeStr s ++ rest = quoteChar :: (s.toList.flatMap escapeChar ++ quoteChar :: rest) := by
  simp [writeStr]

theorem length_writeStr (s : String) : s.toList.length + 2 ≤ (writeStr s).length := by
  have := length_le_flatMap_escape s.toList
  simp only [writeStr, List.cons_append, List.length_cons, List.length_append, List.length_nil]
  omega

theorem readValue_str (n : Nat) (s : String) (rest : List Char) (hn : s.toList.length < n) :
    readValue ft (n + 1) (writeStr s ++ rest) = some (.str s, rest) := by
  rw [writeStr_append, readValue, skipWs_cons (by decide)]
  simp only [if_true, readStrBody_write s.toList rest n hn, Option.map_some, String.ofList_toList]

/-- The first character of a value's text is no blank and closes nothing. -/
theorem write_head (j : Json) : ∃ c t, write ft j = c :: t ∧ isWs c = false ∧ c ≠ ']' ∧ c ≠ closeBrace := by
  have hnum : ∀ c, isNumberChar c = true → isWs c = false ∧ c ≠ ']' ∧ c ≠ closeBrace := by
    intro c hc
    refine ⟨isWs_of_numberChar hc, ?_, ?_⟩ <;> (rintro rfl; revert hc; decide)
  match j with
  | .null => exact ⟨_, _, rfl, by decide⟩
  | .bool true => exact ⟨_, _, rfl, by decide⟩
  | .bool false => exact ⟨_, _, rfl, by decide⟩
  | .int n =>
    cases h : writeInt n with
    | nil =>
      have := isIntLiteral_writeInt n
      rw [h] at this
      exact absurd this (by decide)
    | cons c t =>
      refine ⟨c, t, h, hnum c ?_⟩
      have := writeInt_chars n c (by rw [h]; exact List.mem_cons_self)
      simp only [Bool.or_eq_true] at this
      rcases this with h | h
      · exact isNumberChar_of_isDigit h
      · simp [isNumberChar, h]
  | .float .nan => exact ⟨_, _, rfl, by decide⟩
  | .float (.inf true) => exact ⟨_, _, rfl, by decide⟩
  | .float (.inf false) => exact ⟨_, _, rfl, by decide⟩
  | .float (.fin x) =>
    obtain ⟨c, d, ds, ht⟩ := floatLiteral_two (ft.literal x)
    exact ⟨c, d :: ds, ht, hnum c (ft.chars x c (by rw [ht]; exact List.mem_cons_self))⟩
  | .str s => exact ⟨_, _, rfl, by decide⟩
  | .arr [] => exact ⟨_, _, rfl, by decide⟩
  | .arr (x :: xs) => exact ⟨'[', write ft x ++ writeElems ft xs, by simp [write], by decide⟩
  | .obj [] => exact ⟨_, _, rfl, by decide⟩
  | .obj ((k, v) :: kvs) =>
    exact ⟨openBrace, writeStr k ++ ':' :: write ft v ++ writeMembers ft kvs, by simp [write], by decide⟩

theorem delim_elems (xs : List Json) (rest : List Char) : Delim (writeElems ft xs ++ rest) := by
  cases xs <;> (rintro c r h; simp only [writeElems, List.cons_append, List.cons.injEq] at h; simp [← h.1])

theorem delim_members (kvs : List (String × Json)) (rest : List Char) : Delim (writeMembers ft kvs ++ rest) := by
  cases kvs <;> (rintro c r h; simp only [writeMembers, List.cons_append, List.cons.injEq] at h; simp [← h.1])

theorem setItem_new (kvs : List (String × Json)) (k : String) (v : Json) (h : k ∉ kvs.map Prod.fst) :
    setItem kvs k v = kvs ++ [(k, v)] := by
  have : kvs.any (·.1 == k) = false := by
    rw [List.any_eq_false]
    intro kv hkv he
    exact h (List.mem_map.2 ⟨kv, hkv, by simpa using he⟩)
  simp [setItem, this]

/-- A mapping with distinct keys is built as it is written. -/
theorem dictOf_nodup (kvs : List (String × Json)) (h : (kvs.map Prod.fst).Nodup) : dictOf kvs = kvs := by
  have key : ∀ (todo done : List (String × Json)), ((done ++ todo).map Prod.fst).Nodup →
      todo.foldl (fun d kv => setItem d kv.1 kv.2) done = done ++ todo := by
    intro todo
    induction todo with
    | nil => intro done _; simp
    | cons kv todo ih =>
      intro done hd
      have hnew : kv.1 ∉ done.map Prod.fst := by
        intro hmem
        rw [List.map_append, List.nodup_append] at hd
        exact hd.2.2 _ hmem _ (by simp) rfl
      rw [List.foldl_cons, setItem_new done kv.1 kv.2 hnew, ih]
      · simp
      · simpa using hd
  simpa [dictOf] using key kvs [] (by simpa using h)

theorem readMember_write (n : Nat) (k : String) (v : Json) (rest : List Char)
    (hk : k.toList.length < n)
    (hv : readValue ft n (write ft v ++ rest) = some (v, rest)) :
    readMember ft (n + 1) (writeStr k ++ ':' :: (write ft v ++ rest)) = some ((k, v), rest) := by
  rw [writeStr_append, readMember, skipWs_cons (by decide)]
  simp only [if_true, readStrBody_write k.toList _ n hk]
  rw [skipWs_cons (by decide)]
  simp only [hv, Option.map_some, String.ofList_toList]

mutual

/-- A written value is read back, whatever delimiter follows it. -/
theorem readValue_write : ∀ (j : Json) (n : Nat) (rest : List Char), nodupKeys j = true →
    (write ft j ++ rest).length < n → Delim rest → readValue ft n (write ft j ++ rest) = some (j, rest)
  | j, 0, _, _, hn, _ => absurd hn (Nat.not_lt_zero _)
  | .null, n + 1, rest, _, _, _ => by
    rw [write, List.cons_append, readValue, skipWs_cons (by decide)]
    rfl
  | .bool true, n + 1, rest, _, _, _ => by
    rw [write, List.cons_append, readValue, skipWs_cons (by decide)]
    rfl
  | .bool false, n + 1, rest, _, _, _ => by
    rw [write, List.cons_append, readValue, skipWs_cons (by decide)]
    rfl
  | .int m, n + 1, rest, _, _, hr => readValue_int ft n m hr
  | .float .nan, n + 1, rest, _, _, _ => by
    rw [write, List.cons_append, readValue, skipWs_cons (by decide)]
    rfl
  | .float (.inf false), n + 1, rest, _, _, _ => by
    rw [write, List.cons_append, readValue, skipWs_cons (by decide)]
    rfl
  | .float (.inf true), n + 1, rest, _, _, _ => by
    rw [write, List.cons_append, readValue, skipWs_cons (by decide)]
    rfl
  | .float (.fin x), n + 1, rest, _, _, hr => readValue_float ft n x hr
  | .str s, n + 1, rest, _, hn, _ => by
    have := length_writeStr s
    rw [write, List.length_append] at hn
    exact readValue_str ft n s rest (by omega)
  | .arr [], n + 1, rest, _, _, _ => by
    rw [write, List.cons_append, readValue, skipWs_cons (by decide)]
    rfl
  | .arr (x :: xs), n + 1, rest, h, hn, _ => by
    rw [nodupKeys, nodupKeysList, Bool.and_eq_true] at h
    have htext : write ft (.arr (x :: xs)) ++ rest = '[' :: (write ft x ++ (writeElems ft xs ++ rest)) := by
      simp [write]
    rw [htext] at hn ⊢
    simp only [List.length_cons, List.length_append] at hn
    have hx := readValue_write x n (writeElems ft xs ++ rest) h.1 (by simp only [List.length_append]; omega)
      (delim_elems ft xs rest)
    obtain ⟨c, t, hw, hws, hb, -⟩ := write_head ft x
    have hpos : 0 < (write ft x).length := by rw [hw]; simp
    have hxs := readElems_write xs n rest h.2 (by simp only [List.length_append]; omega)
    rw [readValue, skipWs_cons (by decide)]
    simp only [if_neg (by decide : ¬ '[' = quoteChar), if_true]
    have hskip : skipWs (write ft x ++ (writeElems ft xs ++ rest)) = write ft x ++ (writeElems ft xs ++ rest) := by
      rw [hw, List.cons_append, skipWs_cons hws]
    rw [hskip]
    split
    · next r he =>
      rw [hw, List.cons_append, List.cons.injEq] at he
      exact absurd he.1 hb
    · rw [hx]
      simp only [hxs, Option.map_some]
  | .obj [], n + 1, rest, _, _, _ => by
    rw [write, List.cons_append, readValue, skipWs_cons (by decide)]
    rfl
  | .obj ((k, v) :: kvs), n + 1, rest, h, hn, _ => by
    rw [nodupKeys, nodupKeysFields, Bool.and_eq_true, Bool.and_eq_true, decide_eq_true_eq] at h
    have htext : write ft (.obj ((k, v) :: kvs)) ++ rest =
        openBrace :: (writeStr k ++ ':' :: (write ft v ++ (writeMembers ft kvs ++ rest))) := by
      simp [write]
    rw [htext] at hn ⊢
    have hlen := length_writeStr k
    simp only [List.length_cons, List.length_append] at hn
    obtain ⟨m, rfl⟩ : ∃ m, n = m + 1 := ⟨n - 1, by omega⟩
    have hv := readValue_write v m (writeMembers ft kvs ++ rest) h.2.1 (by simp only [List.length_append]; omega)
      (delim_members ft kvs rest)
    have hkv := readMember_write ft m k v _ (by omega) hv
    have hkvs := readMembers_write kvs (m + 1) rest h.2.2 (by simp only [List.length_append]; omega)
    rw [readValue, skipWs_cons (by decide)]
    simp only [if_neg (by decide : ¬openBrace = quoteChar), if_neg (by decide : ¬openBrace = '['), if_true]
    rw [writeStr_append] at hkv ⊢
    rw [skipWs_cons (by decide)]
    simp only [if_neg (by decide : ¬quoteChar = closeBrace), hkv, hkvs, Option.map_some, dictOf_nodup _ h.1]

theorem readElems_write : ∀ (xs : List Json) (n : Nat) (rest : List Char), nodupKeysList xs = true →
    (writeElems ft xs ++ rest).length < n → readElems ft n (writeElems ft xs ++ rest) = some (xs, rest)
  | _, 0, _, _, hn => absurd hn (Nat.not_lt_zero _)
  | [], n + 1, rest, _, _ => by
    rw [writeElems, List.cons_append, readElems, skipWs_cons (by decide)]
    rfl
  | x :: xs, n + 1, rest, h, hn => by
    rw [nodupKeysList, Bool.and_eq_true] at h
    have htext : writeElems ft (x :: xs) ++ rest = ',' :: (write ft x ++ (writeElems ft xs ++ rest)) := by
      simp [writeElems]
    rw [htext] at hn ⊢
    simp only [List.length_cons, List.length_append] at hn
    have hx := readValue_write x n (writeElems ft xs ++ rest) h.1 (by simp only [List.length_append]; omega)
      (delim_elems ft xs rest)
    have hxs := readElems_write xs n rest h.2 (by simp only [List.length_append]; omega)
    rw [readElems, skipWs_cons (by decide)]
    simp only [if_neg (by decide : ¬ ',' = ']'), if_true, hx, hxs, Option.map_some]

theorem readMembers_write : ∀ (kvs : List (String × Json)) (n : Nat) (rest : List Char),
    nodupKeysFields kvs = true →
    (writeMembers ft kvs ++ rest).length < n → readMembers ft n (writeMembers ft kvs ++ rest) = some (kvs, rest)
  | _, 0, _, _, hn => absurd hn (Nat.not_lt_zero _)
  | [], n + 1, rest, _, _ => by
    rw [writeMembers, List.cons_append, readMembers, skipWs_cons (by decide)]
    rfl
  | (k, v) :: kvs, n + 1, rest, h, hn => by
    rw [nodupKeysFields, Bool.and_eq_true] at h
    have htext : writeMembers ft ((k, v) :: kvs) ++ rest =
        ',' :: (writeStr k ++ ':' :: (write ft v ++ (writeMembers ft kvs ++ rest))) := by
      simp [writeMembers]
    rw [htext] at hn ⊢
    have hlen := length_writeStr k
    simp only [List.length_cons, List.length_append] at hn
    obtain ⟨m, rfl⟩ : ∃ m, n = m + 1 := ⟨n - 1, by omega⟩
    have hv := readValue_write v m (writeMembers ft kvs ++ rest) h.1 (by simp only [List.length_append]; omega)
      (delim_members ft kvs rest)
    have hkv := readMember_write ft m k v _ (by omega) hv
    have hkvs := readMembers_write kvs (m + 1) rest h.2 (by simp only [List.length_append]; omega)
    rw [readMembers, skipWs_cons (by decide)]
    simp only [if_neg (by decide : ¬ ',' = closeBrace), if_true, hkv, hkvs, Option.map_some]

end

/-- A compact text reads back, its members in the order they were written. -/
theorem loads_write (j : Json) (h : nodupKeys j = true) : loads ft (String.ofList (write ft j)) = some j := by
  have hread := readValue_write ft j ((write ft j).length + 1) [] h (by simp) (by intro c r hcr; cases hcr)
  rw [List.append_nil] at hread
  unfold loads
  rw [String.toList_ofList, hread]
  rfl

/-- **Round trip.**  `json.loads(json.dumps(j, sort_keys=True))` is `j` with its keys sorted. -/
theorem loads_dumps (j : Json) (h : nodupKeys j = true) : loads ft (dumps ft j) = some (sortKeys j) :=
  loads_write ft (sortKeys j) (nodupKeys_sortKeys j h)

/-- Two values with one canonical text differ at most in the order of their keys. -/
theorem sortKeys_eq_of_dumps_eq {a b : Json} (ha : nodupKeys a = true) (hb : nodupKeys b = true)
    (h : dumps ft a = dumps ft b) : sortKeys a = sortKeys b := by
  have h1 := loads_dumps ft a ha
  rw [h, loads_dumps ft b hb] at h1
  exact (Option.some.inj h1).symm

end

end Py
