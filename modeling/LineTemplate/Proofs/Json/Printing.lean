import LineTemplate.Proofs.Expressions.Numerals
import LineTemplate.Proofs.Json.Reading

/-!
# JSON that is printed

The compact text of a value is read back as that value, with the fields of its objects in their
order. Numbers that are floats are left out, since the reader need not give the nearest float.

Main statement: `ofText?_compact`.
-/

namespace LineTemplate.Json

open Number

mutual

/-- No number in the value is a float. -/
def floatFree : Json → Bool
  | float _ => false
  | arr items => floatFreeItems items
  | obj fields => floatFreeFields fields
  | null | bool _ | int _ | str _ => true

def floatFreeItems : List Json → Bool
  | [] => true
  | item :: rest => floatFree item && floatFreeItems rest

def floatFreeFields : List (Text × Json) → Bool
  | [] => true
  | (_, value) :: rest => floatFree value && floatFreeFields rest

end

theorem floatFree_arr {items : List Json} :
    (arr items).floatFree = true ↔ ∀ item ∈ items, item.floatFree = true := by
  rw [floatFree]
  induction items with
  | nil => simp [floatFreeItems]
  | cons item rest ih => rw [floatFreeItems, Bool.and_eq_true, ih, List.forall_mem_cons]

theorem floatFree_obj {fields : List (Text × Json)} :
    (obj fields).floatFree = true ↔ ∀ field ∈ fields, field.2.floatFree = true := by
  rw [floatFree]
  induction fields with
  | nil => simp [floatFreeFields]
  | cons field rest ih => rw [floatFreeFields, Bool.and_eq_true, ih, List.forall_mem_cons]

/-- What may follow a value: nothing, or a character that does not go on with a number. -/
def Ends (rest : Text) : Prop :=
  ∀ c ∈ rest.head?, c = ',' ∨ c = ']' ∨ c = '}'

variable {depth bound n : Nat} {c : Char} {s rest after name digits : Text} {v item : Json}

theorem ends_nil : Ends [] := nofun

theorem ends_cons (h : c = ',' ∨ c = ']' ∨ c = '}') : Ends (c :: rest) := by
  rintro _ ⟨⟩
  exact h

/-! ## Strings -/

/-- The code of a control character is two hexadecimal digits. -/
theorem hex4?_digitChar : ∀ n < 0x20,
    hex4? '0' '0' (Nat.digitChar (n / 16)) (Nat.digitChar (n % 16)) = some n := by
  decide

theorem readString_escaped (c : Char) (rest : Text) :
    readString (escaped c ++ rest) = addChar c (readString rest) := by
  unfold escaped
  split_ifs with quote backslash backspace formFeed lineFeed carriage tab control
  -- The characters with an escape of their own.
  iterate 7
    subst c
    rfl
  · have low : ¬ (0xD800 ≤ c.toNat && c.toNat < 0xDC00) = true := by simp; omega
    have high : ¬ (0xDC00 ≤ c.toNat && c.toNat < 0xE000) = true := by simp; omega
    simp only [List.cons_append, List.nil_append]
    rw [readString, hex4?_digitChar _ control]
    dsimp only
    rw [if_neg low, if_neg high, Char.ofNat_toNat]
  · rw [List.singleton_append, readString.eq_def]
    split
    · simp_all
    · simp_all
    · simp_all
    · rename_i same
      cases same
      rw [if_neg control]
    · simp_all

theorem readString_flatMap_escaped (s rest : Text) :
    readString (s.flatMap escaped ++ '"' :: rest) = some (s, rest) := by
  induction s with
  | nil => rfl
  | cons c s ih =>
    rw [List.flatMap_cons, List.append_assoc, readString_escaped, ih]
    rfl

theorem quoted_append (s rest : Text) :
    quoted s ++ rest = '"' :: (s.flatMap escaped ++ '"' :: rest) := by
  simp [quoted]

/-! ## Integers -/

/-- The text of a positive number has no zero in front. -/
theorem head?_ofNat (positive : 0 < n) : (Text.ofNat n).head? ≠ some '0' := by
  induction n using Nat.strongRecOn with
  | ind n ih =>
    rw [Text.ofNat, Nat.toDigits_eq_if (by decide)]
    split
    · rw [List.head?_singleton, ne_eq, Option.some.injEq, Nat.digitChar_eq_zero]
      omega
    · rw [List.head?_append_of_ne_nil _ Nat.toDigits_ne_nil]
      exact ih (n / 10) (by omega) (by omega)

theorem le_ofDigitChars (digits : Text) (n : Nat) : n ≤ Nat.ofDigitChars 10 digits n := by
  induction digits generalizing n with
  | nil => exact Nat.le_refl n
  | cons c rest ih =>
    rw [Nat.ofDigitChars_cons]
    have later := ih (10 * n + (c.toNat - '0'.toNat))
    omega

/-- All digits are taken if the number is below the limit. -/
theorem takeDigits_of_lt (small : Nat.ofDigitChars 10 digits n < wordLimit) :
    takeDigits n digits = (Nat.ofDigitChars 10 digits n, digits.length) := by
  induction digits generalizing n with
  | nil => rfl
  | cons c rest ih =>
    rw [Nat.ofDigitChars_cons, Nat.mul_comm] at small
    have longer := le_ofDigitChars rest (n * 10 + (c.toNat - '0'.toNat))
    unfold takeDigits
    dsimp only
    rw [if_pos (by omega), ih small, Nat.ofDigitChars_cons, Nat.mul_comm 10]
    rfl

theorem takeDigits_ofNat (small : n < wordLimit) :
    takeDigits 0 (Text.ofNat n) = (n, (Text.ofNat n).length) := by
  have value : Nat.ofDigitChars 10 (Text.ofNat n) 0 = n := Nat.ofDigitChars_ten_toDigits
  rw [takeDigits_of_lt (by rwa [value]), value]

theorem span_ofNat_append (n : Nat) (ends : Ends rest) :
    (Text.ofNat n ++ rest).takeWhile Char.isDigit = Text.ofNat n ∧
      (Text.ofNat n ++ rest).dropWhile Char.isDigit = rest := by
  have digits : ∀ c ∈ Text.ofNat n, c.isDigit = true := fun _ => isDigit_of_mem_ofNat
  rw [List.takeWhile_append_of_pos digits, List.dropWhile_append_of_pos digits]
  cases rest with
  | nil => simp
  | cons c rest =>
    have other : c.isDigit = false := by rcases ends c rfl with rfl | rfl | rfl <;> rfl
    simp [other]

/-- An integer is read without its sign. -/
theorem readMagnitude_ofNat {negative : Bool} (small : n < wordLimit) (ends : Ends rest)
    (signed : negative = true → n ≠ 0 ∧ (int64? (-(n : Int))).isSome = true) :
    readMagnitude negative (Text.ofNat n ++ rest) =
      some (.int (if negative then -(n : Int) else n), rest) := by
  obtain ⟨whole, after⟩ := span_ofNat_append n ends
  have spelled : ¬ ((Text.ofNat n).isEmpty ||
      ((Text.ofNat n).head? = some '0' && 1 < (Text.ofNat n).length)) = true := by
    rw [Bool.or_eq_true, List.isEmpty_iff, Bool.and_eq_true, decide_eq_true_eq, decide_eq_true_eq]
    rintro (empty | ⟨zero, longer⟩)
    · exact Nat.toDigits_ne_nil empty
    · rcases Nat.eq_zero_or_pos n with rfl | positive
      · exact absurd longer (by decide)
      · exact head?_ofNat positive zero
  unfold readMagnitude
  dsimp only
  rw [whole, after, if_neg spelled, takeDigits_ofNat small, Nat.sub_self]
  split
  · exact absurd (ends _ rfl) (by decide)
  · exact absurd (ends _ rfl) (by decide)
  · exact absurd (ends _ rfl) (by decide)
  · cases negative with
    | false => rfl
    | true =>
      obtain ⟨nonzero, inside⟩ := signed rfl
      have written : ¬ (n = 0 || (int64? (-(n : Int))).isNone) = true := by
        rw [decide_eq_false nonzero, Option.isNone_eq_false_iff.mpr inside]
        decide
      rw [if_neg (by decide), if_neg (by decide), if_neg written]
      rfl

theorem readScalar_of_isDigit (digit : c.isDigit = true) (rest : Text) :
    readScalar (c :: rest) = readMagnitude false (c :: rest) := by
  unfold readScalar
  split
  case h_5 => rfl
  -- None of the other first characters is a digit.
  all_goals
    rename_i same
    cases same
    exact absurd digit (by decide)

theorem ofNat_eq_cons (n : Nat) : ∃ c digits, Text.ofNat n = c :: digits ∧ c.isDigit = true := by
  obtain ⟨c, digits, text⟩ := List.exists_cons_of_ne_nil (Nat.toDigits_ne_nil (n := n) (b := 10))
  exact ⟨c, digits, text, isDigit_of_mem_ofNat (text ▸ List.mem_cons_self)⟩

theorem readScalar_ofInt {n : Int} (low : Int64.minValue.toInt ≤ n) (high : n < wordLimit)
    (ends : Ends rest) : readScalar (Text.ofInt n ++ rest) = some (.int n, rest) := by
  cases n with
  | ofNat n =>
    obtain ⟨c, digits, text, digit⟩ := ofNat_eq_cons n
    have read : readMagnitude false (Text.ofNat n ++ rest) = some (.int n, rest) :=
      readMagnitude_ofNat (Int.ofNat_lt.mp high) ends nofun
    rw [text, List.cons_append] at read
    rw [Text.ofInt, text, List.cons_append, readScalar_of_isDigit digit, read]
    rfl
  | negSucc n =>
    have inside : int64? (-((n + 1 : Nat) : Int)) = some (Int64.ofInt (Int.negSucc n)) :=
      if_pos ⟨low, Int.le_trans (Int.negSucc_lt_zero n).le (by decide)⟩
    have small : n + 1 < wordLimit := by
      have least : -(wordLimit : Int) < Int64.minValue.toInt := by decide
      omega
    rw [Text.ofInt, List.cons_append, readScalar]
    exact readMagnitude_ofNat small ends fun _ => ⟨Nat.succ_ne_zero n, by rw [inside]; rfl⟩

/-! ## Values -/

theorem skipSpace_cons (visible : isSpace c = false) (rest : Text) :
    skipSpace (c :: rest) = c :: rest :=
  List.dropWhile_cons_of_neg (Bool.not_eq_true _ ▸ visible)

/-- The text of an integer starts like nothing else than a number. -/
theorem ofInt_eq_cons (n : Int) : ∃ c rest, Text.ofInt n = c :: rest ∧ isSpace c = false ∧
    c ≠ ']' ∧ c ≠ '[' ∧ c ≠ '{' ∧ c ≠ '"' := by
  cases n with
  | ofNat n =>
    obtain ⟨c, digits, text, digit⟩ := ofNat_eq_cons n
    have other {d : Char} (h : d.isDigit = false) : c ≠ d := by
      rintro rfl
      exact absurd digit (Bool.not_eq_true _ ▸ h)
    refine ⟨c, digits, text, ?_, other rfl, other rfl, other rfl, other rfl⟩
    simp only [isSpace, other (d := ' ') rfl, other (d := '\n') rfl, other (d := '\t') rfl,
      other (d := '\r') rfl, decide_false, Bool.or_false]
  | negSucc n => exact ⟨_, _, rfl, rfl, by decide⟩

/-- The text of a value starts neither with a blank nor like the end of an array. -/
theorem compact_eq_cons (free : v.floatFree = true) :
    ∃ c rest, v.compact = c :: rest ∧ isSpace c = false ∧ c ≠ ']' := by
  cases v with
  | null => exact ⟨_, _, rfl, rfl, by decide⟩
  | bool b => cases b <;> exact ⟨_, _, rfl, rfl, by decide⟩
  | int n =>
    obtain ⟨c, rest, text, visible, other, -⟩ := ofInt_eq_cons n
    exact ⟨c, rest, text, visible, other⟩
  | float x => cases free
  | str s => exact ⟨_, _, rfl, rfl, by decide⟩
  | arr items => exact ⟨_, _, rfl, rfl, by decide⟩
  | obj fields => exact ⟨_, _, rfl, rfl, by decide⟩

/-- The text of a value is read back, whatever follows it. Each character of the text is worth two
calls of the reader. -/
def ReadsBack (depth : Nat) (v : Json) : Prop :=
  ∀ bound rest, 2 * v.compact.length ≤ bound → Ends rest →
    readValue bound depth (v.compact ++ rest) = some (v, rest)

theorem ReadsBack.of_succ (free : v.floatFree = true)
    (read : ∀ bound rest, 2 * v.compact.length ≤ bound + 1 → Ends rest →
      readValue (bound + 1) depth (v.compact ++ rest) = some (v, rest)) : ReadsBack depth v := by
  intro bound rest enough ends
  obtain ⟨c, text, start, -⟩ := compact_eq_cons free
  have length : v.compact.length ≠ 0 := by simp [start]
  obtain ⟨bound, rfl⟩ := Nat.exists_eq_succ_of_ne_zero (n := bound) (by omega)
  exact read bound rest enough ends

theorem readItems_of_last (read : readValue bound depth s = some (item, ']' :: rest)) :
    readItems (bound + 1) depth s = some ([item], rest) := by
  rw [readItems, read]
  rfl

theorem readItems_of_item (read : readValue bound depth s = some (item, ',' :: rest)) :
    readItems (bound + 1) depth s = (readItems bound depth rest).map fun (items, rest) =>
      (item :: items, rest) := by
  rw [readItems, read]
  rfl

theorem readFields_of_last (named : readString s = some (name, ':' :: rest))
    (read : readValue bound depth rest = some (v, '}' :: after)) :
    readFields (bound + 1) depth ('"' :: s) = some ([(name, v)], after) := by
  simp [readFields, skipSpace, isSpace, named, read]

theorem readFields_of_field (named : readString s = some (name, ':' :: rest))
    (read : readValue bound depth rest = some (v, ',' :: after)) :
    readFields (bound + 1) depth ('"' :: s) = (readFields bound depth after).map
      fun (fields, rest) => ((name, v) :: fields, rest) := by
  simp [readFields, skipSpace, isSpace, named, read]

theorem readItems_compactItems {items : List Json} (nonempty : items ≠ [])
    (each : ∀ item ∈ items, ReadsBack depth item)
    (enough : 2 * (compactItems items).length ≤ bound) (rest : Text) :
    readItems bound depth (compactItems items ++ rest) = some (items, rest) := by
  induction items generalizing bound with
  | nil => exact absurd rfl nonempty
  | cons item items ih =>
    obtain ⟨first, others⟩ := List.forall_mem_cons.mp each
    cases items with
    | nil =>
      rw [compactItems, List.length_append, List.length_singleton] at enough
      obtain ⟨bound, rfl⟩ := Nat.exists_eq_succ_of_ne_zero (n := bound) (by omega)
      rw [compactItems, List.append_assoc]
      exact readItems_of_last (first bound _ (by omega) (ends_cons (by simp)))
    | cons next items =>
      have text : compactItems (item :: next :: items) =
          item.compact ++ ',' :: compactItems (next :: items) := rfl
      rw [text, List.length_append, List.length_cons] at enough
      obtain ⟨bound, rfl⟩ := Nat.exists_eq_succ_of_ne_zero (n := bound) (by omega)
      rw [text, List.append_assoc, List.cons_append,
        readItems_of_item (first bound _ (by omega) (ends_cons (by simp))),
        ih (List.cons_ne_nil _ _) others (by omega)]
      rfl

/-- A name is read back up to the colon behind it. -/
theorem readString_named (name text : Text) :
    ∃ s, quoted name ++ ':' :: text = '"' :: s ∧ readString s = some (name, ':' :: text) :=
  ⟨_, quoted_append name _, readString_flatMap_escaped name _⟩

theorem readFields_compactFields {fields : List (Text × Json)} (nonempty : fields ≠ [])
    (each : ∀ field ∈ fields, ReadsBack depth field.2)
    (enough : 2 * (compactFields fields).length ≤ bound) (rest : Text) :
    readFields bound depth (compactFields fields ++ rest) = some (fields, rest) := by
  induction fields generalizing bound with
  | nil => exact absurd rfl nonempty
  | cons field fields ih =>
    obtain ⟨name, value⟩ := field
    obtain ⟨(first : ReadsBack depth value), others⟩ := List.forall_mem_cons.mp each
    cases fields with
    | nil =>
      have text (rest : Text) : compactFields [(name, value)] ++ rest =
          quoted name ++ ':' :: (value.compact ++ '}' :: rest) := by
        simp [compactFields]
      have length := congrArg List.length (text [])
      simp only [List.length_append, List.length_cons, List.length_nil] at length
      obtain ⟨bound, rfl⟩ := Nat.exists_eq_succ_of_ne_zero (n := bound) (by omega)
      obtain ⟨s, start, named⟩ := readString_named name (value.compact ++ '}' :: rest)
      rw [text, start]
      exact readFields_of_last named (first bound _ (by omega) (ends_cons (by simp)))
    | cons next fields =>
      have text (rest : Text) : compactFields ((name, value) :: next :: fields) ++ rest =
          quoted name ++ ':' ::
            (value.compact ++ ',' :: (compactFields (next :: fields) ++ rest)) := by
        simp [compactFields]
      have length := congrArg List.length (text [])
      simp only [List.length_append, List.length_cons, List.length_nil] at length
      obtain ⟨bound, rfl⟩ := Nat.exists_eq_succ_of_ne_zero (n := bound) (by omega)
      obtain ⟨s, start, named⟩ := readString_named name
        (value.compact ++ ',' :: (compactFields (next :: fields) ++ rest))
      rw [text, start, readFields_of_field named (first bound _ (by omega) (ends_cons (by simp))),
        ih (List.cons_ne_nil _ _) others (by omega)]
      rfl

/-- What starts with none of the three is no string, no array and no object. -/
theorem readValue_of_other (visible : isSpace c = false) (other : c ≠ '[' ∧ c ≠ '{' ∧ c ≠ '"')
    (rest : Text) : readValue (bound + 1) depth (c :: rest) = readScalar (c :: rest) := by
  obtain ⟨noArray, noObject, noString⟩ := other
  unfold readValue
  rw [skipSpace_cons visible]
  split <;> simp_all

theorem readValue_str (s : Text) : readValue (bound + 1) depth ('"' :: s) =
    (readString s).map fun (s, rest) => (.str s, rest) := rfl

theorem readValue_obj (s : Text) : readValue (bound + 1) (depth + 1) ('{' :: '"' :: s) =
    (readFields bound depth ('"' :: s)).map fun (fields, rest) =>
      (.obj (mergeFields fields), rest) := rfl

theorem readValue_arr (visible : isSpace c = false) (item : c ≠ ']') (rest : Text) :
    readValue (bound + 1) (depth + 1) ('[' :: c :: rest) =
      (readItems bound depth (c :: rest)).map fun (items, rest) => (.arr items, rest) := by
  have array : skipSpace ('[' :: c :: rest) = '[' :: c :: rest := rfl
  simp only [readValue, array, skipSpace_cons visible]
  split
  · rename_i same
    exact absurd (List.cons.inj same).1 item
  · rfl

theorem compactItems_eq_cons (free : item.floatFree = true) (others : List Json) :
    ∃ c rest, compactItems (item :: others) = c :: rest ∧ isSpace c = false ∧ c ≠ ']' := by
  obtain ⟨c, text, start, visible, other⟩ := compact_eq_cons free
  cases others with
  | nil => exact ⟨c, text ++ [']'], by rw [compactItems, start]; rfl, visible, other⟩
  | cons next others =>
    refine ⟨c, text ++ ',' :: compactItems (next :: others), ?_, visible, other⟩
    rw [compactItems, start]
    · rfl
    · exact List.cons_ne_nil _ _

theorem compactFields_eq_cons (field : Text × Json) (others : List (Text × Json)) :
    ∃ rest, compactFields (field :: others) = '"' :: rest := by
  cases others <;> exact ⟨_, rfl⟩

/-- Every value that can be read and holds no float is read back from its text. -/
theorem readsBack (h : Readable depth v) (free : v.floatFree = true) : ReadsBack depth v := by
  induction h with
  | null => exact .of_succ free fun _ _ _ _ => rfl
  | bool b => exact .of_succ free fun _ _ _ _ => by cases b <;> rfl
  | @int _ n low high =>
    refine .of_succ free fun bound rest _ ends => ?_
    have read := readScalar_ofInt low high ends
    obtain ⟨c, digits, text, visible, -, other⟩ := ofInt_eq_cons n
    rw [text, List.cons_append] at read
    rw [compact, text, List.cons_append, readValue_of_other visible other, read]
  | float x => cases free
  | str s =>
    refine .of_succ free fun bound rest _ _ => ?_
    rw [compact, quoted_append, readValue_str, readString_flatMap_escaped]
    rfl
  | @arr depth items _ ih =>
    refine .of_succ free fun bound rest enough _ => ?_
    rw [floatFree_arr] at free
    have each : ∀ item ∈ items, ReadsBack depth item := fun item member =>
      ih item member (free item member)
    cases items with
    | nil => rfl
    | cons item others =>
      rw [compact, List.length_cons] at enough
      have read : readItems bound depth (compactItems (item :: others) ++ rest) =
          some (item :: others, rest) :=
        readItems_compactItems (List.cons_ne_nil _ _) each (by omega) rest
      obtain ⟨c, text, start, visible, other⟩ :=
        compactItems_eq_cons (free item List.mem_cons_self) others
      rw [start, List.cons_append] at read
      rw [compact, start, List.cons_append, List.cons_append, readValue_arr visible other, read]
      rfl
  | @obj depth fields distinct _ ih =>
    refine .of_succ free fun bound rest enough _ => ?_
    rw [floatFree_obj] at free
    have each : ∀ field ∈ fields, ReadsBack depth field.2 := fun field member =>
      ih field member (free field member)
    cases fields with
    | nil => rfl
    | cons field others =>
      rw [compact, List.length_cons] at enough
      have read : readFields bound depth (compactFields (field :: others) ++ rest) =
          some (field :: others, rest) :=
        readFields_compactFields (List.cons_ne_nil _ _) each (by omega) rest
      obtain ⟨text, start⟩ := compactFields_eq_cons field others
      rw [start, List.cons_append] at read
      rw [compact, start, List.cons_append, List.cons_append, readValue_obj, read, Option.map_some]
      dsimp only
      rw [mergeFields_of_nodup distinct]

/-- The text of a value is read as that value. -/
theorem ofText?_compact (h : Readable depthLimit v) (free : v.floatFree = true) :
    ofText? v.compact = some v := by
  have read := readsBack h free (2 * v.compact.length + 2) [] (by omega) ends_nil
  rw [List.append_nil] at read
  rw [ofText?, read]
  rfl

end LineTemplate.Json
