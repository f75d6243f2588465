import LineTemplate.Number.Decimal
import LineTemplate.Proofs.Lines.Quoting
import Mathlib

/-!
# Numerals

The decimal text of an integer is read back as that integer, also when it is a value of its own and
the blanks around it are dropped first.

In the other direction, digits denote a number by the values of their places, the last one counting
ones. That is what the readers compute from left to right, for decimal digits and for hexadecimal
digits in either case.
-/

namespace LineTemplate

open Unicode

namespace Number

theorem toNat_of_isDigit {c : Char} (digit : c.isDigit = true) : 48 ≤ c.toNat ∧ c.toNat ≤ 57 := by
  simpa [Char.isDigit, UInt32.le_iff_toNat_le] using digit

theorem digitValue_of_isDigit {c : Char} (digit : c.isDigit = true) :
    ofDigits.digitValue c = c.toNat - '0'.toNat :=
  if_pos digit

theorem ofDigits_eq_ofDigitChars {digits : Text} (all : ∀ c ∈ digits, c.isDigit = true) :
    ofDigits 10 digits = Nat.ofDigitChars 10 digits 0 := by
  rw [ofDigits, Nat.ofDigitChars_eq_foldl]
  generalize 0 = start
  induction digits generalizing start with
  | nil => rfl
  | cons c rest ih =>
    obtain ⟨digit, further⟩ := List.forall_mem_cons.mp all
    rw [List.foldl_cons, List.foldl_cons, digitValue_of_isDigit digit, Nat.mul_comm]
    exact ih further _

theorem isDigit_of_mem_ofNat {n : Nat} {c : Char} (h : c ∈ Text.ofNat n) : c.isDigit = true :=
  Nat.isDigit_of_mem_toDigits (by decide) (by decide) h

theorem isNumeral_ofNat (n : Nat) : isNumeral (Text.ofNat n) = true := by
  have nonempty : (Text.ofNat n).isEmpty = false :=
    List.isEmpty_eq_false_iff.mpr Nat.toDigits_ne_nil
  have all : (Text.ofNat n).all Char.isDigit = true :=
    List.all_eq_true.mpr fun c mem => isDigit_of_mem_ofNat mem
  rw [isNumeral, nonempty, all]
  rfl

theorem ofDigits_ofNat (n : Nat) : ofDigits 10 (Text.ofNat n) = n := by
  rw [ofDigits_eq_ofDigitChars fun c mem => isDigit_of_mem_ofNat mem]
  exact Nat.ofDigitChars_ten_toDigits

theorem splitSign_of_isDigit {s : Text} (all : ∀ c ∈ s, c.isDigit = true) :
    splitSign s = (false, s) := by
  unfold splitSign
  split
  · exact absurd (all '-' List.mem_cons_self) (by decide)
  · exact absurd (all '+' List.mem_cons_self) (by decide)
  · rfl

theorem splitSign_ofNat (n : Nat) : splitSign (Text.ofNat n) = (false, Text.ofNat n) :=
  splitSign_of_isDigit fun _ mem => isDigit_of_mem_ofNat mem

theorem int64?_toInt (n : Int64) : int64? n.toInt = some n := by
  have low : Int64.minValue.toInt ≤ n.toInt := n.minValue_le_toInt
  have high : n.toInt ≤ Int64.maxValue.toInt := n.toInt_le
  rw [int64?, if_pos ⟨low, high⟩, Int64.ofInt_toInt]

/-- The decimal text of an integer is read as that integer. -/
theorem readInt?_ofInt (n : Int64) : readInt? (Text.ofInt n.toInt) = some n := by
  cases value : n.toInt with
  | ofNat k =>
    rw [Text.ofInt, readInt?, splitSign_ofNat]
    dsimp only
    rw [if_pos (isNumeral_ofNat k), if_neg Bool.false_ne_true, ofDigits_ofNat]
    rw [← int64?_toInt n, value]
    rfl
  | negSucc k =>
    rw [Text.ofInt, readInt?, splitSign]
    dsimp only
    rw [if_pos (isNumeral_ofNat (k + 1)), if_pos rfl, ofDigits_ofNat, ← int64?_toInt n, value]
    rfl

theorem ofInt_injective {m n : Int64} (h : Text.ofInt m.toInt = Text.ofInt n.toInt) : m = n := by
  have read := readInt?_ofInt m
  rw [h, readInt?_ofInt] at read
  exact (Option.some.inj read).symm

/-! ### What digits denote -/

def decimals : Text := ['0', '1', '2', '3', '4', '5', '6', '7', '8', '9']

def hexadecimals : Text :=
  decimals ++ ['a', 'b', 'c', 'd', 'e', 'f', 'A', 'B', 'C', 'D', 'E', 'F']

def valueOf (c : Char) : Nat :=
  hexadecimals.idxOf c.toLower

/-- The number that digits denote in a base. -/
def denoted (base : Nat) (digits : Text) : Nat :=
  Nat.ofDigits base (digits.reverse.map valueOf)

/-- A text of at least one character, all of which are in an alphabet. -/
structure SpelledIn (alphabet s : Text) : Prop where
  nonempty : s ≠ []
  all : s ⊆ alphabet

theorem decimals_subset : decimals ⊆ hexadecimals :=
  List.subset_append_left ..

theorem mem_decimals {c : Char} : c ∈ decimals ↔ c.isDigit = true := by
  constructor
  · exact fun mem => List.all_eq_true.mp (rfl : decimals.all Char.isDigit = true) c mem
  · intro digit
    obtain ⟨low, high⟩ := toNat_of_isDigit digit
    rw [← Char.ofNat_toNat c]
    generalize c.toNat = n at low high ⊢
    interval_cases n <;> decide

theorem isHexDigit_of_hexadecimals : ∀ c ∈ hexadecimals, isHexDigit c = true :=
  List.all_eq_true.mp rfl

theorem digitValue_eq_valueOf : ∀ c ∈ hexadecimals, ofDigits.digitValue c = valueOf c :=
  List.forall_mem_iff_get.mpr (by decide)

theorem isNumeral_iff {s : Text} : isNumeral s = true ↔ SpelledIn decimals s := by
  rw [isNumeral, Bool.and_eq_true, Bool.not_eq_true', List.isEmpty_eq_false_iff, List.all_eq_true]
  constructor
  · exact fun h => ⟨h.1, fun c mem => mem_decimals.mpr (h.2 c mem)⟩
  · exact fun h => ⟨h.nonempty, fun c mem => mem_decimals.mp (h.all mem)⟩

/-- Reading digits from left to right gives what they denote. -/
theorem ofDigits_eq_denoted {base : Nat} {digits : Text} (all : digits ⊆ hexadecimals) :
    ofDigits base digits = denoted base digits := by
  induction digits using List.reverseRecOn with
  | nil => rfl
  | append_singleton digits c ih =>
    obtain ⟨front, last⟩ := List.append_subset.mp all
    have value := digitValue_eq_valueOf c (last List.mem_cons_self)
    have before : digits.foldl (fun n c => n * base + ofDigits.digitValue c) 0 =
      denoted base digits := ih front
    rw [ofDigits, List.foldl_append, List.foldl_cons, List.foldl_nil, before, value, denoted,
      denoted, List.reverse_append, List.reverse_singleton, List.singleton_append, List.map_cons,
      Nat.ofDigits_cons, Nat.mul_comm, Nat.add_comm]

/-- Decimal digits with a sign or without one, and the integers that they denote. -/
inductive Signed : Text → Int → Prop where
  | plain {digits : Text} (spelled : SpelledIn decimals digits) : Signed digits (denoted 10 digits)
  | plus {digits : Text} (spelled : SpelledIn decimals digits) :
    Signed ('+' :: digits) (denoted 10 digits)
  | minus {digits : Text} (spelled : SpelledIn decimals digits) :
    Signed ('-' :: digits) (-(denoted 10 digits : Int))

theorem SpelledIn.ofDigits {base : Nat} {digits : Text} (h : SpelledIn decimals digits) :
    ofDigits base digits = denoted base digits :=
  ofDigits_eq_denoted (List.Subset.trans h.all decimals_subset)

theorem Signed.readInt? {s : Text} {z : Int} (h : Signed s z) : readInt? s = int64? z := by
  cases h with
  | plain spelled =>
    rw [Number.readInt?, splitSign_of_isDigit fun c mem => mem_decimals.mp (spelled.all mem)]
    dsimp only
    rw [if_pos (isNumeral_iff.mpr spelled), if_neg Bool.false_ne_true, spelled.ofDigits]
  | plus spelled =>
    rw [Number.readInt?, splitSign]
    dsimp only
    rw [if_pos (isNumeral_iff.mpr spelled), if_neg Bool.false_ne_true, spelled.ofDigits]
  | minus spelled =>
    rw [Number.readInt?, splitSign]
    dsimp only
    rw [if_pos (isNumeral_iff.mpr spelled), if_pos rfl, spelled.ofDigits]

theorem int64?_eq_some {z : Int} {n : Int64} (h : int64? z = some n) : n.toInt = z := by
  rw [int64?, Int64.toInt_minValue, Int64.toInt_maxValue] at h
  split at h
  · rename_i inside
    cases h
    exact Int64.toInt_ofInt_of_le inside.1 (by omega)
  · cases h

/-- What is read as an integer is a numeral of it, with any sign and any leading zeros. -/
theorem readInt?_eq_some_iff {s : Text} {n : Int64} :
    readInt? s = some n ↔ Signed s n.toInt := by
  refine ⟨fun h => ?_, fun h => h.readInt?.trans (int64?_toInt n)⟩
  unfold Number.readInt? splitSign at h
  split at h
  rename_i negative digits split_sign
  split at h
  · rename_i numeral
    have spelled := isNumeral_iff.mp numeral
    rw [int64?_eq_some h, spelled.ofDigits]
    split at split_sign <;> cases split_sign
    · exact .minus spelled
    · exact .plus spelled
    · exact .plain spelled
  · cases h

end Number

namespace Text

theorem isBlank_eq_false_of_isDigit {c : Char} (digit : c.isDigit = true) : isBlank c = false := by
  obtain ⟨low, high⟩ := Number.toNat_of_isDigit digit
  exact isBlank_eq_false_of_between (by decide) low high

theorem tight_ofInt (n : Int) : (ofInt n).Tight := by
  cases n with
  | ofNat k =>
    exact .of_unbroken Nat.toDigits_ne_nil fun c mem =>
      isBlank_eq_false_of_isDigit (Number.isDigit_of_mem_ofNat mem)
  | negSucc k =>
    refine .of_unbroken (List.cons_ne_nil _ _) (List.forall_mem_cons.mpr ⟨by decide, ?_⟩)
    exact fun c mem => isBlank_eq_false_of_isDigit (Number.isDigit_of_mem_ofNat mem)

end Text

end LineTemplate
