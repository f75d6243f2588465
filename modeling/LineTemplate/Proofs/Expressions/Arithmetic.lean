import LineTemplate.Expression.Value
import LineTemplate.Proofs.Expressions.Conversion
import LineTemplate.Proofs.Expressions.Numerals
import Mathlib

/-!
# Arithmetic on integers

Between values that are integers or spell one, every operator computes with the integers, and what
does not fit into 64 bits is wrapped. A quotient is truncated toward zero, so a remainder has the
sign of the dividend.

What divides is tested first, as a float: neither zero nor a text that is no number gets past that
test. Zero is the only integer that converts to zero, so the operators on integers never see a zero
divisor. Any other conversion with this property would make the same test.
-/

namespace LineTemplate.Value

open Number

/-- The integer that a value is, or that it spells between blanks. -/
inductive Reads : Value → Int64 → Prop where
  | int (n : Int64) : Reads (.int n) n
  | text {s : Text} {n : Int64} (spelled : Signed s.trim n.toInt) : Reads (.text s) n

/-- The value is an integer, reduced to 64 bits. -/
def Wraps (v : Value) (z : Int) : Prop :=
  ∃ n : Int64, v = .int n ∧ n.toInt = z.bmod (2 ^ 64)

/-- Quotient and remainder of two words. The quotient is truncated toward zero and then wrapped. -/
structure IsDivision (m n q r : Int64) : Prop where
  quotient : q.toInt = (m.toInt.tdiv n.toInt).bmod (2 ^ 64)
  remainder : r.toInt = m.toInt.tmod n.toInt
  sign : r.toInt = 0 ∨ r.toInt.sign = m.toInt.sign
  restores : q.toInt * n.toInt + r.toInt ≡ m.toInt [ZMOD 2 ^ 64]

/-- Whether a value must not divide, as tested with some conversion of integers. -/
def isZeroAs (convert : Int64 → Float) (v : Value) : Bool :=
  match v.numeral? with
  | some (.int n) => convert n == 0
  | some (.float x) => x == 0
  | none => true

theorem reads_iff {v : Value} {n : Int64} : v.Reads n ↔ v.numeral? = some (.int n) := by
  constructor
  · rintro (_ | spelled)
    · rfl
    · rw [numeral?, readInt?_eq_some_iff.mpr spelled]
  · intro h
    cases v with
    | int m =>
      cases h
      exact .int n
    | float x => cases h
    | text s =>
      rw [numeral?] at h
      split at h
      · rename_i read
        cases h
        exact .text (readInt?_eq_some_iff.mp read)
      · cases float : readFloat? s.trim <;> rw [float] at h <;> cases h

theorem Reads.numeral {v : Value} {n : Int64} (h : v.Reads n) : v.numeral = .int n := by
  rw [Value.numeral, reads_iff.mp h, Option.getD_some]

theorem Reads.isZero {v : Value} {n : Int64} (h : v.Reads n) : v.isZero = (n == 0) := by
  rw [Value.isZero, reads_iff.mp h]
  exact floatOfInt_eq_zero n

section

variable {a b v : Value} {m n : Int64}

theorem arithmetic_of_reads (ints : Int64 → Int64 → Int64) (floats : Float → Float → Float)
    (left : a.Reads m) (right : b.Reads n) : arithmetic ints floats a b = .int (ints m n) := by
  rw [arithmetic, left.numeral, right.numeral]

theorem add_wraps (left : a.Reads m) (right : b.Reads n) :
    (a.add b).Wraps (m.toInt + n.toInt) := by
  refine ⟨m + n, ?_, Int64.toInt_add m n⟩
  rw [add, reads_iff.mp left, reads_iff.mp right]
  exact arithmetic_of_reads _ _ left right

theorem sub_wraps (left : a.Reads m) (right : b.Reads n) : (a.sub b).Wraps (m.toInt - n.toInt) :=
  ⟨m - n, arithmetic_of_reads _ _ left right, Int64.toInt_sub m n⟩

theorem mul_wraps (left : a.Reads m) (right : b.Reads n) : (a.mul b).Wraps (m.toInt * n.toInt) :=
  ⟨m * n, arithmetic_of_reads _ _ left right, Int64.toInt_mul m n⟩

theorem neg_wraps (h : v.Reads n) : v.neg.Wraps (-n.toInt) := by
  refine ⟨-n, ?_, Int64.toInt_neg n⟩
  rw [neg, reads_iff.mp h]

theorem compare_of_reads (left : a.Reads m) (right : b.Reads n) :
    a.compare b = Ord.compare m.toInt n.toInt := by
  rw [Value.compare, reads_iff.mp left, reads_iff.mp right]

/-! ## Division -/

theorem isDivision (m n : Int64) : IsDivision m n (m / n) (m % n) where
  quotient := Int64.toInt_div m n
  remainder := Int64.toInt_mod m n
  sign := by
    rw [Int64.toInt_mod]
    by_cases divides : n.toInt ∣ m.toInt
    · exact .inl (Int.tmod_eq_zero_of_dvd divides)
    · rw [Int.sign_tmod, if_neg divides]
      exact .inr rfl
  restores := by
    have wrapped : (m / n).toInt ≡ m.toInt.tdiv n.toInt [ZMOD 2 ^ 64] := by
      rw [Int64.toInt_div]
      exact Int.bmod_emod
    calc
      (m / n).toInt * n.toInt + (m % n).toInt
        ≡ m.toInt.tdiv n.toInt * n.toInt + (m % n).toInt [ZMOD 2 ^ 64] :=
          (wrapped.mul_right _).add_right _
      _ = m.toInt := by rw [Int64.toInt_mod, Int.tdiv_mul_add_tmod]

theorem div_of_isZero (zero : b.isZero = true) (a : Value) : a.div b = .error .divisionByZero :=
  if_pos zero

theorem rem_of_isZero (zero : b.isZero = true) (a : Value) : a.rem b = .error .moduloByZero :=
  if_pos zero

theorem div_of_reads (left : a.Reads m) (right : b.Reads n) (nonzero : n ≠ 0) :
    a.div b = .ok (.int (m / n)) := by
  have guard : ¬ b.isZero = true := by simpa [right.isZero] using nonzero
  rw [div, if_neg guard, arithmetic_of_reads _ _ left right]

theorem rem_of_reads (left : a.Reads m) (right : b.Reads n) (nonzero : n ≠ 0) :
    a.rem b = .ok (.int (m % n)) := by
  have guard : ¬ b.isZero = true := by simpa [right.isZero] using nonzero
  rw [rem, if_neg guard, arithmetic_of_reads _ _ left right]

theorem numeral_of_isZero (guard : b.isZero = false) : b.numeral ≠ .int 0 := by
  intro zero
  unfold isZero at guard
  unfold numeral at zero
  cases read : b.numeral? with
  | none =>
    rw [read] at guard
    cases guard
  | some number =>
    rw [read, Option.getD_some] at zero
    subst zero
    rw [read] at guard
    cases (floatOfInt_eq_zero 0).symm.trans guard

end

/-! ## The laws -/

/-- What the operators do with two values that have an integer reading. -/
structure IntegerLaws (a b : Value) (m n : Int64) : Prop where
  add : (a.add b).Wraps (m.toInt + n.toInt)
  sub : (a.sub b).Wraps (m.toInt - n.toInt)
  mul : (a.mul b).Wraps (m.toInt * n.toInt)
  neg : a.neg.Wraps (-m.toInt)
  compare : a.compare b = Ord.compare m.toInt n.toInt
  by_zero : n = 0 → a.div b = .error .divisionByZero ∧ a.rem b = .error .moduloByZero
  by_other : n ≠ 0 → ∃ q r, a.div b = .ok (.int q) ∧ a.rem b = .ok (.int r) ∧ IsDivision m n q r

theorem integerLaws {a b : Value} {m n : Int64} (left : a.Reads m) (right : b.Reads n) :
    IntegerLaws a b m n where
  add := add_wraps left right
  sub := sub_wraps left right
  mul := mul_wraps left right
  neg := neg_wraps left
  compare := compare_of_reads left right
  by_zero := by
    rintro rfl
    exact ⟨div_of_isZero right.isZero a, rem_of_isZero right.isZero a⟩
  by_other nonzero :=
    ⟨m / n, m % n, div_of_reads left right nonzero, rem_of_reads left right nonzero,
      isDivision m n⟩

theorem isZeroAs_eq {convert : Int64 → Float} (faithful : ∀ n, (convert n == 0) = (n == 0))
    (v : Value) : v.isZeroAs convert = v.isZero := by
  unfold isZeroAs isZero
  rcases v.numeral? with _ | n | x
  · rfl
  · exact (faithful n).trans (floatOfInt_eq_zero n).symm
  · rfl

/-- Integers are computed with exactly up to wrapping, and nothing is divided by zero: the conversion
with which the divisor is tested tells zero from all other integers, and so does the test with any
conversion that does. -/
theorem integer_arithmetic :
    (∀ (a b : Value) (m n : Int64), a.Reads m → b.Reads n → IntegerLaws a b m n) ∧
    (∀ a b : Value, b.numeral? = none →
      a.div b = .error .divisionByZero ∧ a.rem b = .error .moduloByZero) ∧
    (∀ a b v : Value, a.div b = .ok v ∨ a.rem b = .ok v → b.numeral ≠ .int 0) ∧
    (∀ n : Int64, (floatOfInt n == 0) = (n == 0)) ∧
    ∀ convert : Int64 → Float, (∀ n, (convert n == 0) = (n == 0)) →
      ∀ v : Value, v.isZeroAs convert = v.isZero := by
  refine ⟨fun a b m n => integerLaws, ?_, ?_, floatOfInt_eq_zero, fun _ => isZeroAs_eq⟩
  · intro a b none
    have zero : b.isZero = true := by rw [isZero, none]
    exact ⟨div_of_isZero zero a, rem_of_isZero zero a⟩
  · intro a b v succeeds
    apply numeral_of_isZero
    rw [Bool.eq_false_iff]
    intro zero
    rcases succeeds with div | rem
    · cases (div_of_isZero zero a).symm.trans div
    · cases (rem_of_isZero zero a).symm.trans rem

/-- A conversion that is right for zero, minus one and the least integer. -/
def coarse (n : Int64) : Float :=
  if n = 0 then 0 else if n = -1 then -1 else -9223372036854775808

/-- The one quotient that does not fit, of two texts. -/
theorem integer_arithmetic_smallest :
    let a := text " -9223372036854775808\n".toList
    let b := text "-001".toList
    (∀ n, (coarse n == 0) = (n == 0)) ∧ a.Reads Int64.minValue ∧ b.Reads (-1) ∧
      a.div b = .ok (.int Int64.minValue) ∧ a.rem b = .ok (.int 0) ∧
      a.neg = .int Int64.minValue ∧ b.isZeroAs coarse = false := by
  intro a b
  have faithful : ∀ n, (coarse n == 0) = (n == 0) := by
    intro n
    unfold coarse
    by_cases zero : n = 0
    · subst zero
      decide +kernel
    by_cases minus : n = -1
    · subst minus
      decide +kernel
    · rw [if_neg zero, if_neg minus, beq_eq_false_iff_ne.mpr zero]
      decide +kernel
  have least : a.Reads Int64.minValue := .text (.minus ⟨nofun, by decide⟩)
  have minus : b.Reads (-1) := .text (.minus ⟨nofun, by decide⟩)
  obtain ⟨laws, -, -, -, guard⟩ := integer_arithmetic
  obtain ⟨q, r, div, rem, division⟩ := (laws a b _ _ least minus).by_other (by decide)
  obtain ⟨n, neg, negative⟩ := (laws a b _ _ least minus).neg
  obtain rfl : q = Int64.minValue := Int64.toInt_inj.mp division.quotient
  obtain rfl : r = 0 := Int64.toInt_inj.mp division.remainder
  obtain rfl : n = Int64.minValue := Int64.toInt_inj.mp negative
  exact ⟨faithful, least, minus, div, rem, neg, (guard coarse faithful b).trans minus.isZero⟩

end LineTemplate.Value
