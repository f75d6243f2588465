import LineTemplate.Number.Binary
import Mathlib

/-!
# The integers that convert to zero

Zero is the only integer whose float is zero. This is followed through the conversion: the mantissa
is shifted into place, rounded, and packed with its exponent and sign. Shifting leaves no more bits
than a mantissa has, but never drops the leading one, and rounding does not make it smaller.
-/

namespace LineTemplate.Number

open Float.Model Float.Model.UnpackedFloat

/-- A float before it is packed that is neither zero nor undefined, and that has a place among the
numbers of 64 bits. -/
def Nonzero : UnpackedFloat → Prop
  | infinity _ => True
  | finite _ mantissa exponent _ => mantissa < 2 ^ 53 ∧ -1074 ≤ exponent
  | zero _ | notANumber => False

/-! ## Rounding -/

theorem shiftRight_mantissa (em : ExtendedMantissa) (k : Nat) :
    (em >>> k).mantissa = em.mantissa / 2 ^ k := by
  change (Nat.repeat ExtendedMantissa.shiftRightOne k em).mantissa = _
  induction k with
  | zero => simp [Nat.repeat]
  | succ k ih =>
    rw [Nat.repeat, ExtendedMantissa.shiftRightOne, ih, Nat.div_div_eq_div_mul, pow_succ]

theorem ofMantissaAndAccuracy_mantissa (m : Nat) (a : Accuracy) :
    (ExtendedMantissa.ofMantissaAndAccuracy m a).mantissa = m := by
  unfold ExtendedMantissa.ofMantissaAndAccuracy
  split <;> rfl

theorem le_roundToNearestEven (m : Nat) (a : Accuracy) : m ≤ a.roundToNearestEven m := by
  unfold Accuracy.roundToNearestEven
  split <;> omega

theorem targetExponent_eq (e : Int) : Format.binary64.targetExponent e = max (e - 53) (-1074) := rfl

/-- A mantissa that is shifted to the exponent it should have fits, and its leading bit stays. -/
theorem shifted {m : Nat} {e : Int} {a : Accuracy} (positive : 0 < m) (low : -1074 ≤ e) :
    0 < (shiftToTargetExponent .binary64 m e a).1.mantissa ∧
    (shiftToTargetExponent .binary64 m e a).1.mantissa < 2 ^ 53 ∧
    -1074 ≤ (shiftToTargetExponent .binary64 m e a).2 := by
  unfold shiftToTargetExponent shiftToExponent
  rw [targetExponent_eq]
  dsimp only
  rw [shiftRight_mantissa, ofMantissaAndAccuracy_mantissa]
  unfold totalExponent
  set shift := (max ((m.log2 : Int) + 1 + e - 53) (-1074) - e).toNat with hs
  have above : m.log2 + 1 ≤ 53 + shift := by omega
  have below : shift ≤ m.log2 := by omega
  have top : m < 2 ^ (53 + shift) :=
    lt_of_lt_of_le Nat.lt_log2_self (Nat.pow_le_pow_right (by decide) above)
  refine ⟨Nat.div_pos ?_ (by positivity), ?_, by omega⟩
  · exact (Nat.pow_le_pow_right (by decide) below).trans (Nat.log2_self_le positive.ne')
  · rw [Nat.div_lt_iff_lt_mul (by positivity), ← pow_add]
    exact top

theorem roundWithAccuracy_nonzero {s : Sign} {m : Nat} {e : Int} {a : Accuracy} (positive : 0 < m)
    (low : -1074 ≤ e) : Nonzero (roundWithAccuracy .binary64 s m e a) := by
  unfold roundWithAccuracy
  obtain ⟨first, -, low⟩ := shifted (a := a) positive low
  dsimp only
  generalize shiftToTargetExponent .binary64 m e a = once at *
  have rounded : 0 < once.1.roundedMantissa :=
    lt_of_lt_of_le first (le_roundToNearestEven _ _)
  obtain ⟨second, small, low⟩ := shifted (a := .exact) rounded low
  rw [dif_neg second.ne']
  exact ⟨small, low⟩

theorem round_nonzero {s : Sign} {m : Nat} {e : Int} (positive : 0 < m) (low : -1074 ≤ e) :
    Nonzero (UnpackedFloat.round .binary64 s m e) := by
  unfold UnpackedFloat.round decreaseExponent
  rw [targetExponent_eq]
  refine roundWithAccuracy_nonzero ?_ (by omega)
  rw [Nat.shiftLeft_eq]
  positivity

/-! ## Packing -/

theorem unpack_nonzero {b : BitVec Format.binary64.numBits}
    (some_bit : unpackExponent b ≠ 0#11 ∨ unpackMantissa b ≠ 0#52)
    (defined : unpackExponent b = -1#11 → unpackMantissa b = 0#52) :
    Nonzero (UnpackedFloat.unpack .binary64 b) := by
  have fits : (unpackMantissa b).toNat < 2 ^ 52 := (unpackMantissa b).isLt
  unfold UnpackedFloat.unpack
  dsimp only
  by_cases infinite : unpackExponent b = -1#11
  · rw [if_pos infinite, if_pos (defined infinite)]
    trivial
  rw [if_neg infinite]
  by_cases subnormal : unpackExponent b = 0#11
  · rw [if_pos subnormal, dif_neg (some_bit.resolve_left (not_not_intro subnormal))]
    refine ⟨fits.trans (by decide), ?_⟩
    rw [subnormal]
    decide
  · rw [if_neg subnormal]
    refine ⟨BitVec.isLt _, ?_⟩
    have normal : 0 < (unpackExponent b).toNat := by
      rw [Nat.pos_iff_ne_zero]
      exact fun none => subnormal (BitVec.eq_of_toNat_eq none)
    change -1074 ≤ ((unpackExponent b).toNat : Int) - (1023 + 52)
    omega

theorem unpack_packComponents {s : Sign} {e : BitVec 11} {m : BitVec 52}
    (some_bit : e ≠ 0#11 ∨ m ≠ 0#52) (defined : e = -1#11 → m = 0#52) :
    Nonzero (UnpackedFloat.unpack .binary64 (packComponents .binary64 s e m)) := by
  apply unpack_nonzero
  · rwa [unpackExponent_packComponents, unpackMantissa_packComponents]
  · rwa [unpackExponent_packComponents, unpackMantissa_packComponents]

theorem bits_ne_zero {w n : Nat} (positive : 0 < n) (small : n < 2 ^ w) :
    BitVec.ofNat w n ≠ 0#w := by
  intro zero
  have none := congrArg BitVec.toNat zero
  rw [BitVec.toNat_ofNat, Nat.mod_eq_of_lt small] at none
  exact positive.ne' none

theorem unpack_pack {x : UnpackedFloat} (h : Nonzero x) :
    Nonzero (UnpackedFloat.unpack .binary64 (UnpackedFloat.pack .binary64 x)) := by
  cases x with
  | notANumber | zero => exact h.elim
  | infinity s => exact unpack_packComponents (.inl (by decide)) fun _ => rfl
  | finite s m e positive =>
    obtain ⟨small, low⟩ := h
    unfold UnpackedFloat.pack
    dsimp only
    have biased :
        (e + (Format.binary64.exponentBias : Int) + (52 : Nat)).toNat = (e + 1075).toNat := by
      change (e + 1023 + 52).toNat = _
      omega
    rw [biased]
    split
    · exact unpack_packComponents (.inl (by decide)) fun _ => rfl
    rename_i bounded
    have exponent : (e + 1075).toNat + 1 < 2 ^ 11 := Nat.not_le.mp bounded
    split
    · refine unpack_packComponents (.inl (bits_ne_zero (by omega) (by omega))) ?_
      intro undefined
      have ones := congrArg BitVec.toNat undefined
      rw [BitVec.toNat_ofNat, Nat.mod_eq_of_lt (by omega)] at ones
      change _ = 2047 at ones
      omega
    · rename_i subnormal
      change ¬ m.log2 + 1 = 53 at subnormal
      have log : m.log2 < 53 := (Nat.log2_lt positive.ne').mpr small
      have smaller : m < 2 ^ 52 := (Nat.log2_lt positive.ne').mp (by omega)
      exact unpack_packComponents (.inr (bits_ne_zero positive smaller)) nofun

theorem neg_nonzero {x : UnpackedFloat} (h : Nonzero x) : Nonzero x.neg := by
  cases x <;> exact h

theorem beq_zero_of_nonzero {x : Float} (h : Nonzero x.toModel.unpack) : (x == 0) = false := by
  rw [Bool.eq_false_iff]
  intro same
  have zero : (0 : Float).toModel.unpack = .zero .positive := unpack_packedZero
  change x.toModel.unpack.beq (0 : Float).toModel.unpack = true at same
  rw [zero, beq_iff_ne_notANumber_and_eq] at same
  obtain ⟨-, -, zero | ⟨zero, -⟩ | ⟨zero, -⟩⟩ := same <;>
  · rw [zero] at h
    exact h

/-! ## The conversion -/

theorem toFloat_nonzero {n : UInt64} (h : n ≠ 0) : Nonzero n.toFloat.toModel.unpack := by
  have positive : 0 < n.toNat := by
    rw [Nat.pos_iff_ne_zero]
    exact fun zero => h (UInt64.toNat_inj.mp zero)
  have order : compare (n.toNat : Int) 0 = .gt := Int.compare_eq_gt.mpr (by omega)
  refine unpack_pack ?_
  change Nonzero (UnpackedFloat.normalize .binary64 (n.toNat : Int) 0 .positive)
  unfold UnpackedFloat.normalize
  rw [order]
  exact round_nonzero (by simpa) (by decide)

theorem toUInt64_ne_zero {n : Int64} (h : n ≠ 0) : n.toUInt64 ≠ 0 := by
  intro zero
  have same := congrArg UInt64.toInt64 zero
  rw [Int64.toInt64_toUInt64] at same
  exact h same

/-- An integer converts to zero exactly if it is zero. -/
theorem floatOfInt_eq_zero (n : Int64) : (floatOfInt n == 0) = (n == 0) := by
  by_cases zero : n = 0
  · subst zero
    decide +kernel
  rw [beq_eq_false_iff_ne.mpr zero]
  apply beq_zero_of_nonzero
  unfold floatOfInt
  split
  · have magnitude : (-n).toUInt64 ≠ 0 := toUInt64_ne_zero (Int64.neg_ne_zero.mpr zero)
    exact unpack_pack (neg_nonzero (toFloat_nonzero magnitude))
  · exact toFloat_nonzero (toUInt64_ne_zero zero)

end LineTemplate.Number
