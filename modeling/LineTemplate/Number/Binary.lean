/-!
# Floats as integers

A finite binary64 number is `± mantissa * 2 ^ exponent` with a mantissa below `2 ^ 53`. The exact
operations on floats that the hardware does not give are done on this form.
-/

namespace LineTemplate.Number

structure Binary where
  negative : Bool
  mantissa : Nat
  exponent : Int

namespace Binary

/-- The least mantissa of a number that is not subnormal; its bit is not stored. -/
def leadingBit : Nat := 1 <<< 52

def ofFloat (x : Float) : Binary :=
  let bits : Nat := x.toBits.toNat
  let biased : Nat := (bits >>> 52) % 2048
  let fraction : Nat := bits % leadingBit
  let negative := bits >>> 63 == 1
  if biased == 0 then ⟨negative, fraction, -1074⟩
  else ⟨negative, leadingBit + fraction, (biased : Int) - 1075⟩

/-- Puts a float together; the number must be one. -/
def toFloat (b : Binary) : Float :=
  let magnitude := (Float.ofNat b.mantissa).scaleB b.exponent
  if b.negative then -magnitude else magnitude

/-- The remainder of the division that truncates toward zero; it has the sign of `x`. -/
def remainder (x y : Binary) : Binary :=
  let exponent := min x.exponent y.exponent
  let dividend := x.mantissa <<< (x.exponent - exponent).toNat
  let divisor := y.mantissa <<< (y.exponent - exponent).toNat
  ⟨x.negative, dividend % divisor, exponent⟩

end Binary

/-- The float next to an integer. Rounding is the same on both sides of zero, so it is done on the
magnitude, which for the least integer is what its negative wraps to. -/
def floatOfInt (n : Int64) : Float :=
  if n < 0 then -(-n).toUInt64.toFloat else n.toUInt64.toFloat

/-- The remainder of `x / y` truncated toward zero, exact, with the sign of `x`. -/
def floatRemainder (x y : Float) : Float :=
  if x.isNaN || y.isNaN || x.isInf || y == 0 then 0 / 0
  else if y.isInf then x
  else ((Binary.ofFloat x).remainder (Binary.ofFloat y)).toFloat

end LineTemplate.Number
