import LineTemplate.Number.Binary
import LineTemplate.Text.Basic

/-!
# The shortest decimal of a float

Of all decimals that a reader would round back to a given float, the one with the fewest digits is
printed; of several with as few digits, the nearest to the float. Which of two at the same distance
is printed, the caller decides. A decimal reads back when it lies between the midpoints to the two
neighbouring floats, the midpoints included when the mantissa is even.
-/

namespace LineTemplate.Number

/-- A positive decimal `digits * 10 ^ exponent`. -/
structure Decimal where
  digits : Text
  exponent : Int

/-- What becomes of a float half-way between two decimals. -/
inductive Tie where
  | up
  /-- The decimal whose last digit is even. -/
  | even

/--
The point of the grid of multiples of `10 ^ exponent` that reads back to the positive float
`mantissa * 2 ^ q`, the nearest one if several do.
-/
def onGrid? (tie : Tie) (mantissa : Nat) (q exponent : Int) : Option Nat :=
  -- All quantities are in quarters of the unit in the last place, over a common denominator.
  let up := Nat.pow 10 (-exponent).toNat <<< (q - 2).toNat
  let down := Nat.pow 10 exponent.toNat <<< (2 - q).toNat
  let value := 4 * mantissa * up
  let belowGap := if mantissa = Binary.leadingBit && -1074 < q then 1 else 2
  let low := (4 * mantissa - belowGap) * up
  let high := (4 * mantissa + 2) * up
  let readsBack (point : Nat) : Bool :=
    if mantissa % 2 = 0 then low ≤ point * down && point * down ≤ high
    else low < point * down && point * down < high
  let below := value / down
  let above := below + 1
  match readsBack below, readsBack above with
  | true, true =>
    let belowIsNearer := match compare (value - below * down) (above * down - value), tie with
      | .lt, _ => true
      | .eq, .even => below % 2 = 0
      | _, _ => false
    some (if belowIsNearer then below else above)
  | true, false => some below
  | false, true => some above
  | false, false => none

def Decimal.normal (digits : Text) (exponent : Int) : Decimal :=
  let kept := (digits.reverse.dropWhile (· = '0')).reverse
  ⟨kept, exponent + (digits.length - kept.length : Nat)⟩

/-- The shortest decimal that reads back to a positive finite float. -/
def shortest (tie : Tie) (x : Float) : Decimal :=
  let b := Binary.ofFloat x
  -- The first grid is coarser than the float itself, the last one has more than 17 digits.
  let top := ((b.mantissa.log2 : Int) + b.exponent + 1) * 1233 / 4096 + 1
  let found := (List.range 24).findSome? fun (step : Nat) =>
    (onGrid? tie b.mantissa b.exponent (top - step)).map fun point =>
      Decimal.normal (Text.ofNat point) (top - step)
  found.getD ⟨[], 0⟩

/-- The digits of a decimal with a point between them or zeros beside them, as needed. -/
def Decimal.positional (d : Decimal) : Text :=
  if 0 ≤ d.exponent then d.digits ++ List.replicate d.exponent.toNat '0'
  else
    let places := d.exponent.natAbs
    if places < d.digits.length then
      d.digits.take (d.digits.length - places) ++ '.' :: d.digits.drop (d.digits.length - places)
    else '0' :: '.' :: List.replicate (places - d.digits.length) '0' ++ d.digits

/-- The power of ten of the first digit. -/
def Decimal.magnitude (d : Decimal) : Int :=
  d.exponent + d.digits.length - 1

/-- One digit before the point, and the power of ten; `plus` is the sign of a power that is not
negative. -/
def Decimal.scientific (plus : Text) (d : Decimal) : Text :=
  let mantissa := match d.digits with
    | first :: second :: rest => first :: '.' :: second :: rest
    | digits => digits
  let sign := if d.magnitude < 0 then ['-'] else plus
  mantissa ++ 'e' :: sign ++ Text.ofNat d.magnitude.natAbs

end LineTemplate.Number
