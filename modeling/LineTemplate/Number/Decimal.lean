import LineTemplate.Text.Basic

/-!
# Reading numbers

Integers are written as an optional sign and decimal digits, floats as a decimal fraction with an
optional exponent, or as one of the words for the infinities and for what is not a number. A float
is the binary64 number nearest to what is written.
-/

namespace LineTemplate.Number

/-- The number that a sequence of digits spells in a base. -/
def ofDigits (base : Nat) (digits : Text) : Nat :=
  digits.foldl (fun n c => n * base + digitValue c) 0
where
  /-- The value of a digit up to `f`, in either case. -/
  digitValue (c : Char) : Nat :=
    if c.isDigit then c.toNat - '0'.toNat
    else if 'a' ≤ c && c ≤ 'f' then c.toNat - 'a'.toNat + 10
    else c.toNat - 'A'.toNat + 10

def isHexDigit (c : Char) : Bool :=
  c.isDigit || ('a' ≤ c && c ≤ 'f') || ('A' ≤ c && c ≤ 'F')

/-- The 64-bit word of an integer, if it has one. -/
def int64? (n : Int) : Option Int64 :=
  if Int64.minValue.toInt ≤ n ∧ n ≤ Int64.maxValue.toInt then some (Int64.ofInt n) else none

/-- The sign that a numeral starts with (`true` for minus), and the rest of it. -/
def splitSign : Text → Bool × Text
  | '-' :: rest => (true, rest)
  | '+' :: rest => (false, rest)
  | s => (false, s)

def isNumeral (s : Text) : Bool :=
  !s.isEmpty && s.all Char.isDigit

/-- Reads a signed integer of 64 bits. -/
def readInt? (s : Text) : Option Int64 :=
  let (negative, digits) := splitSign s
  if isNumeral digits then
    int64? (if negative then -(ofDigits 10 digits : Int) else ofDigits 10 digits)
  else none

/-- Reads a number without a sign, or with a plus, that is below `limit`. -/
def readNat? (limit : Nat) (s : Text) : Option Nat :=
  let digits := match s with
    | '+' :: rest => rest
    | _ => s
  if isNumeral digits && ofDigits 10 digits < limit then some (ofDigits 10 digits) else none

/--
The float nearest to `digits * 10 ^ exponent`. What lies far beyond the range of floats is
infinite or zero.
-/
def nearest (digits : Nat) (exponent : Int) : Float :=
  let top := exponent + (Nat.toDigits 10 digits).length
  if digits = 0 || top < -330 then 0
  else if top > 310 then 1 / 0
  else Float.ofScientific digits (exponent < 0) exponent.natAbs

/-- An exponent: nothing, or `e`, an optional sign and digits. -/
def readExponent? : Text → Option Int
  | [] => some 0
  | c :: rest =>
    let (negative, digits) := splitSign rest
    if (c = 'e' || c = 'E') && isNumeral digits then
      some (if negative then -(ofDigits 10 digits : Int) else ofDigits 10 digits)
    else none

/-- A decimal fraction with an optional exponent, without a sign. -/
def readMagnitude? (s : Text) : Option Float :=
  let whole := s.takeWhile Char.isDigit
  let afterWhole := s.dropWhile Char.isDigit
  let (fraction, afterFraction) := match afterWhole with
    | '.' :: rest => (rest.takeWhile Char.isDigit, rest.dropWhile Char.isDigit)
    | _ => ([], afterWhole)
  if whole.isEmpty && fraction.isEmpty then none
  else (readExponent? afterFraction).map fun exponent =>
    nearest (ofDigits 10 (whole ++ fraction)) (exponent - fraction.length)

def readFloat? (s : Text) : Option Float :=
  let (negative, magnitude) := splitSign s
  let unsigned :=
    if Text.sameIgnoringCase magnitude "inf".toList then some (1 / 0)
    else if Text.sameIgnoringCase magnitude "infinity".toList then some (1 / 0)
    else if Text.sameIgnoringCase magnitude "nan".toList then some (0 / 0)
    else readMagnitude? magnitude
  unsigned.map fun x => if negative then -x else x

end LineTemplate.Number
