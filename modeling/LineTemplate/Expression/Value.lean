import LineTemplate.Number.Decimal
import LineTemplate.Number.Shortest

/-!
# Values

What a condition computes with: integers of 64 bits, floats and texts. A text that spells a number
is used as that number wherever an operator wants one, so a variable, which is always text, counts
as what it spells.
-/

namespace LineTemplate

open Number

inductive Value where
  | int (n : Int64)
  | float (x : Float)
  | text (s : Text)

inductive EvalError where
  | divisionByZero
  | moduloByZero
  | badPattern (pattern : Text)
  /-- The pattern needs an automaton of more than so many bytes. -/
  | largePattern (pattern : Text) (limit : Nat)
  | unknownFunction (name : Text)
  deriving DecidableEq

def EvalError.message : EvalError → String
  | divisionByZero => "division by zero"
  | moduloByZero => "modulo by zero"
  | badPattern pattern => s!"bad regex '{pattern.str}': regex parse error"
  | largePattern pattern limit =>
    s!"bad regex '{pattern.str}': Compiled regex exceeds size limit of {limit} bytes."
  | unknownFunction name => s!"unknown function: {name.str}()"

inductive Numeral where
  | int (n : Int64)
  | float (x : Float)

def Numeral.toFloat : Numeral → Float
  | int n => floatOfInt n
  | float x => x

/--
The text of a float: the shortest decimal that reads back, never with an exponent; whole numbers
below `10 ^ 15` keep one zero after the point, so that they still read as floats.
-/
def displayFloat (x : Float) : Text :=
  if x.isNaN then "NaN".toList
  else
    let sign := if (Binary.ofFloat x).negative then ['-'] else []
    let magnitude :=
      if x.isInf then "inf".toList
      else if x == 0 then "0.0".toList
      else
        let decimal := shortest .up x.abs
        if 0 ≤ decimal.exponent && x.abs < 1e15 then decimal.positional ++ ['.', '0']
        else decimal.positional
    sign ++ magnitude

namespace Value

/-- The empty text, which is also the value of a variable without one. -/
def blank : Value := .text []

/-- The value of a comparison: one or zero. -/
def ofBool (b : Bool) : Value :=
  .int (if b then 1 else 0)

def display : Value → Text
  | int n => Text.ofInt n.toInt
  | float x => displayFloat x
  | text s => s

/-- Zero, the empty text and the text `0` are false; everything else is true. -/
def truth : Value → Bool
  | int n => n != 0
  | float x => x != 0
  | text s => !(s = [] || s = ['0'])

/-- The number that a value is or spells: an integer if it can be read as one, else a float. -/
def numeral? : Value → Option Numeral
  | int n => some (.int n)
  | float x => some (.float x)
  | text s =>
    match readInt? s.trim with
    | some n => some (.int n)
    | none => (readFloat? s.trim).map .float

/-- The number that a value is or spells, zero if it spells none. -/
def numeral (v : Value) : Numeral :=
  v.numeral?.getD (.int 0)

/-- Applies an operation to two numbers, on integers if both are integers. -/
def arithmetic (ints : Int64 → Int64 → Int64) (floats : Float → Float → Float) (a b : Value) :
    Value :=
  match a.numeral, b.numeral with
  | .int m, .int n => .int (ints m n)
  | m, n => .float (floats m.toFloat n.toFloat)

/-- A value that must not divide: text that spells no number, or a number that is zero as a float. -/
def isZero (v : Value) : Bool :=
  match v.numeral? with
  | some n => n.toFloat == 0
  | none => true

/-- The sum of two numbers; if either value spells no number, the two texts together. -/
def add (a b : Value) : Value :=
  if a.numeral?.isNone || b.numeral?.isNone then .text (a.display ++ b.display)
  else arithmetic (· + ·) (· + ·) a b

def sub (a b : Value) : Value :=
  arithmetic (· - ·) (· - ·) a b

def mul (a b : Value) : Value :=
  arithmetic (· * ·) (· * ·) a b

/-- The quotient of two numbers, truncated toward zero for integers. -/
def div (a b : Value) : Except EvalError Value :=
  if b.isZero then .error .divisionByZero else .ok (arithmetic (· / ·) (· / ·) a b)

/-- The remainder of the quotient truncated toward zero. -/
def rem (a b : Value) : Except EvalError Value :=
  if b.isZero then .error .moduloByZero else .ok (arithmetic (· % ·) floatRemainder a b)

/-- The negative of a number; zero for text that spells none. -/
def neg (v : Value) : Value :=
  match v.numeral? with
  | some (.int n) => .int (-n)
  | some (.float x) => .float (-x)
  | none => .int 0

/-- The order of two floats; what is not a number is equal to everything. -/
def compareFloats (x y : Float) : Ordering :=
  if x < y then .lt else if y < x then .gt else .eq

/-- The order of two numbers, or else of two texts. -/
def compare (a b : Value) : Ordering :=
  match a.numeral?, b.numeral? with
  | some (.int m), some (.int n) => Ord.compare m.toInt n.toInt
  | some m, some n => compareFloats m.toFloat n.toFloat
  | _, _ => Text.order a.display b.display

end Value

end LineTemplate
