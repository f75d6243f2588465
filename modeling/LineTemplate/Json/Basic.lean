import LineTemplate.Number.Shortest

/-!
# JSON

JSON values and their compact text. Numbers are integers of 64 bits, signed or unsigned, or floats.
-/

namespace LineTemplate

open Number

/-- A JSON value. The names of an object are distinct. -/
inductive Json where
  | null
  | bool (b : Bool)
  | int (n : Int)
  | float (x : Float)
  | str (s : Text)
  | arr (items : List Json)
  | obj (fields : List (Text × Json))

namespace Json

def escaped (c : Char) : Text :=
  if c = '"' then ['\\', '"']
  else if c = '\\' then ['\\', '\\']
  else if c = '\x08' then ['\\', 'b']
  else if c = '\x0c' then ['\\', 'f']
  else if c = '\n' then ['\\', 'n']
  else if c = '\r' then ['\\', 'r']
  else if c = '\t' then ['\\', 't']
  else if c.toNat < 0x20 then
    ['\\', 'u', '0', '0', Nat.digitChar (c.toNat / 16), Nat.digitChar (c.toNat % 16)]
  else [c]

def quoted (s : Text) : Text :=
  '"' :: s.flatMap escaped ++ ['"']

/--
A float: the shortest decimal that reads back, with a point, or with an exponent if its first digit
is worth `10 ^ 16` or more, or less than `10 ^ -5`.
-/
def floatText (x : Float) : Text :=
  let sign := if (Binary.ofFloat x).negative then ['-'] else []
  let magnitude :=
    if x == 0 then ['0', '.', '0']
    else
      let decimal := shortest .even x.abs
      if decimal.magnitude < -5 || 16 ≤ decimal.magnitude then decimal.scientific ['+']
      else if 0 ≤ decimal.exponent then decimal.positional ++ ['.', '0']
      else decimal.positional
  sign ++ magnitude

mutual

/-- The text of a value, without blanks. -/
def compact : Json → Text
  | null => ['n', 'u', 'l', 'l']
  | bool true => ['t', 'r', 'u', 'e']
  | bool false => ['f', 'a', 'l', 's', 'e']
  | int n => Text.ofInt n
  | float x => floatText x
  | str s => quoted s
  | arr items => '[' :: compactItems items
  | obj fields => '{' :: compactFields fields

def compactItems : List Json → Text
  | [] => [']']
  | [item] => compact item ++ [']']
  | item :: rest => compact item ++ ',' :: compactItems rest

def compactFields : List (Text × Json) → Text
  | [] => ['}']
  | [(name, value)] => quoted name ++ ':' :: compact value ++ ['}']
  | (name, value) :: rest => quoted name ++ ':' :: compact value ++ ',' :: compactFields rest

end

end Json

end LineTemplate
