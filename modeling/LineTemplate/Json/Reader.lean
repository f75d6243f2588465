import LineTemplate.Json.Basic
import LineTemplate.Number.Decimal

/-!
# Reading JSON

A reader of JSON texts. Of several fields of one name the last value counts, at the place of the
first. Arrays and objects nest at most 127 deep. Floats are computed from at most 64 bits of their
digits by one multiplication or division, which need not give the nearest float.

The number that the reading functions count down bounds their depth; every call of one consumes a
character, so the length of the text is enough.
-/

namespace LineTemplate.Json

open Number

def isSpace (c : Char) : Bool :=
  c = ' ' || c = '\n' || c = '\t' || c = '\r'

/-- The text without the blanks at its start. -/
def skipSpace (s : Text) : Text :=
  s.dropWhile isSpace

/-- The number that four hexadecimal digits spell. -/
def hex4? (a b c d : Char) : Option Nat :=
  if [a, b, c, d].all isHexDigit then some (ofDigits 16 [a, b, c, d]) else none

/-- The character that a letter after a backslash stands for. -/
def escape? (c : Char) : Option Char :=
  match c with
  | '"' => some '"'
  | '\\' => some '\\'
  | '/' => some '/'
  | 'b' => some '\x08'
  | 'f' => some '\x0c'
  | 'n' => some '\n'
  | 'r' => some '\r'
  | 't' => some '\t'
  | _ => none

/-- Adds a character to what was read after it. -/
def addChar (c : Char) (read : Option (Text × Text)) : Option (Text × Text) :=
  read.map fun (s, rest) => (c :: s, rest)

/-- The content of a string up to its closing quote, and what follows the quote. -/
def readString : Text → Option (Text × Text)
  | '\\' :: 'u' :: a :: b :: c :: d :: rest =>
    match hex4? a b c d with
    | none => none
    | some high =>
      if 0xD800 ≤ high && high < 0xDC00 then
        match rest with
        | '\\' :: 'u' :: e :: f :: g :: h :: rest =>
          match hex4? e f g h with
          | none => none
          | some low =>
            if 0xDC00 ≤ low && low < 0xE000 then
              let code := 0x10000 + (high - 0xD800) * 0x400 + (low - 0xDC00)
              addChar (Char.ofNat code) (readString rest)
            else none
        | _ => none
      else if 0xDC00 ≤ high && high < 0xE000 then none
      else addChar (Char.ofNat high) (readString rest)
  | '\\' :: c :: rest =>
    match escape? c with
    | some c => addChar c (readString rest)
    | none => none
  | '"' :: rest => some ([], rest)
  | c :: rest => if c.toNat < 0x20 then none else addChar c (readString rest)
  | [] => none

/-- The numbers of 64 bits without a sign are below this one. -/
def wordLimit : Nat := UInt64.size

/-- Takes digits into `significand` as long as it stays below the limit, and counts them. -/
def takeDigits (significand : Nat) : Text → Nat × Nat
  | [] => (significand, 0)
  | c :: rest =>
    let longer := significand * 10 + (c.toNat - '0'.toNat)
    if longer < wordLimit then
      let (significand, count) := takeDigits longer rest
      (significand, count + 1)
    else (significand, 0)

/-- The float `significand * 10 ^ exponent`, if it is not out of range. -/
def scaled (significand : Nat) (exponent : Int) : Option Float :=
  let x := (UInt64.ofNat significand).toFloat
  let power (n : Nat) : Float := Float.ofScientific 1 false n
  if 0 ≤ exponent then
    if exponent ≤ 308 then
      let product := x * power exponent.toNat
      if product.isInf then none else some product
    else if x == 0 then some 0
    else none
  else if -308 ≤ exponent then some (x / power exponent.natAbs)
  else if -616 ≤ exponent then some (x / power 308 / power (exponent.natAbs - 308))
  else some 0

/-- The exponent of a number: its sign and its digits, at least one. -/
def readExponent (s : Text) : Option (Bool × Text × Text) :=
  let (negative, s) := splitSign s
  let digits := s.takeWhile Char.isDigit
  if digits.isEmpty then none else some (negative, digits, s.dropWhile Char.isDigit)

/-- The float of a number with an exponent that adds to the one its digits have. -/
def scaledBy (significand : Nat) (exponent : Int) (negative : Bool) (digits : Text) :
    Option Float :=
  let n := ofDigits 10 digits
  if Int32.maxValue.toInt < n then
    if significand ≠ 0 && !negative then none else some 0
  else scaled significand (if negative then exponent - n else exponent + n)

def readMagnitude (negative : Bool) (s : Text) : Option (Json × Text) :=
  let whole := s.takeWhile Char.isDigit
  let afterWhole := s.dropWhile Char.isDigit
  let signed (x : Option Float) (rest : Text) : Option (Json × Text) :=
    x.map fun x => (.float (if negative then -x else x), rest)
  if whole.isEmpty || (whole.head? = some '0' && 1 < whole.length) then none
  else
    let (significand, taken) := takeDigits 0 whole
    let dropped : Int := (whole.length - taken : Nat)
    match afterWhole with
    | '.' :: afterPoint =>
      let fraction := afterPoint.takeWhile Char.isDigit
      let rest := afterPoint.dropWhile Char.isDigit
      if fraction.isEmpty then none
      else
        let (significand, taken) := takeDigits significand fraction
        let exponent := dropped - taken
        match rest with
        | 'e' :: rest | 'E' :: rest => do
          let (negativeExponent, digits, rest) ← readExponent rest
          signed (scaledBy significand exponent negativeExponent digits) rest
        | _ => signed (scaled significand exponent) rest
    | 'e' :: rest | 'E' :: rest => do
      let (negativeExponent, digits, rest) ← readExponent rest
      signed (scaledBy significand dropped negativeExponent digits) rest
    | rest =>
      if 0 < dropped then signed (scaled significand dropped) rest
      else if !negative then some (.int significand, rest)
      -- Minus zero, and what lies below the signed integers, is a float.
      else if significand = 0 || (int64? (-(significand : Int))).isNone then
        some (.float (-(UInt64.ofNat significand).toFloat), rest)
      else some (.int (-(significand : Int)), rest)

/-- A value other than a string, an array or an object. -/
def readScalar (s : Text) : Option (Json × Text) :=
  match s with
  | 'n' :: 'u' :: 'l' :: 'l' :: rest => some (.null, rest)
  | 't' :: 'r' :: 'u' :: 'e' :: rest => some (.bool true, rest)
  | 'f' :: 'a' :: 'l' :: 's' :: 'e' :: rest => some (.bool false, rest)
  | '-' :: rest => readMagnitude true rest
  | s => readMagnitude false s

/-- Gives a field a value, at its old place if it has one. -/
def setField (name : Text) (value : Json) : List (Text × Json) → List (Text × Json)
  | [] => [(name, value)]
  | (other, old) :: rest =>
    if other = name then (name, value) :: rest else (other, old) :: setField name value rest

def mergeFields (fields : List (Text × Json)) : List (Text × Json) :=
  fields.foldl (fun merged (name, value) => setField name value merged) []

mutual

/-- A value inside of which arrays and objects nest at most `depth` deep. -/
def readValue : (bound depth : Nat) → Text → Option (Json × Text)
  | 0, _, _ => none
  | bound + 1, depth, s =>
    match skipSpace s, depth with
    | '[' :: _, 0 | '{' :: _, 0 => none
    | '[' :: rest, depth + 1 =>
      match skipSpace rest with
      | ']' :: rest => some (.arr [], rest)
      | _ => (readItems bound depth rest).map fun (items, rest) => (.arr items, rest)
    | '{' :: rest, depth + 1 =>
      match skipSpace rest with
      | '}' :: rest => some (.obj [], rest)
      | _ =>
        (readFields bound depth rest).map fun (fields, rest) => (.obj (mergeFields fields), rest)
    | '"' :: rest, _ => (readString rest).map fun (s, rest) => (.str s, rest)
    | s, _ => readScalar s

/-- The items of an array, at least one, up to and with its closing bracket. -/
def readItems : (bound depth : Nat) → Text → Option (List Json × Text)
  | 0, _, _ => none
  | bound + 1, depth, s =>
    match readValue bound depth s with
    | none => none
    | some (item, rest) =>
      match skipSpace rest with
      | ']' :: rest => some ([item], rest)
      | ',' :: rest =>
        (readItems bound depth rest).map fun (items, rest) => (item :: items, rest)
      | _ => none

/-- The fields of an object, at least one, up to and with its closing brace. -/
def readFields : (bound depth : Nat) → Text → Option (List (Text × Json) × Text)
  | 0, _, _ => none
  | bound + 1, depth, s =>
    match skipSpace s with
    | '"' :: rest =>
      match readString rest with
      | none => none
      | some (name, rest) =>
        match skipSpace rest with
        | ':' :: rest =>
          match readValue bound depth rest with
          | none => none
          | some (value, rest) =>
            match skipSpace rest with
            | '}' :: rest => some ([(name, value)], rest)
            | ',' :: rest =>
              (readFields bound depth rest).map fun (fields, rest) =>
                ((name, value) :: fields, rest)
            | _ => none
        | _ => none
    | _ => none

end

/-- How deep arrays and objects may nest. -/
def depthLimit : Nat := 127

def ofText? (s : Text) : Option Json :=
  match readValue (2 * s.length + 2) depthLimit s with
  | some (v, rest) => if (skipSpace rest).isEmpty then some v else none
  | none => none

end LineTemplate.Json
