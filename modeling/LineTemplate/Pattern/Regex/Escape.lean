import LineTemplate.Pattern.Regex.Basic
import LineTemplate.Pattern.Regex.Flags
import LineTemplate.Pattern.Regex.Property

/-!
# Escape sequences of patterns

A backslash gives a punctuation mark its plain meaning and a letter a special one: a character by
its code point, a set of characters, or a condition on a place.
-/

namespace LineTemplate.Regex

open Unicode Number

inductive Escape where
  | literal (c : Char)
  | oneOf (set : Ranges)
  | place (place : Place)

def scalar? (n : Nat) : Option Char :=
  if n.isValidChar then some (Char.ofNat n) else none

/-- A code point in hexadecimal: in braces, or with a fixed count of digits. -/
def readHex (flags : Flags) (count : Nat) : Text → Option (Char × Text)
  | '{' :: rest =>
    match readWhile flags isHexDigit (skipBlanks flags rest) with
    | ([], _) => none
    | (digits, '}' :: after) => (scalar? (ofDigits 16 digits)).map (·, after)
    | _ => none
  | s => do
    let (digits, after) ← readExactly flags isHexDigit count s
    (scalar? (ofDigits 16 digits)).map (·, after)

/-- A character by its code point. Without the Unicode flag, two digits stand for a byte. -/
def readCode (flags : Flags) (count : Nat) (s : Text) : Option (Escape × Text) := do
  let s := skipBlanks flags s
  let (c, rest) ← readHex flags count s
  if !flags.unicode && count = 2 && s.head? ≠ some '{' && 128 ≤ c.toNat then none
  else some (.literal c, rest)

def wordEdge (flags : Flags) (edge : WordEdge) : Escape :=
  .place (.wordEdge edge flags.unicode)

def readNamedEdge (flags : Flags) (s : Text) : Option (Escape × Text) :=
  match readWhile flags (fun c => c.isAlpha || c = '-') s with
  | (name, '}' :: rest) =>
    match Text.str name with
    | "start" => some (wordEdge flags .start, rest)
    | "end" => some (wordEdge flags .stop, rest)
    | "start-half" => some (wordEdge flags .startHalf, rest)
    | "end-half" => some (wordEdge flags .stopHalf, rest)
    | _ => none
  | _ => none

/-- A property that is named in braces, by its name or by its name and a value, and whether it must
have another value. -/
def namedProperty? (name : Text) : Option (Bool × Ranges) :=
  match Text.splitOnce? '!' name with
  | some (property, '=' :: value) => (valueRanges? property value).map (true, ·)
  | _ =>
    match (Text.splitOnce? ':' name).or (Text.splitOnce? '=' name) with
    | some (property, value) => (valueRanges? property value).map (false, ·)
    | none => (propertyRanges? name).map (false, ·)

/-- A set by a property, after the letter `p`, or `P` if it is negated. Its complement is taken
after its case variants have been added. -/
def readProperty (flags : Flags) (negated : Bool) (s : Text) : Option (Escape × Text) := do
  let ((differs, set), rest) ← match skipBlanks flags s with
    | [] => none
    | '{' :: braced =>
      match readWhile flags (· ≠ '}') (skipBlanks flags braced) with
      | (name, '}' :: rest) => (namedProperty? name).map (·, rest)
      | _ => none
    | c :: rest => (propertyRanges? [c]).map fun set => ((false, set), rest)
  if !flags.unicode then none
  else
    let set := flags.folded set
    some (.oneOf (if negated != differs then set.complement else set), rest)

def readEscape (flags : Flags) : Text → Option (Escape × Text)
  | [] => none
  | c :: rest =>
    match c with
    | 'x' => readCode flags 2 rest
    | 'u' => readCode flags 4 rest
    | 'U' => readCode flags 8 rest
    | 'p' => readProperty flags false rest
    | 'P' => readProperty flags true rest
    | 'd' => some (.oneOf flags.digits, rest)
    | 's' => some (.oneOf flags.blanks, rest)
    | 'w' => some (.oneOf flags.words, rest)
    | 'D' => (flags.complement? flags.digits).map (.oneOf ·, rest)
    | 'S' => (flags.complement? flags.blanks).map (.oneOf ·, rest)
    | 'W' => (flags.complement? flags.words).map (.oneOf ·, rest)
    | 'a' => some (.literal '\x07', rest)
    | 'f' => some (.literal '\x0c', rest)
    | 't' => some (.literal '\t', rest)
    | 'n' => some (.literal '\n', rest)
    | 'r' => some (.literal '\r', rest)
    | 'v' => some (.literal '\x0b', rest)
    | 'A' => some (.place .textStart, rest)
    | 'z' => some (.place .textEnd, rest)
    | 'B' => some (wordEdge flags .inside, rest)
    | '<' => some (wordEdge flags .start, rest)
    | '>' => some (wordEdge flags .stop, rest)
    | 'b' =>
      match rest with
      | '{' :: braced =>
        match skipBlanks flags braced with
        | [] => none
        | d :: more =>
          if d.isAlpha || d = '-' then readNamedEdge flags (d :: more)
          else some (wordEdge flags .boundary, rest)
      | _ => some (wordEdge flags .boundary, rest)
    | c => if c.toNat < 128 && !c.isAlphanum then some (.literal c, rest) else none

end LineTemplate.Regex
