import LineTemplate.Pattern.Regex.Brackets
import LineTemplate.Pattern.Regex.Normal

/-!
# Reading regular expressions

The notation of regular expressions: sets of characters with operations and properties, anchors,
groups, repetitions and flags. There are no back references and no assertions about what is around a
match. Reading fails on anything that the notation does not define, and on patterns that are nested
too deeply.

The number that the reading functions count down bounds their depth; every call of one consumes a
character of the pattern, so its length is enough.
-/

namespace LineTemplate.Regex

open Unicode Number

def depthLimit : Nat := 250

/-! ## The parts of groups and repetitions -/

/-- The flags of a group, and what ends them: a colon before the content of the group, or a
parenthesis. -/
def readFlags : Flags → (negated dangling : Bool) → (seen : List Char) → Text →
    Option (Flags × List Char × Char × Text)
  | _, _, _, _, [] => none
  | flags, negated, dangling, seen, c :: rest =>
    if c = ':' || c = ')' then if dangling then none else some (flags, seen, c, rest)
    else if c = '-' then if negated then none else readFlags flags true true seen rest
    else if seen.contains c then none
    else do readFlags (← flags.set c !negated) negated false (c :: seen) rest

/-- The name of a group, up to its angle bracket. -/
def readGroupName (s : Text) : Option (Text × Text) :=
  let name := s.takeWhile (· ≠ '>')
  let valid := match name with
    | [] => false
    | c :: rest => (isAlphabetic c || c = '_') &&
        rest.all fun c => isAlphanumeric c || c = '_' || c = '.' || c = '[' || c = ']'
  match s.dropWhile (· ≠ '>') with
  | '>' :: rest => if valid then some (name, rest) else none
  | _ => none

def readCount (flags : Flags) (s : Text) : Option Nat × Text :=
  let (digits, rest) := readWhile flags Char.isDigit ((skipBlanks flags s).dropWhile isBlank)
  let count := ofDigits 10 digits
  (if digits.isEmpty || UInt32.size ≤ count then none else some count, rest.dropWhile isBlank)

/-- The bounds of a repetition in braces, after the opening brace. -/
def readBounds (flags : Flags) (s : Text) : Option ((Nat × Option Nat) × Text) := do
  let (least, rest) := readCount flags s
  match rest with
  | ',' :: rest =>
    match skipBlanks flags rest with
    | '}' :: rest => do pure ((← least, none), rest)
    | rest => do
      let least ← least
      let (most, rest) := readCount flags rest
      let most ← most
      match rest with
      | '}' :: rest => if least ≤ most then some ((least, some most), rest) else none
      | _ => none
  | '}' :: rest => do
    let least ← least
    some ((least, some least), rest)
  | _ => none

/-- What has been read of a group: its finished alternatives and the items of the current one, the
last ones first, each with its depth. An item that is not there was a change of flags, which nothing
can repeat. Groups are numbered over the whole pattern. -/
structure Partial where
  flags : Flags
  names : List Text := []
  groups : Nat := 0
  finished : List (Regex × Nat) := []
  items : List (Option Regex × Nat) := []

namespace Partial

/-- One level more than the deepest of several parts, or the depth of a single one. -/
def depthOf : List Nat → Nat
  | [] => 0
  | [depth] => depth
  | depths => depths.foldl max 0 + 1

def current (p : Partial) : Regex × Nat :=
  let append (r : Regex) (item : Option Regex × Nat) : Regex := (item.1.getD .empty).append r
  (p.items.foldl append .empty, depthOf (p.items.map (·.2)))

/-- The alternatives read so far, as one expression. -/
def toRegex (p : Partial) : Regex × Nat :=
  match p.finished with
  | [] => p.current
  | finished =>
    let all := (p.current :: finished).reverse
    (alternatives (all.map (·.1)), depthOf (all.map (·.2)))

def push (p : Partial) (r : Regex) (depth : Nat) : Partial :=
  { p with items := (some r, depth) :: p.items }

def nextAlternative (p : Partial) : Partial :=
  { p with finished := p.current :: p.finished, items := [] }

def repeatLast (p : Partial) (least : Nat) (most : Option Nat) (lazy : Bool) : Option Partial :=
  match p.items with
  | (some r, depth) :: items =>
    let greedy := lazy == p.flags.swapGreed
    some { p with items := (some (repetition least most greedy r), depth + 1) :: items }
  | _ => none

end Partial

/-- Whether a question mark follows a repetition, which is then lazy, and the text after it. -/
def readLazy : Text → Bool × Text
  | '?' :: rest => (true, rest)
  | s => (false, s)

/-- A character that stands for itself, or for its case variants. -/
def ofChar (flags : Flags) (c : Char) : Regex :=
  ofSet (flags.folded (.only c))

/-- Any character but those that end lines. -/
def dot (flags : Flags) : Option Regex :=
  if !flags.unicode then none
  else
    let excluded : Ranges :=
      if flags.dotMatchesLineFeed then []
      else if flags.carriageReturns then .ofTable "A D"
      else .ofTable "A"
    some (ofSet excluded.complement)

def lineStart (flags : Flags) : Regex :=
  .place (if flags.multiLine then .lineStart flags.carriageReturns else .textStart)

def lineEnd (flags : Flags) : Regex :=
  .place (if flags.multiLine then .lineEnd flags.carriageReturns else .textEnd)

/-! ## Groups -/

/-- How a group starts, after its parenthesis. -/
inductive GroupStart where
  /-- A change of flags for the rest of the enclosing group. -/
  | flags (flags : Flags) (rest : Text)
  /-- The content of a group with flags of its own. -/
  | plain (flags : Flags) (rest : Text)
  /-- The content of a group that is numbered and may have a name. -/
  | numbered (name : Option Text) (rest : Text)

def readGroupStart (flags : Flags) (names : List Text) (s : Text) : Option GroupStart :=
  let named (s : Text) : Option GroupStart := do
    let (name, rest) ← readGroupName s
    if names.contains name then none else some (.numbered (some name) rest)
  match skipBlanks flags s with
  | '?' :: '=' :: _ | '?' :: '!' :: _ => none
  | '?' :: '<' :: '=' :: _ | '?' :: '<' :: '!' :: _ => none
  | '?' :: 'P' :: '<' :: rest => named rest
  | '?' :: '<' :: rest => named rest
  | '?' :: rest => do
    let (inner, seen, ending, rest) ← readFlags flags false false [] rest
    if ending = ':' then some (.plain inner rest)
    else if seen.isEmpty then none else some (.flags inner rest)
  | s => some (.numbered none s)

/-- Reads up to the end of a group or of the pattern. -/
def readGroup : Nat → Partial → Text → Option (Partial × Text)
  | 0, _, _ => none
  | bound + 1, p, s =>
    let repeatLast (least : Nat) (most : Option Nat) (rest : Text) := do
      let (lazy, rest) := readLazy rest
      readGroup bound (← p.repeatLast least most lazy) rest
    match skipBlanks p.flags s with
    | [] => some (p, [])
    | ')' :: rest => some (p, ')' :: rest)
    | '|' :: rest => readGroup bound p.nextAlternative rest
    | '(' :: rest => do
      let readContent (flags : Flags) (name : Option Text) (groups : Nat) (rest : Text) := do
        let inner := { flags, groups, names := name.toList ++ p.names }
        match ← readGroup bound inner rest with
        | (inner, ')' :: rest) => some (inner, rest)
        | _ => none
      match ← readGroupStart p.flags p.names rest with
      | .flags flags rest => readGroup bound { p with flags, items := (none, 0) :: p.items } rest
      | .plain flags rest => do
        let (inner, rest) ← readContent flags none p.groups rest
        let (r, depth) := inner.toRegex
        let p := { p with names := inner.names, groups := inner.groups }
        readGroup bound (p.push r (depth + 1)) rest
      | .numbered name rest => do
        let number := p.groups + 1
        let (inner, rest) ← readContent p.flags name number rest
        let (r, depth) := inner.toRegex
        let p := { p with names := inner.names, groups := inner.groups }
        readGroup bound (p.push (.group number r) (depth + 1)) rest
    | '[' :: rest => do
      let (inner, rest) ← readBrackets p.flags rest
      readGroup bound (p.push (ofSet inner.set) inner.depth) rest
    | '?' :: rest => repeatLast 0 (some 1) rest
    | '*' :: rest => repeatLast 0 none rest
    | '+' :: rest => repeatLast 1 none rest
    | '{' :: rest => do
      let ((least, most), rest) ← readBounds p.flags rest
      repeatLast least most (skipBlanks p.flags rest)
    | '.' :: rest => do readGroup bound (p.push (← dot p.flags) 0) rest
    | '^' :: rest => readGroup bound (p.push (lineStart p.flags) 0) rest
    | '$' :: rest => readGroup bound (p.push (lineEnd p.flags) 0) rest
    | '\\' :: rest => do
      let (escape, rest) ← readEscape p.flags rest
      let r := match escape with
        | .literal c => ofChar p.flags c
        | .oneOf set => ofSet set
        | .place wanted => .place wanted
      readGroup bound (p.push r 0) rest
    | c :: rest => readGroup bound (p.push (ofChar p.flags c) 0) rest

def ofText? (pattern : Text) : Option Regex :=
  match readGroup (pattern.length + 1) { flags := {} } pattern with
  | some (p, []) =>
    let (r, depth) := p.toRegex
    if depth ≤ depthLimit then some r else none
  | _ => none

end LineTemplate.Regex
