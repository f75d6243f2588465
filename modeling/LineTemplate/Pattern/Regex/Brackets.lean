import LineTemplate.Pattern.Regex.Escape

/-!
# Sets of characters in brackets

Brackets hold characters, ranges, escape sequences, named sets and further brackets, all of which
are united, and operations between such unions. A pattern must not be nested too deeply, so reading
also measures how deep the brackets are.
-/

namespace LineTemplate.Regex

open Unicode

/-- A set of characters, and how deeply what it was read from is nested. -/
structure Nested where
  set : Ranges
  depth : Nat

/-- What has been read of a union: its members so far, how many they are, and how deeply the deepest
of them is nested. -/
structure Members where
  set : Ranges := []
  count : Nat := 0
  depth : Nat := 0

def Members.push (members : Members) (member : Nested) : Members where
  set := members.set.union member.set
  count := members.count + 1
  depth := max members.depth member.depth

/-- The union; one of several members is a level of its own. -/
def Members.nested (members : Members) : Nested where
  set := members.set
  depth := if members.count < 2 then members.depth else members.depth + 1

/-- An operation on the sets to its left and right. -/
inductive SetOp where
  | intersection
  | difference
  | symmetricDifference

def SetOp.apply : SetOp → (left right : Ranges) → Ranges
  | intersection => Ranges.inter
  | difference => Ranges.diff
  | symmetricDifference => Ranges.symmDiff

/-- Applies a pending operation to the set that follows it. -/
def SetOp.resolve (flags : Flags) : Option (SetOp × Nested) → Nested → Nested
  | none, right => right
  | some (op, left), right =>
    { set := op.apply (flags.folded left.set) (flags.folded right.set)
      depth := max left.depth right.depth + 1 }

/-- A set such as `[:alpha:]`, after its opening bracket. A negated one takes its case variants
along before it is negated, and may not be allowed. -/
def readNamedSet? (flags : Flags) (s : Text) : Option (Option Ranges × Text) :=
  match s with
  | ':' :: rest =>
    let (negated, named) := match rest with
      | '^' :: rest => (true, rest)
      | _ => (false, rest)
    match named.dropWhile Char.isAlpha with
    | ':' :: ']' :: after =>
      (asciiSet? (Text.str (named.takeWhile Char.isAlpha))).map fun set =>
        (if negated then flags.complement? (flags.folded set) else some set, after)
    | _ => none
  | _ => none

/-- One end of a range, or a set, inside of brackets. Without the Unicode flag only ASCII characters
can stand for themselves there. -/
def readMember (flags : Flags) (s : Text) : Option (Escape × Text) := do
  let member ← match s with
    | [] => none
    | '\\' :: rest => readEscape flags rest
    | c :: rest => some (.literal c, rest)
  match member with
  | (.literal c, _) => if !flags.unicode && 128 ≤ c.toNat then none else some member
  | _ => some member

def readRange (flags : Flags) (s : Text) : Option (Ranges × Text) := do
  let (first, rest) ← readMember flags s
  let rest := skipBlanks flags rest
  let alone : Option (Ranges × Text) := match first with
    | .literal c => some (.only c, rest)
    | .oneOf set => some (set, rest)
    | .place _ => none
  match rest with
  | [] => none
  | '-' :: afterDash =>
    match skipBlanks flags afterDash with
    | [] => none
    | ']' :: _ | '-' :: _ => alone
    | afterDash => do
      let (last, rest) ← readMember flags afterDash
      match first, last with
      | .literal a, .literal b =>
        if a ≤ b then some (.interval a.toNat b.toNat, rest) else none
      | _, _ => none
  | _ => alone

/-- The start of brackets, after the opening one: whether they are negated, and the literals that
can only stand there. -/
def readStart (flags : Flags) (s : Text) : Bool × Members × Text :=
  let (negated, s) := match skipBlanks flags s with
    | '^' :: rest => (true, skipBlanks flags rest)
    | s => (false, s)
  match readWhile flags (· = '-') s with
  | ([], ']' :: rest) => (negated, { set := .only ']', count := 1 }, rest)
  | ([], s) => (negated, {}, s)
  | (dashes, rest) => (negated, { set := .only '-', count := dashes.length }, rest)

/-- The rest of brackets, up to and with the closing one. The number that is counted down bounds the
recursion; each call consumes a character of the pattern. -/
def readMembers (flags : Flags) :
    Nat → (negated : Bool) → Option (SetOp × Nested) → Members → Text → Option (Nested × Text)
  | 0, _, _, _, _ => none
  | bound + 1, negated, pending, members, s =>
    let continueWith (op : SetOp) (rest : Text) :=
      let left := SetOp.resolve flags pending members.nested
      readMembers flags bound negated (some (op, left)) {} rest
    match skipBlanks flags s with
    | [] => none
    | ']' :: rest => do
      let inner := SetOp.resolve flags pending members.nested
      let set := flags.folded inner.set
      let set ← if negated then flags.complement? set else some set
      some ({ set, depth := inner.depth + 1 }, rest)
    | '[' :: rest =>
      match readNamedSet? flags rest with
      | some (set, rest) => do
        readMembers flags bound negated pending (members.push { set := ← set, depth := 0 }) rest
      | none => do
        let (innerNegated, start, inner) := readStart flags rest
        let (member, rest) ← readMembers flags bound innerNegated none start inner
        readMembers flags bound negated pending (members.push member) rest
    | '&' :: '&' :: rest => continueWith .intersection rest
    | '-' :: '-' :: rest => continueWith .difference rest
    | '~' :: '~' :: rest => continueWith .symmetricDifference rest
    | s => do
      let (set, rest) ← readRange flags s
      readMembers flags bound negated pending (members.push { set, depth := 0 }) rest

/-- A set in brackets, after the opening one. -/
def readBrackets (flags : Flags) (s : Text) : Option (Nested × Text) :=
  let (negated, start, rest) := readStart flags s
  readMembers flags (s.length + 1) negated none start rest

end LineTemplate.Regex
