/-!
# Sets of code points

A set of characters is given by the sorted list of the ranges of their code points. No two ranges
overlap or touch, so a set has one such list, and no range holds a surrogate, which is a code point
but no character.
-/

namespace LineTemplate.Unicode

/-- Ranges of code points, both ends included, in increasing order. -/
abbrev Ranges := List (Nat × Nat)

namespace Ranges

/-- Whether a code point lies in one of the ranges. The search ends at the first range above it. -/
def contains : Ranges → Nat → Bool
  | [], _ => false
  | (first, last) :: rest, n =>
    if n < first then false else n ≤ last || contains rest n

/-- Ranges in the order of their first code points, with those that overlap or touch put
together. -/
def joined : Ranges → Ranges
  | (a, b) :: (c, d) :: rest =>
    if c ≤ b + 1 then joined ((a, max b d) :: rest) else (a, b) :: joined ((c, d) :: rest)
  | ranges => ranges
termination_by ranges => ranges.length

def union (a b : Ranges) : Ranges :=
  joined (a.merge b fun r s => r.1 ≤ s.1)

/-- The code points in one of some sets. -/
def unions (sets : List Ranges) : Ranges :=
  sets.foldl union []

def surrogates : Ranges := [(0xD800, 0xDFFF)]

/-- The code points from `next` on that lie in none of some sorted ranges. -/
def gaps (next : Nat) : Ranges → Ranges
  | [] => if next ≤ 0x10FFFF then [(next, 0x10FFFF)] else []
  | (first, last) :: rest =>
    let further := gaps (last + 1) rest
    if next < first then (next, first - 1) :: further else further

/-- The characters that are not in a set. -/
def complement (a : Ranges) : Ranges :=
  gaps 0 (a.union surrogates)

/-- The characters in both sets: those that no complement holds. -/
def inter (a b : Ranges) : Ranges :=
  (a.complement.union b.complement).complement

/-- The characters in the first set but not in the second. -/
def diff (a b : Ranges) : Ranges :=
  (a.complement.union b).complement

/-- The characters in one of two sets but not in both. -/
def symmDiff (a b : Ranges) : Ranges :=
  (a.diff b).union (b.diff a)

def full : Ranges :=
  complement []

/-- The characters from one code point to another, both included. -/
def interval (first last : Nat) : Ranges :=
  if first ≤ last then diff [(first, last)] surrogates else []

def ofCodes (codes : List Nat) : Ranges :=
  joined ((codes.mergeSort (· ≤ ·)).map fun n => (n, n))

def only (c : Char) : Ranges :=
  [(c.toNat, c.toNat)]

/-- The value of a hexadecimal digit in upper case. -/
def hexValue (c : Char) : Nat :=
  if c.isDigit then c.toNat - '0'.toNat else c.toNat - 'A'.toNat + 10

def hexNumber (digits : List Char) : Nat :=
  digits.foldl (fun n c => 16 * n + hexValue c) 0

/-- A range by its first and last code points, such as `41-5A`, or by its only one. -/
def ofEntry (entry : List Char) : Nat × Nat :=
  let first := hexNumber (entry.takeWhile (· ≠ '-'))
  match entry.dropWhile (· ≠ '-') with
  | _ :: last => (first, hexNumber last)
  | [] => (first, first)

/-- The ranges of a table, which has entries in increasing order and blanks between them. -/
def ofTable (table : String) : Ranges :=
  let words := table.toList.splitBy fun a b => !a.isWhitespace && !b.isWhitespace
  (words.filter fun word => !word.all Char.isWhitespace).map ofEntry

end Ranges

end LineTemplate.Unicode
