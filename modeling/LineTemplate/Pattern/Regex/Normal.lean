import LineTemplate.Pattern.Regex.Basic

/-!
# Normal forms of regular expressions

Expressions are put together so that those of one normal form result: texts in a row are one text,
alternatives between characters are a set of characters, and what all alternatives have in front is
written once. How much room an expression takes is measured on its normal form.
-/

namespace LineTemplate.Regex

open Unicode (Ranges)

/-! ## Lengths -/

/-- A lower bound of the number of characters in a match. There is none if an empty set of
characters occurs, so that there may be no match at all. -/
def minLength? : Regex → Option Nat
  | empty | place _ => some 0
  | literal text => some text.length
  | oneOf set => if set.isEmpty then none else some 1
  | repeated least _ _ a => a.minLength?.map (least * ·)
  | group _ a => a.minLength?
  | seq a b => do some ((← a.minLength?) + (← b.minLength?))
  | alt a b => do some (min (← a.minLength?) (← b.minLength?))

/-- An upper bound of the number of characters in a match, if there is one and no empty set of
characters occurs. -/
def maxLength? : Regex → Option Nat
  | empty | place _ => some 0
  | literal text => some text.length
  | oneOf set => if set.isEmpty then none else some 1
  | repeated _ most _ a => do some ((← most) * (← a.maxLength?))
  | group _ a => a.maxLength?
  | seq a b => do some ((← a.maxLength?) + (← b.maxLength?))
  | alt a b => do some (max (← a.maxLength?) (← b.maxLength?))

/-! ## Sets and sequences -/

/-- One character of a set; a set of one character is a text. -/
def ofSet : Ranges → Regex
  | [(first, last)] =>
    if first = last then literal [Char.ofNat first] else oneOf [(first, last)]
  | set => oneOf set

/-- One expression after another, with texts that meet put together. -/
def append : Regex → Regex → Regex
  | empty, r => r
  | seq a b, r => seq a (b.append r)
  | a, empty => a
  | literal s, literal t => literal (s ++ t)
  | literal s, seq (literal t) r => seq (literal (s ++ t)) r
  | a, r => seq a r

def sequence (items : List Regex) : Regex :=
  items.foldr append empty

def items : Regex → List Regex
  | empty => []
  | seq a b => a :: b.items
  | a => [a]

/-! ## Alternatives -/

def branches : Regex → List Regex
  | alt a b => a :: b.branches
  | a => [a]

/-- Alternatives as they are; without one, nothing matches. -/
def anyOf : List Regex → Regex
  | [] => oneOf []
  | [a] => a
  | a :: rest => alt a (anyOf rest)

/-- The character that an expression stands for, if it is one. -/
def char? : Regex → Option Char
  | literal [c] => some c
  | _ => none

/-- The set that an expression stands for, if it is one of several characters. -/
def set? : Regex → Option Ranges
  | oneOf set => some set
  | _ => none

/-- Alternatives without alternatives of their own. Those between characters, and those between
sets of characters, are one set. -/
def choice (alternatives : List Regex) : Regex :=
  match alternatives.flatMap branches with
  | [] => oneOf []
  | [a] => a
  | flat =>
    match flat.mapM char?, flat.mapM set? with
    | some chars, _ => ofSet (.ofCodes (chars.map Char.toNat))
    | _, some sets => ofSet (.unions sets)
    | none, none => anyOf flat

def commonStart (a b : List Regex) : List Regex :=
  ((a.zip b).takeWhile fun (x, y) => x = y).map (·.1)

/-- What several sequences have in front: nothing if one of them is no sequence. -/
def commonItems : List (List Regex) → List Regex
  | [] | [_] => []
  | first :: rest =>
    if (first :: rest).all fun items => 2 ≤ items.length then rest.foldl commonStart first else []

/-- Alternatives, with what all of them have in front written once. -/
def alternatives (rs : List Regex) : Regex :=
  let sequences := (rs.flatMap branches).map items
  let shared := commonItems sequences
  if shared.isEmpty then choice rs
  else
    let rests := sequences.map fun items => sequence (items.drop shared.length)
    sequence (shared ++ [choice rests])

/-! ## Repetitions -/

/-- A repetition. What only matches the empty text is not repeated more than once. -/
def repetition (least : Nat) (most : Option Nat) (greedy : Bool) (a : Regex) : Regex :=
  let (least, most) :=
    if a.maxLength? = some 0 then (min least 1, some (min (most.getD 1) 1)) else (least, most)
  match least, most with
  | 0, some 0 => empty
  | 1, some 1 => a
  | least, most => repeated least most greedy a

end LineTemplate.Regex
