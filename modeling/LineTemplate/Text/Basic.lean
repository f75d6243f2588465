import LineTemplate.Unicode.Blank
import LineTemplate.Unicode.Numeric

/-!
# Text

Templates, values and names are lists of characters. This module holds the operations on them that
every part of a template shares: trimming, words, prefixes, separators, names and order.
-/

namespace LineTemplate

open Unicode

abbrev Text := List Char

namespace Text

def str (s : Text) : String :=
  String.ofList s

/-- The text without the blanks at its start. -/
def trimStart (s : Text) : Text :=
  s.dropWhile isBlank

/-- The text without the blanks at its end. -/
def trimEnd (s : Text) : Text :=
  (s.reverse.dropWhile isBlank).reverse

/-- The text without the blanks around it. -/
def trim (s : Text) : Text :=
  trimEnd (trimStart s)

/-- The text up to its first blank, and the trimmed text after that. -/
def splitWord (s : Text) : Text × Text :=
  (s.takeWhile (!isBlank ·), trim (s.dropWhile (!isBlank ·)))

/-- What follows `start` in a text that starts with it. -/
def stripPrefix? : (start s : Text) → Option Text
  | [], s => some s
  | _ :: _, [] => none
  | p :: ps, c :: cs => if p = c then stripPrefix? ps cs else none

/-- A text starts with `start` exactly when it is `start` and then what is left. -/
theorem stripPrefix?_eq_some_iff {start s rest : Text} :
    stripPrefix? start s = some rest ↔ s = start ++ rest := by
  induction start generalizing s with
  | nil => simp [stripPrefix?]
  | cons p ps ih =>
    cases s with
    | nil => simp [stripPrefix?]
    | cons c cs =>
      by_cases h : p = c
      · simp [stripPrefix?, h, ih]
      · simp [stripPrefix?, h, Ne.symm h]

/-- Puts a character in front of the first text of a list. -/
def consHead (c : Char) : List Text → List Text
  | [] => [[c]]
  | s :: rest => (c :: s) :: rest

/-- The pieces between the separators; there is one more of them than of separators. -/
def splitOn (separator : Char) : Text → List Text
  | [] => [[]]
  | c :: rest =>
    if c = separator then [] :: splitOn separator rest else consHead c (splitOn separator rest)

/-- The text before the first separator and the text after it, if there is a separator. -/
def splitOnce? (separator : Char) : Text → Option (Text × Text)
  | [] => none
  | c :: rest =>
    if c = separator then some ([], rest)
    else (splitOnce? separator rest).map fun (before, after) => (c :: before, after)

/-- The first separator splits a text: it occurs in no earlier place. -/
theorem splitOnce?_eq_some_iff {separator : Char} {s before after : Text} :
    splitOnce? separator s = some (before, after) ↔
      s = before ++ separator :: after ∧ separator ∉ before := by
  induction s generalizing before with
  | nil => simp [splitOnce?]
  | cons c rest ih =>
    by_cases h : c = separator
    · subst h
      cases before with
      | nil => simp [splitOnce?]
      | cons b bs => simp +contextual [splitOnce?]
    · cases before with
      | nil => simp [splitOnce?, h]
      | cons b bs => simp [splitOnce?, h, ih, Prod.ext_iff]; grind

def join (separator : Text) (pieces : List Text) : Text :=
  separator.intercalate pieces

def ofNat (n : Nat) : Text :=
  Nat.toDigits 10 n

def ofInt : Int → Text
  | .ofNat n => ofNat n
  | .negSucc n => '-' :: ofNat (n + 1)

def utf8Size : Text → Nat
  | [] => 0
  | c :: rest => c.utf8Size + utf8Size rest

/-- The order of texts by code points, which is also that of their UTF-8 bytes. -/
def order : Text → Text → Ordering
  | [], [] => .eq
  | [], _ :: _ => .lt
  | _ :: _, [] => .gt
  | a :: as, b :: bs => (compare a.toNat b.toNat).then (order as bs)

/-- Equality of texts when the case of ASCII letters does not count. -/
def sameIgnoringCase (a b : Text) : Bool :=
  a.map Char.toLower = b.map Char.toLower

def isNameChar (c : Char) : Bool :=
  isAlphanumeric c || c = '_'

/-- A name: a letter or `_`, and then letters, numerals and `_`. -/
def isName : Text → Bool
  | [] => false
  | c :: rest => (isAlphabetic c || c = '_') && rest.all isNameChar

end Text

end LineTemplate
