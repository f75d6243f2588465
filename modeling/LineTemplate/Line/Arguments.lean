import LineTemplate.Fault

/-!
# Arguments

An argument list consists of items with blanks between them. An item is a value, or `name=value`;
quotes may enclose any part of it that holds blanks, and inside of quotes a backslash takes the
meaning from the character after it.
-/

namespace LineTemplate

open Unicode

inductive Item where
  | positional (value : Text)
  | named (name value : Text)
  deriving DecidableEq

/-- An item with its quotes removed; a word is under construction until a blank ends it. -/
structure Word where
  text : Text := []
  /-- Where the first `=` outside of quotes stands in the text; it does not count at the start. -/
  equalsAt : Option Nat := none
  /-- Whether there is a word at all: an empty pair of quotes is one. -/
  started : Bool := false
  deriving DecidableEq

namespace Word

def push (w : Word) (c : Char) : Word :=
  { w with text := w.text ++ [c], started := true }

def pushPlain (w : Word) (c : Char) : Word :=
  if c = '=' && w.equalsAt.isNone && !w.text.isEmpty then
    { w.push c with equalsAt := some w.text.length }
  else w.push c

def toList (w : Word) : List Word :=
  if w.started then [w] else []

/-- The item that a word is: named if a name stands before its `=`. -/
def toItem (w : Word) : Item :=
  match w.equalsAt with
  | some i =>
    if Text.isName (w.text.take i) then .named (w.text.take i) (w.text.drop (i + 1))
    else .positional w.text
  | none => .positional w.text

/-- The words of a text of which `w` is the beginning of the first; nothing if a quote is open. -/
def wordsFrom (w : Word) (quoted : Bool) : Text → Option (List Word)
  | [] => if quoted then none else some w.toList
  | c :: rest =>
    if c = '"' then wordsFrom { w with started := true } (!quoted) rest
    else if quoted then
      if c = '\\' then
        match rest with
        | [] => none
        | escaped :: rest => wordsFrom (w.push escaped) quoted rest
      else wordsFrom (w.push c) quoted rest
    else if isBlank c then (wordsFrom {} quoted rest).map (w.toList ++ ·)
    else wordsFrom (w.pushPlain c) quoted rest

end Word

/-- The values and the named values of an argument list, each in its order. -/
structure Arguments where
  positional : List Text := []
  named : List (Text × Text) := []
  deriving DecidableEq

namespace Arguments

def words (s : Text) : Except SyntaxFault (List Word) :=
  match Word.wordsFrom {} false s with
  | some words => .ok words
  | none => .error (.openArgument s)

def tokenize (s : Text) : Except SyntaxFault (List Text) :=
  (words s).map (·.map Word.text)

def items (s : Text) : Except SyntaxFault (List Item) :=
  (words s).map (·.map Word.toItem)

def ofItems (items : List Item) : Arguments where
  positional := items.filterMap fun
    | .positional value => some value
    | .named .. => none
  named := items.filterMap fun
    | .positional _ => none
    | .named name value => some (name, value)

def ofText (s : Text) : Except SyntaxFault Arguments :=
  (items s).map ofItems

/-- The last value that is given for a name. -/
def named? (a : Arguments) (name : Text) : Option Text :=
  a.named.reverse.lookup name

def isEmpty (a : Arguments) : Bool :=
  a.positional.isEmpty && a.named.isEmpty

end Arguments

end LineTemplate
