import LineTemplate.Text.Basic
import LineTemplate.Unicode.Word

/-!
# Regular expressions

A regular expression is searched for anywhere in a text. A place is a gap between two characters of
the text, or one of its ends; a set of places is a list with a truth value for each of them, from
the start of the text to its end. An expression takes the places where a match of it may start to
those where such a match may end, which needs no search and no backtracking.
-/

namespace LineTemplate

open Unicode (Ranges isWord)

/-- How a place lies between a character that may belong to a word and another one. -/
inductive WordEdge where
  /-- At the start or at the end of a word. -/
  | boundary
  /-- Neither at the start nor at the end of a word. -/
  | inside
  | start
  | stop
  /-- Not after a character of a word. -/
  | startHalf
  /-- Not before a character of a word. -/
  | stopHalf
  deriving DecidableEq

inductive Place where
  | textStart
  | textEnd
  /-- The start of a line; lines may also end with carriage returns. -/
  | lineStart (carriageReturns : Bool)
  /-- The end of a line; lines may also end with carriage returns. -/
  | lineEnd (carriageReturns : Bool)
  /-- An edge of a word, which is made up of ASCII characters unless it is `unicode`. -/
  | wordEdge (edge : WordEdge) (unicode : Bool)
  deriving DecidableEq

/-- Whether an edge lies between a character and another one, where it is given for each of them
whether it belongs to a word. -/
def WordEdge.holds (before after : Bool) : WordEdge → Bool
  | boundary => before != after
  | inside => before == after
  | start => !before && after
  | stop => before && !after
  | startHalf => !before
  | stopHalf => !after

/-- A word character of ASCII. -/
def isAsciiWord (c : Char) : Bool :=
  c.isAlphanum || c = '_'

/-- Whether a place with certain characters before and after it is as wanted. A line feed after a
carriage return belongs to the same end of a line. -/
def Place.holds (before after : Option Char) : Place → Bool
  | textStart => before.isNone
  | textEnd => after.isNone
  | lineStart carriageReturns =>
    before.isNone || before = some '\n' ||
      (carriageReturns && before = some '\r' && after ≠ some '\n')
  | lineEnd false => after.isNone || after = some '\n'
  | lineEnd true =>
    after.isNone || after = some '\r' || (after = some '\n' && before ≠ some '\r')
  | wordEdge edge unicode =>
    let word (c : Char) : Bool := if unicode then isWord c else isAsciiWord c
    edge.holds (before.any word) (after.any word)

inductive Regex where
  | empty
  | literal (text : Text)
  | oneOf (set : Ranges)
  /-- The empty text at a place that is as wanted. -/
  | place (place : Place)
  /-- At least so many times, and at most so many times if there is a bound; a greedy repetition
  would rather have more of them, which makes no difference to whether it matches. -/
  | repeated (least : Nat) (most : Option Nat) (greedy : Bool) (a : Regex)
  /-- A group, by its number in the order of the opening parentheses. -/
  | group (number : Nat) (a : Regex)
  | seq (a b : Regex)
  | alt (a b : Regex)
  deriving DecidableEq

namespace Regex

/-- A truth value for each place of a text. -/
abbrev Places := List Bool

/-- The characters before and after each place. -/
def neighbours (text : Text) : List (Option Char × Option Char) :=
  (none :: text.map some).zip (text.map some ++ [none])

/-- The places after a character that passes a test, from the places before it. -/
def after (test : Char → Bool) (text : Text) (starts : Places) : Places :=
  false :: starts.zipWith (fun start c => start && test c) text

/-- Takes a step so many times. It stops when a step changes nothing; more steps would not
either. -/
def iterate (step : Places → Places) : Nat → Places → Places
  | 0, reached => reached
  | bound + 1, reached =>
    let next := step reached
    if next = reached then reached else iterate step bound next

/-- Adds the places to which `step` leads, up to `bound` times. -/
def spread (step : Places → Places) (bound : Nat) (reached : Places) : Places :=
  iterate (fun reached => reached.zipWith (· || ·) (step reached)) bound reached

/-- Where a match can end that starts at one of the places `starts`. -/
def ends (text : Text) : Regex → Places → Places
  | empty, starts => starts
  | literal wanted, starts =>
    wanted.foldl (fun starts c => after (· = c) text starts) starts
  | oneOf set, starts => after (fun c => set.contains c.toNat) text starts
  | place wanted, starts =>
    starts.zipWith (fun start (before, after) => start && wanted.holds before after)
      (neighbours text)
  | repeated least most _ a, starts =>
    -- Repeating more often than there are places reaches nothing new.
    let optional := match most with
      | some most => min (most - least) (text.length + 1)
      | none => text.length + 1
    spread (ends text a) optional (iterate (ends text a) least starts)
  | group _ a, starts => ends text a starts
  | seq a b, starts => ends text b (ends text a starts)
  | alt a b, starts => (ends text a starts).zipWith (· || ·) (ends text b starts)

def isMatch (r : Regex) (text : Text) : Bool :=
  (ends text r (List.replicate (text.length + 1) true)).any id

end Regex

end LineTemplate
