import LineTemplate.Number.Decimal
import LineTemplate.Unicode.Folding
import LineTemplate.Unicode.Word

/-!
# Flags of a pattern

A pattern can change how the text after a place in it is read, and what this text means. In a
verbose pattern blanks and comments can stand nearly everywhere; the functions that read parts of a
pattern skip them here.
-/

namespace LineTemplate.Regex

open Unicode

/-- The flags in force at a place of a pattern. -/
structure Flags where
  ignoreCase : Bool := false
  multiLine : Bool := false
  dotMatchesLineFeed : Bool := false
  carriageReturns : Bool := false
  unicode : Bool := true
  swapGreed : Bool := false
  verbose : Bool := false

namespace Flags

def set (flags : Flags) (letter : Char) (value : Bool) : Option Flags :=
  match letter with
  | 'i' => some { flags with ignoreCase := value }
  | 'm' => some { flags with multiLine := value }
  | 's' => some { flags with dotMatchesLineFeed := value }
  | 'R' => some { flags with carriageReturns := value }
  | 'u' => some { flags with unicode := value }
  | 'U' => some { flags with swapGreed := value }
  | 'x' => some { flags with verbose := value }
  | _ => none

/-! ## Sets of characters -/

/-- Closes a set under case, if case is to be ignored. -/
def folded (flags : Flags) (set : Ranges) : Ranges :=
  if !flags.ignoreCase then set
  else if flags.unicode then closedUnderCase set
  else closedUnderAsciiCase set

/-- The characters that are not in a set. As these are never just ASCII characters, the Unicode flag
is needed. -/
def complement? (flags : Flags) (set : Ranges) : Option Ranges :=
  if flags.unicode then some set.complement else none

def digits (flags : Flags) : Ranges :=
  if flags.unicode then digitRanges else .ofTable "30-39"

def blanks (flags : Flags) : Ranges :=
  if flags.unicode then blankRanges else .ofTable "9-D 20"

def words (flags : Flags) : Ranges :=
  if flags.unicode then wordRanges else .ofTable "30-39 41-5A 5F 61-7A"

end Flags

/-- The named sets of ASCII characters. -/
def asciiSet? (name : String) : Option Ranges :=
  match name with
  | "alnum" => some (.ofTable "30-39 41-5A 61-7A")
  | "alpha" => some (.ofTable "41-5A 61-7A")
  | "ascii" => some (.ofTable "0-7F")
  | "blank" => some (.ofTable "9 20")
  | "cntrl" => some (.ofTable "0-1F 7F")
  | "digit" => some (.ofTable "30-39")
  | "graph" => some (.ofTable "21-7E")
  | "lower" => some (.ofTable "61-7A")
  | "print" => some (.ofTable "20-7E")
  | "punct" => some (.ofTable "21-2F 3A-40 5B-60 7B-7E")
  | "space" => some (.ofTable "9-D 20")
  | "upper" => some (.ofTable "41-5A")
  | "word" => some (.ofTable "30-39 41-5A 5F 61-7A")
  | "xdigit" => some (.ofTable "30-39 41-46 61-66")
  | _ => none

/-! ## Reading with blanks -/

/-- In a verbose pattern, skips blanks and comments. -/
def skipBlanks (flags : Flags) (s : Text) : Text :=
  if flags.verbose then skip false s else s
where
  skip : (inComment : Bool) → Text → Text
    | _, [] => []
    | true, c :: rest => skip (c ≠ '\n') rest
    | false, c :: rest =>
      if isBlank c then skip false rest else if c = '#' then skip true rest else c :: rest

theorem length_skipBlanks_le (flags : Flags) (s : Text) :
    (skipBlanks flags s).length ≤ s.length := by
  have skip_le : ∀ inComment, (skipBlanks.skip inComment s).length ≤ s.length := by
    induction s with
    | nil => intro inComment; simp [skipBlanks.skip]
    | cons c rest ih =>
      intro inComment
      cases inComment with
      | true =>
        have := ih (c ≠ '\n')
        simp only [skipBlanks.skip, List.length_cons]
        omega
      | false =>
        have := ih false
        have := ih true
        simp only [skipBlanks.skip]
        split
        · simp only [List.length_cons]; omega
        · split <;> simp only [List.length_cons] <;> omega
  unfold skipBlanks
  split
  · exact skip_le false
  · exact Nat.le_refl _

/-- The characters at the start of a text that pass a test, and the text after them. Each of them
may be followed by blanks where blanks are skipped. -/
def readWhile (flags : Flags) (test : Char → Bool) : Text → Text × Text
  | [] => ([], [])
  | c :: rest =>
    if test c then
      let (read, after) := readWhile flags test (skipBlanks flags rest)
      (c :: read, after)
    else ([], c :: rest)
termination_by s => s.length
decreasing_by
  have := length_skipBlanks_le flags rest
  simp only [List.length_cons]
  omega

/-- As many characters as are wanted, all of which have to pass a test, and the text after them. -/
def readExactly (flags : Flags) (test : Char → Bool) : Nat → Text → Option (Text × Text)
  | 0, s => some ([], s)
  | wanted + 1, s =>
    match skipBlanks flags s with
    | [] => none
    | c :: rest =>
      if test c then do
        let (read, after) ← readExactly flags test wanted rest
        some (c :: read, after)
      else none

end LineTemplate.Regex
