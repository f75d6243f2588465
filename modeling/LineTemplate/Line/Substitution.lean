import LineTemplate.Fault
import LineTemplate.Text.Dotted
import LineTemplate.Variable.Bindings

/-!
# Substitution

Text may refer to variables: the mark and then a dotted name stand for the value of that variable.
A reference starts only where no word goes on, and a backslash before the mark takes its meaning.
The text is read once, from left to right; what stands for it goes to the end of the result and is
never read.
-/

namespace LineTemplate

open Unicode

/-- Whether a text occurs somewhere in another. -/
def Text.occursIn (piece : Text) : Text → Bool
  | [] => piece.isEmpty
  | c :: rest => piece.isPrefixOf (c :: rest) || occursIn piece rest

/-- What can stand at a place of a text. -/
inductive Segment where
  | char (c : Char)
  /-- A mark that is meant literally. -/
  | escapedMark
  | reference (name : Text)
  deriving DecidableEq

namespace Segment

def spelling (mark : Text) : Segment → Text
  | char c => [c]
  | escapedMark => '\\' :: mark
  | reference name => mark ++ name

/-- The name at the front of a text that starts with a letter, and what follows it. -/
def readName? : Text → Option (Text × Text)
  | [] => none
  | c :: rest =>
    if isAlphabetic c then
      let (name, after) := Text.dottedTail isAlphabetic rest
      some (c :: name, after)
    else none

/-- The reference at the front of a text, and what follows it. -/
def readReference? (mark s : Text) : Option (Text × Text) :=
  (Text.stripPrefix? mark s).bind readName?

/-- The first segment of the text `c :: rest`, and what follows it. `before` is the character before
the text. -/
def first (mark : Text) (before : Option Char) (c : Char) (rest : Text) : Segment × Text :=
  match if c = '\\' then Text.stripPrefix? mark rest else none with
  | some after => (escapedMark, after)
  | none =>
    match if before.any Text.isNameChar then none else readReference? mark (c :: rest) with
    | some (name, after) => (reference name, after)
    | none => (char c, rest)

theorem eq_append_of_readName? {s name after : Text} (h : readName? s = some (name, after)) :
    s = name ++ after := by
  cases s with
  | nil => simp [readName?] at h
  | cons c rest =>
    simp only [readName?] at h
    split at h
    · simp only [Option.some.injEq, Prod.mk.injEq] at h
      rw [← h.1, ← h.2, List.cons_append, Text.dottedTail_append]
    · simp at h

theorem ne_nil_of_readName? {s name after : Text} (h : readName? s = some (name, after)) :
    name ≠ [] := by
  cases s with
  | nil => simp [readName?] at h
  | cons c rest =>
    simp only [readName?] at h
    split at h
    · simp only [Option.some.injEq, Prod.mk.injEq] at h
      simp [← h.1]
    · simp at h

/-- The first segment and what follows it make up the text. -/
theorem spelling_first_append (mark : Text) (before : Option Char) (c : Char) (rest : Text) :
    (first mark before c rest).1.spelling mark ++ (first mark before c rest).2 = c :: rest := by
  unfold first
  split
  · rename_i after h
    split at h
    · rename_i backslash
      rw [Text.stripPrefix?_eq_some_iff] at h
      simp [spelling, backslash, h]
    · simp at h
  · split
    · rename_i name after h
      split at h
      · simp at h
      · obtain ⟨tail, starts, named⟩ := Option.bind_eq_some_iff.1 h
        rw [Text.stripPrefix?_eq_some_iff] at starts
        simp [spelling, starts, eq_append_of_readName? named]
    · simp [spelling]

theorem spelling_first_ne_nil (mark : Text) (before : Option Char) (c : Char) (rest : Text) :
    (first mark before c rest).1.spelling mark ≠ [] := by
  unfold first
  split
  · simp [spelling]
  · split
    · rename_i name after h
      split at h
      · simp at h
      · obtain ⟨tail, _, named⟩ := Option.bind_eq_some_iff.1 h
        simp [spelling, ne_nil_of_readName? named]
    · simp [spelling]

theorem length_first_lt (mark : Text) (before : Option Char) (c : Char) (rest : Text) :
    (first mark before c rest).2.length < (c :: rest).length := by
  have whole := congrArg List.length (spelling_first_append mark before c rest)
  have some := List.length_pos_iff.2 (spelling_first_ne_nil mark before c rest)
  rw [List.length_append] at whole
  omega

end Segment

/--
Replaces the references in a text, where `before` is the character before the text and `out` what
the text up to there has become. A variable without a value becomes nothing, or is a fault.
-/
def substituteFrom (mark : Text) (strict : Bool) (vars : Lookup) (before : Option Char)
    (out s : Text) : Except Fault Text :=
  match s with
  | [] => .ok out
  | c :: rest =>
    let after := (Segment.first mark before c rest).2
    match (Segment.first mark before c rest).1 with
    | .escapedMark => substituteFrom mark strict vars mark.getLast? (out ++ mark) after
    | .reference name =>
      match vars name with
      | some value => substituteFrom mark strict vars name.getLast? (out ++ value) after
      | none =>
        if strict then .error (.undefinedVariable name)
        else substituteFrom mark strict vars name.getLast? out after
    | .char d => substituteFrom mark strict vars (some d) (out ++ [d]) after
termination_by s.length
decreasing_by all_goals exact Segment.length_first_lt ..

/-- Replaces the references in a text by the values of the variables. A text in which the mark does
not occur is not read at all. -/
def substitute (mark : Text) (strict : Bool) (vars : Lookup) (s : Text) : Except Fault Text :=
  if mark.isEmpty || !Text.occursIn mark s then .ok s
  else substituteFrom mark strict vars none [] s

end LineTemplate
