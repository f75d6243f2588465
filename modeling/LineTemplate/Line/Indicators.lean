import LineTemplate.Text.Basic

/-!
# Indicators

The character sequences that mark directives, references and cursor statements in a template.
-/

namespace LineTemplate

structure Indicators where
  /-- Starts a directive in its short form, and a reference to a variable. -/
  mark : Text := "_".toList
  longMark : Text := "_#".toList
  cursorOpen : Text := "_\x7b".toList
  cursorClose : Text := "_\x7d".toList
  cursorQuery : Text := "_?".toList
  cursorSelect : Text := "_:".toList
  deriving DecidableEq

inductive CursorOp where
  /-- Sends the output to a cursor until the cursor is left. -/
  | enter
  /-- Returns to where the output went before. -/
  | leave
  /-- Opens a conditional chain that holds if a cursor exists. -/
  | query
  /-- Sends the output to another cursor instead of the selected one. -/
  | switch
  deriving DecidableEq

namespace Indicators

def cursorMarks (ind : Indicators) : List (Text × CursorOp) :=
  [(ind.cursorOpen, .enter), (ind.cursorClose, .leave), (ind.cursorQuery, .query),
    (ind.cursorSelect, .switch)]

/-- Inserts a mark into a list that is sorted by falling length, in front of those that are no
longer. -/
def insertByLength (mark : Text × CursorOp) : List (Text × CursorOp) → List (Text × CursorOp)
  | [] => [mark]
  | other :: rest =>
    if other.1.utf8Size ≤ mark.1.utf8Size then mark :: other :: rest
    else other :: insertByLength mark rest

/-- The cursor operation whose mark a word starts with, the longest mark first, and the rest of the
word. -/
def cursorOp? (ind : Indicators) (word : Text) : Option (CursorOp × Text) :=
  (ind.cursorMarks.foldr insertByLength []).findSome? fun (mark, op) =>
    (Text.stripPrefix? mark word).map fun name => (op, name)

end Indicators

end LineTemplate
