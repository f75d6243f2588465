import LineTemplate.Fault
import LineTemplate.Line.Directive
import LineTemplate.Line.Indicators

/-!
# Statements

A line of a template is literal text, a directive, or a cursor statement. Directives have a long
form (`_#KEYWORD …`), in which an unknown keyword is a fault, and a short form (`_KEYWORD …`), in
which it makes the line literal. The name of a known macro may stand in place of a keyword and calls
it.
-/

namespace LineTemplate

open Unicode

inductive Content where
  | literal
  /-- A directive, what it acts on, and the rest of the line. -/
  | directive (kind : Directive) (object expression : Option Text)
  /-- A cursor operation, the name of the cursor, and the rest of the line. -/
  | cursor (op : CursorOp) (name rest : Option Text)
  deriving DecidableEq

structure Statement where
  raw : Text
  content : Content
  deriving DecidableEq

def Text.nonempty? (s : Text) : Option Text :=
  if s.isEmpty then none else some s

namespace Statement

def indentation (s : Statement) : Text :=
  s.raw.takeWhile isBlank

/-- The number of blanks at the start of the line. -/
def indent (s : Statement) : Nat :=
  s.indentation.length

def firstWord? (s : Statement) : Option Text :=
  (s.raw.trim.splitWord.1).nonempty?

def argument? (s : Statement) : Option Text :=
  (s.raw.trim.splitWord.2).nonempty?

def object? (s : Statement) : Option Text :=
  match s.content with
  | .literal => none
  | .directive _ object _ => object
  | .cursor _ name _ => name

/-- What the statement says besides that; for literal text, the text. -/
def expression? (s : Statement) : Option Text :=
  match s.content with
  | .literal => s.raw.trim.nonempty?
  | .directive _ _ expression => expression
  | .cursor _ _ rest => rest

def directive? (s : Statement) : Option Directive :=
  match s.content with
  | .directive kind _ _ => some kind
  | _ => none

/-- A text up to its closing quote, with the escapes in it undone, and what follows the quote. -/
def readQuoted? : Text → Option (Text × Text)
  | [] => none
  | ['\\'] => none
  | '\\' :: c :: rest => (readQuoted? rest).map fun (s, after) => (c :: s, after)
  | '"' :: rest => some ([], rest)
  | c :: rest => (readQuoted? rest).map fun (s, after) => (c :: s, after)

/-- The object at the start of an argument, a word or a quoted text, and the rest of it. -/
def splitObject (argument : Text) : Except SyntaxFault (Text × Text) :=
  match argument with
  | '"' :: quoted =>
    match readQuoted? quoted with
    | some (object, rest) => .ok (object, rest.trim)
    | none => .error (.openObject argument)
  | _ => .ok argument.splitWord

/-- The content of a line whose first word names a directive. -/
def directiveContent (kind : Directive) (argument : Text) : Except SyntaxFault Content :=
  let description := kind.description
  if description.hasObject then
    match splitObject argument with
    | .error e => .error e
    | .ok (object, rest) =>
      if object.isEmpty then .error (.missingName description.keyword.toList)
      else .ok (.directive kind (some object) rest.nonempty?)
  else if description.hasCondition && argument.isEmpty then
    .error (.missingCondition description.keyword.toList)
  else .ok (.directive kind none argument.nonempty?)

/-- The content of a line whose first word starts with the mark of a cursor operation. The name
follows the mark directly or is the next word. -/
def cursorContent (word : Text) (op : CursorOp) (attached argument : Text) :
    Except SyntaxFault Content :=
  let (name, rest) := if attached.isEmpty then argument.splitWord else (attached, argument)
  if name.isEmpty && op ≠ .leave then .error (.missingCursorName word)
  else .ok (.cursor op name.nonempty? rest.nonempty?)

/-- The keyword of a word that starts with a mark, and whether the mark is the long one. -/
def keyword? (ind : Indicators) (word : Text) : Option (Text × Bool) :=
  match Text.stripPrefix? ind.longMark word with
  | some keyword => some (keyword, true)
  | none => (Text.stripPrefix? ind.mark word).map (·, false)

/-- What the first word and the rest of a line mean. -/
def contentOf (ind : Indicators) (isMacro : Text → Bool) (word argument : Text) :
    Except SyntaxFault Content :=
  match ind.cursorOp? word with
  | some (op, attached) => cursorContent word op attached argument
  | none =>
    match keyword? ind word with
    | none => .ok .literal
    | some (keyword, isLong) =>
      match Directive.ofWord? keyword with
      | some kind => directiveContent kind argument
      | none =>
        if !keyword.isEmpty && isMacro keyword then
          .ok (.directive .call (some keyword) argument.nonempty?)
        else if isLong then .error (.unknownDirective word)
        else .ok .literal

/-- Finds out what a line means, where `isMacro` tells the names of the known macros. -/
def classify (ind : Indicators) (isMacro : Text → Bool) (raw : Text) :
    Except SyntaxFault Statement :=
  let trimmed := raw.trim
  if trimmed.isEmpty then .ok ⟨raw, .literal⟩
  else
    let (word, argument) := trimmed.splitWord
    (contentOf ind isMacro word argument).map (⟨raw, ·⟩)

end Statement

end LineTemplate
