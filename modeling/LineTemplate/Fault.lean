import LineTemplate.Source.Location

/-!
# Faults

What can go wrong while a template is rendered. A part of the interpreter reports a bare fault; the
run adds the location of the line that is being processed. The first fault ends a run.
-/

namespace LineTemplate

/-- A line that does not have the form it should have. -/
inductive SyntaxFault where
  /-- A quote in an argument list is not closed. -/
  | openArgument (arguments : Text)
  /-- The quote around the object of a directive is not closed. -/
  | openObject (rest : Text)
  | unknownDirective (word : Text)
  | missingName (keyword : Text)
  | missingCondition (keyword : Text)
  | missingCursorName (word : Text)
  | badParameter (name : Text)
  | badLoopVariable (name : Text)
  | badMacroName (name : Text)
  /-- A record literal is not JSON. -/
  | badRecords
  | recordsNotArray
  deriving DecidableEq

def SyntaxFault.message : SyntaxFault → String
  | openArgument arguments => s!"unterminated quote in arguments: {arguments.str}"
  | openObject rest => s!"unterminated quote: {rest.str}"
  | unknownDirective word => s!"unknown directive: {word.str}"
  | missingName keyword => s!"{keyword.str} requires a name"
  | missingCondition keyword => s!"{keyword.str} requires a condition"
  | missingCursorName word => s!"cursor name missing after {word.str}"
  | badParameter name => s!"bad macro parameter name: {name.str}"
  | badLoopVariable name => s!"bad loop variable: {name.str}"
  | badMacroName name => s!"bad macro name: {name.str}"
  | badRecords => "bad record literal: not JSON"
  | recordsNotArray => "record literal must be a JSON array"

/-- A block that is not closed, or closed or continued without being open. -/
inductive BlockFault where
  | elseIfWithoutIf
  | elseIfAfterElse
  | elseWithoutIf
  | elseAfterElse
  | endIfWithoutIf
  | endLoopWithoutLoop
  | endMacroWithoutMacro
  | closeWithoutCursor
  | ifWithoutEnd (condition : Option Text)
  | loopWithoutEnd (variableName : Text) (openedAt : Location)
  | macroWithoutEnd (name : Text) (openedAt : Location)
  deriving DecidableEq

def BlockFault.message : BlockFault → String
  | elseIfWithoutIf => "ELSE_IF without IF"
  | elseIfAfterElse => "ELSE_IF after ELSE"
  | elseWithoutIf => "ELSE without IF"
  | elseAfterElse => "ELSE after ELSE"
  | endIfWithoutIf => "END_IF without IF"
  | endLoopWithoutLoop => "END_LOOP without LOOP"
  | endMacroWithoutMacro => "END_MACRO without MACRO"
  | closeWithoutCursor => "cursor close without open"
  | ifWithoutEnd (some condition) => s!"IF {condition.str} without END_IF"
  | ifWithoutEnd none => "IF without END_IF"
  | loopWithoutEnd name openedAt => s!"LOOP {name.str} opened at {openedAt.shown} without END_LOOP"
  | macroWithoutEnd name openedAt =>
    s!"MACRO {name.str} opened at {openedAt.shown} without END_MACRO"

inductive SourceFault where
  | noSuchTemplate
  | invalidUtf8
  /-- The operating system refuses, with its code and wording. -/
  | system (code : Nat) (wording : String)
  /-- Nothing is known about the file yet. -/
  | unseen
  deriving DecidableEq

def SourceFault.message : SourceFault → String
  | noSuchTemplate => "no such template"
  | invalidUtf8 => "stream did not contain valid UTF-8"
  | system code wording => s!"{wording} (os error {(Text.ofNat code).str})"
  | unseen => "not looked up"

inductive Fault where
  | malformed (cause : SyntaxFault)
  | unmatched (cause : BlockFault)
  | undefinedMacro (name : Text)
  /-- An include of a source that is being read. -/
  | circularInclude (path : Text) (chain : List Text)
  | tooDeep (limit : Nat)
  | undefinedVariable (name : Text)
  | badCondition (reason : String)
  | unreadable (path : Text) (cause : SourceFault)
  deriving DecidableEq

/-- A chain of includes, outermost first. -/
def showChain (chain : List Text) : Text :=
  Text.join " -> ".toList chain

def Fault.message : Fault → String
  | malformed cause => s!"syntax error: {cause.message}"
  | unmatched cause => s!"unmatched block: {cause.message}"
  | undefinedMacro name => s!"undefined macro: {name.str}"
  | circularInclude path chain =>
    s!"circular include of {path.str} (chain: {Text.str (showChain chain)})"
  | tooDeep limit => s!"recursion limit of {(Text.ofNat limit).str} exceeded"
  | undefinedVariable name => s!"undefined variable: {name.str}"
  | badCondition reason => s!"expression error: {reason}"
  | unreadable path cause => s!"io error on {path.str}: {cause.message}"

/-- A fault and the line at which it was found. -/
structure LocatedFault where
  fault : Fault
  location : Location
  deriving DecidableEq

def Fault.at (fault : Fault) (location : Location) : LocatedFault :=
  ⟨fault, location⟩

def LocatedFault.message (f : LocatedFault) : String :=
  s!"{f.location.shown}: {f.fault.message}"

end LineTemplate
