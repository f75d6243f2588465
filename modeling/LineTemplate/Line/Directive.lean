import LineTemplate.Text.Basic

/-!
# Directives

The directives of the language: their keywords, what they take, and which blocks they open,
continue and close. Keywords are recognised in any mixture of upper and lower case.
-/

namespace LineTemplate

inductive Directive where
  | define
  | ifHolds
  | ifSet
  | ifNotSet
  | ifDef
  | ifNotDef
  | elseIf
  | otherwise
  | endIf
  | loop
  | endLoop
  | defineMacro
  | endMacro
  | call
  | includeFile
  deriving DecidableEq

/-- The kinds of blocks. Blocks of different kinds nest independently of each other. -/
inductive BlockKind where
  | conditional
  | loop
  | macroBody
  deriving DecidableEq

inductive BlockRole where
  | opens
  | continues
  | closes
  deriving DecidableEq

structure Directive.Description where
  keyword : String
  aliases : List String := []
  /-- The first word after the keyword names what the directive acts on. -/
  hasObject : Bool := false
  hasCondition : Bool := false
  block : Option (BlockKind × BlockRole) := none

namespace Directive

/-- All directives, in the order in which their keywords are tried. -/
def all : List Directive :=
  [define, ifHolds, ifSet, ifNotSet, ifDef, ifNotDef, elseIf, otherwise, endIf, loop, endLoop,
    defineMacro, endMacro, call, includeFile]

def description : Directive → Description
  | define => { keyword := "DEFINE", aliases := ["DEF"], hasObject := true }
  | ifHolds => { keyword := "IF", hasCondition := true, block := some (.conditional, .opens) }
  | ifSet =>
    { keyword := "IF_SET", aliases := ["IFSET"], hasObject := true
      block := some (.conditional, .opens) }
  | ifNotSet =>
    { keyword := "IF_NOT_SET", aliases := ["IFNOTSET", "IF_UNSET"], hasObject := true
      block := some (.conditional, .opens) }
  | ifDef =>
    { keyword := "IF_DEF", aliases := ["IFDEF"], hasObject := true
      block := some (.conditional, .opens) }
  | ifNotDef =>
    { keyword := "IF_NOT_DEF", aliases := ["IFNDEF", "IF_NDEF"], hasObject := true
      block := some (.conditional, .opens) }
  | elseIf =>
    { keyword := "ELSE_IF", aliases := ["ELSIF", "ELSEIF", "ELIF"], hasCondition := true
      block := some (.conditional, .continues) }
  | otherwise => { keyword := "ELSE", block := some (.conditional, .continues) }
  | endIf =>
    { keyword := "END_IF", aliases := ["ENDIF", "FI"], block := some (.conditional, .closes) }
  | loop =>
    { keyword := "LOOP", aliases := ["FOREACH"], hasObject := true, block := some (.loop, .opens) }
  | endLoop =>
    { keyword := "END_LOOP", aliases := ["ENDLOOP", "END_FOREACH"], block := some (.loop, .closes) }
  | defineMacro => { keyword := "MACRO", hasObject := true, block := some (.macroBody, .opens) }
  | endMacro =>
    { keyword := "END_MACRO", aliases := ["ENDMACRO"], block := some (.macroBody, .closes) }
  | call => { keyword := "CALL", hasObject := true }
  | includeFile => { keyword := "INCLUDE", aliases := ["INC"], hasObject := true }

def words (d : Directive) : List Text :=
  (d.description.keyword :: d.description.aliases).map String.toList

def ofWord? (word : Text) : Option Directive :=
  all.find? fun d => d.words.any (Text.sameIgnoringCase word)

/-- The kind of block that a directive opens. -/
def opens? (d : Directive) : Option BlockKind :=
  match d.description.block with
  | some (kind, .opens) => some kind
  | _ => none

/-- The kind of block that a directive closes. -/
def closes? (d : Directive) : Option BlockKind :=
  match d.description.block with
  | some (kind, .closes) => some kind
  | _ => none

end Directive

end LineTemplate
