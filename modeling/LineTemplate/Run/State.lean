import LineTemplate.Block.Capture
import LineTemplate.Block.Conditional
import LineTemplate.Expression.Eval
import LineTemplate.Line.Statement
import LineTemplate.Line.Substitution
import LineTemplate.Options.Config
import LineTemplate.Output.Document
import LineTemplate.Source.Loader
import LineTemplate.Variable.Layer

/-!
# The state of a run

A run renders one template. Its state holds everything that a line can see or change; what a run
cannot change is its environment.
-/

namespace LineTemplate

structure Environment where
  config : Config
  loader : Loader
  tables : Tables
  evaluator : Evaluator

/-- A condition that was decided, and how. -/
structure Evaluation where
  condition : Text
  verdict : Except String Bool

/-- How much was open when the current source began. -/
structure Floors where
  conditionals : Nat := 0
  captures : Nat := 0
  selections : Nat := 0
  deriving DecidableEq

structure Run where
  settings : Settings
  macros : MacroTable := {}
  conditionals : ConditionalStack := {}
  captures : CaptureStack := {}
  cursors : CursorDirectory := {}
  files : FileStack := {}
  scopes : Scopes := []
  floors : Floors := {}
  /-- What stands in front of every line that is not empty. -/
  margin : Text := []
  /-- The number of macro calls and includes that are in progress. -/
  depth : Nat := 0
  /-- The conditions decided so far, the last one first. -/
  decided : List Evaluation := []

inductive Stop where
  /-- A fault, and the conditions that were decided before. -/
  | fault (cause : LocatedFault) (evaluations : List Evaluation)
  /-- A bound on the nesting of sources was too low. -/
  | exhausted

/-- The state after some lines, unless the run ended. -/
abbrev Outcome := Except Stop Run

namespace Run

def evaluations (run : Run) : List Evaluation :=
  run.decided.reverse

def located {α : Type} (run : Run) (location : Location) : Except Fault α → Except Stop α
  | .ok a => .ok a
  | .error fault => .error (.fault (fault.at location) run.evaluations)

def visible (run : Run) (env : Environment) : Lookup :=
  run.scopes.visible run.settings env.config.indicators.mark

def substitute (run : Run) (env : Environment) (s : Text) : Except Fault Text :=
  LineTemplate.substitute env.config.indicators.mark env.config.strict (run.visible env) s

/-- Finds out what a line means at this point of the run. -/
def classify (run : Run) (env : Environment) (raw : Text) : Except SyntaxFault Statement :=
  Statement.classify env.config.indicators run.macros.contains raw

def heights (run : Run) : Floors where
  conditionals := run.conditionals.depth
  captures := run.captures.depth
  selections := run.cursors.selectionDepth

/-- What a source has left open, if it must not be left so. -/
def openBlock? (run : Run) : Option BlockFault :=
  if run.floors.captures < run.captures.depth then run.captures.openBlock?
  else if run.floors.conditionals < run.conditionals.depth then some run.conditionals.openBlock
  else none

/-- Ends a source: everything that it opened has to be closed, except selections of cursors, which
are dropped. `outer` are the floors of the source around it. -/
def leave (run : Run) (outer : Floors) (location : Location) : Outcome :=
  match run.openBlock? with
  | some block => run.located location (.error (.unmatched block))
  | none =>
    .ok { run with floors := outer, cursors := run.cursors.truncate run.floors.selections }

end Run

end LineTemplate
