import LineTemplate.Line.Indicators
import LineTemplate.Number.Decimal

/-!
# Interpreter options

The options of the interpreter and how they are set by name. Setting changes the options that it is
run on; if it fails, it leaves them as they are then. A value that an option cannot have is found out
before anything is changed, so options that were valid stay valid.
-/

namespace LineTemplate

open Unicode

structure Config where
  indicators : Indicators := {}
  /-- References to variables without a value are faults. -/
  strict : Bool := false
  /-- How deep macro calls and includes may nest. -/
  maxDepth : Nat := 64
  /-- The directories in which included files are searched. -/
  includeDirs : List Text := []
  deriving DecidableEq

inductive OptionFault where
  /-- A mark is empty or holds blanks. -/
  | badMark (option : String)
  | equalMarks
  | notBoolean (value : Text)
  | notNumber (value : Text)
  | zeroDepth
  deriving DecidableEq

def OptionFault.message : OptionFault → String
  | badMark option => s!"{option}: must be non-empty and contain no blanks"
  | equalMarks => "meta_indicator and meta_command_indicator must differ"
  | notBoolean value => s!"strict: not a boolean: {value.str}"
  | notNumber value => s!"max_depth: not a number: {value.str}"
  | zeroDepth => "max_depth: must be at least 1"

namespace Indicators

def named (ind : Indicators) : List (String × Text) :=
  [("meta_indicator", ind.mark), ("meta_command_indicator", ind.longMark),
    ("cursor_open", ind.cursorOpen), ("cursor_close", ind.cursorClose),
    ("cursor_query", ind.cursorQuery), ("cursor_select", ind.cursorSelect)]

/-- A mark that can be told from the text around it. -/
def isUsable (mark : Text) : Bool :=
  !mark.isEmpty && !mark.any isBlank

/-- The marks, if they can be used together. -/
def validated (ind : Indicators) : Except OptionFault Indicators :=
  match ind.named.find? fun (_, mark) => !isUsable mark with
  | some (option, _) => .error (.badMark option)
  | none => if ind.mark = ind.longMark then .error .equalMarks else .ok ind

/-- Replaces the mark whose option has a name. -/
def set? (ind : Indicators) (name value : Text) : Option Indicators :=
  match name.str with
  | "meta_indicator" => some { ind with mark := value }
  | "meta_command_indicator" => some { ind with longMark := value }
  | "cursor_open" => some { ind with cursorOpen := value }
  | "cursor_close" => some { ind with cursorClose := value }
  | "cursor_query" => some { ind with cursorQuery := value }
  | "cursor_select" => some { ind with cursorSelect := value }
  | _ => none

end Indicators

namespace Config

def readBool? (value : Text) : Option Bool :=
  match Text.str (value.trim.map Char.toLower) with
  | "1" | "true" | "on" | "yes" => some true
  | "0" | "false" | "off" | "no" | "" => some false
  | _ => none

/-- Reads a depth: a number of one machine word, and not zero. -/
def readDepth (value : Text) : Except OptionFault Nat :=
  match Number.readNat? UInt64.size value.trim with
  | none => .error (.notNumber value)
  | some 0 => .error .zeroDepth
  | some n => .ok n

/-- Sets the option of a name, and says whether there is one that has it. -/
def update (name value : Text) : EStateM OptionFault Config Bool := do
  let config ← get
  match config.indicators.set? name value with
  | some changed =>
    let indicators ← ofExcept changed.validated
    set { config with indicators }
    return true
  | none =>
    match name.str with
    | "strict" =>
      match readBool? value with
      | some strict =>
        set { config with strict }
        return true
      | none => throw (.notBoolean value)
    | "max_depth" =>
      let maxDepth ← ofExcept (readDepth value)
      set { config with maxDepth }
      return true
    | "include_path" =>
      let added := (Text.splitOn ':' value).filter (!·.isEmpty)
      set { config with includeDirs := config.includeDirs ++ added }
      return true
    | _ => return false

/-- The options that are set by name, unless that fails; nothing if no option has the name. -/
def apply (config : Config) (name value : Text) : Except OptionFault (Option Config) :=
  match (update name value).run config with
  | .ok true next => .ok (some next)
  | .ok false _ => .ok none
  | .error fault _ => .error fault

end Config

end LineTemplate
