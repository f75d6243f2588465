import LineTemplate.Line.Arguments
import LineTemplate.Options.Config
import LineTemplate.Text.Lines
import LineTemplate.Variable.Settings

/-!
# Settings files

A settings file sets options and variables, one in a line: `/set name=value`, `/set name value` or
`name = value`. Lines that start with `;` or `#` are comments. A line that cannot be understood is
reported, and the next line is read with the profile that it leaves behind.
-/

namespace LineTemplate

open Unicode

structure Profile where
  config : Config := {}
  settings : Settings := {}

inductive SettingFault where
  | option (cause : OptionFault)
  | notAssignment (line : Text)
  | emptyName
  | badArguments (cause : SyntaxFault)
  | noArgument
  | noValue (name : Text)
  | emptySetName
  deriving DecidableEq

def SettingFault.message : SettingFault → String
  | option cause => cause.message
  | notAssignment line => s!"expected 'name = value': {line.str}"
  | emptyName => "variable name cannot be empty"
  | badArguments cause => s!"/set: {(Fault.malformed cause).message}"
  | noArgument => "/set: requires an argument"
  | noValue name => s!"/set: missing value for '{name.str}'"
  | emptySetName => "/set: variable name cannot be empty"

/-- A line of a settings file that sets nothing. -/
structure SettingWarning where
  line : Nat
  fault : SettingFault
  deriving DecidableEq

def SettingWarning.message (w : SettingWarning) : String :=
  s!"line {(Text.ofNat w.line).str}: {w.fault.message}"

namespace Profile

/-- Runs an action on the options alone. -/
def onConfig {α : Type} (action : EStateM OptionFault Config α) : EStateM OptionFault Profile α :=
  fun p =>
    match action.run p.config with
    | .ok value config => .ok value { p with config }
    | .error fault config => .error fault { p with config }

theorem run_onConfig {α : Type} (action : EStateM OptionFault Config α) (p : Profile) :
    (onConfig action).run p = match action.run p.config with
      | .ok value config => .ok value { p with config }
      | .error fault config => .error fault { p with config } := rfl

/-- Sets an option, or else a variable. -/
def update (name value : Text) : EStateM OptionFault Profile Unit := do
  let isOption ← onConfig (Config.update name value)
  if isOption then return
  modify fun p => { p with settings := p.settings.set name value }

/-- The profile in which an option or else a variable is set, unless that fails. -/
def set (p : Profile) (name value : Text) : Except OptionFault Profile :=
  match (update name value).run p with
  | .ok _ next => .ok next
  | .error fault _ => .error fault

/-- The name and the value after `/set`: a word `name=value`, or a name and then a value. -/
def readSet (arguments : Text) : Except SettingFault (Text × Text) :=
  match Arguments.tokenize arguments with
  | .error e => .error (.badArguments e)
  | .ok [] => .error .noArgument
  | .ok (word :: rest) =>
    match Text.splitOnce? '=' word, rest with
    | some (name, value), _ => if name.isEmpty then .error .emptySetName else .ok (name, value)
    | none, [] => .error (.noValue word)
    | none, _ => if word.isEmpty then .error .emptySetName else .ok (word, Text.join [' '] rest)

/-- The name and the value of `name = value`. -/
def readAssignment (line : Text) : Except SettingFault (Text × Text) :=
  match Text.splitOnce? '=' line with
  | none => .error (.notAssignment line)
  | some (name, value) =>
    if name.trim.isEmpty then .error .emptyName else .ok (name.trim, value.trim)

/-- The name and the value that a line sets; nothing for a comment or a blank line. -/
def readLine (raw : Text) : Except SettingFault (Option (Text × Text)) :=
  let line := raw.trim
  match line with
  | [] | ';' :: _ | '#' :: _ => .ok none
  | _ =>
    match Text.stripPrefix? "/set".toList line with
    | some rest =>
      if rest.isEmpty || rest.head?.any isBlank then (readSet rest.trim).map some
      else (readAssignment line).map some
    | none => (readAssignment line).map some

def applyLine (raw : Text) : EStateM SettingFault Profile Unit :=
  match readLine raw with
  | .error fault => throw fault
  | .ok none => return
  | .ok (some (name, value)) => EStateM.adaptExcept .option (update name value)

/-- Reads the lines from number `number` on, and reports those that cannot be understood. -/
def loadLines (p : Profile) (number : Nat) : List Text → Profile × List SettingWarning
  | [] => (p, [])
  | raw :: rest =>
    match (applyLine raw).run p with
    | .ok _ p => loadLines p (number + 1) rest
    | .error fault p =>
      let (p, warnings) := loadLines p (number + 1) rest
      (p, ⟨number, fault⟩ :: warnings)

def load (s : Text) : Profile × List SettingWarning :=
  loadLines {} 1 s.lines

end Profile

end LineTemplate
