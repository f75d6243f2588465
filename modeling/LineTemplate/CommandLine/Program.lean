import LineTemplate.CommandLine.Options
import LineTemplate.Options.Profile
import LineTemplate.Run.Render
import LineTemplate.Source.FileTree

/-!
# The program

What the program does with its command line, its standard input and the files: it reads the
settings, applies the overrides, renders the template, and prints or writes the document.
-/

namespace LineTemplate

structure World where
  files : FileSystem
  home : Option Text
  stdin : List UInt8

inductive ProgramFault where
  | usage (cause : UsageFault)
  | settingsFile (path : Text) (cause : SourceFault)
  | define (name : Text) (cause : OptionFault)
  | stdin (cause : SourceFault)
  | render (cause : LocatedFault)
  | output (path : Text) (cause : SourceFault)
  /-- A bound on the nesting of sources was too low. -/
  | exhausted

def ProgramFault.message : ProgramFault → String
  | usage cause => cause.message
  | settingsFile path cause => s!"{path.str}: {cause.message}"
  | define name cause => s!"-D {name.str}: {cause.message}"
  | stdin cause => s!"<stdin>: {cause.message}"
  | render cause => cause.message
  | output path cause => s!"{path.str}: {cause.message}"
  | exhausted => "sources nest too deep"

/-- The path of which nothing was known, if that is why the program failed. -/
def ProgramFault.unseen? : ProgramFault → Option Text
  | settingsFile path .unseen => some path
  | render ⟨.unreadable path .unseen, _⟩ => some path
  | _ => none

/-- What the program says in the end: a code for the system, and texts for its two outputs. -/
structure Report where
  code : Nat
  stdout : Text
  stderr : String

structure Plan where
  document : Text
  /-- Where the document goes, if not to standard output. -/
  output : Option Text

namespace Program

/-- The places of the settings file, the first of which counts. -/
def settingsPlaces (world : World) : List Text :=
  (world.home.map (Path.join · ".config/stencil/stencilrc".toList)).toList ++
    ["./.stencilrc".toList]

/-- The settings file that is to be read. -/
def settingsPath? (world : World) : SettingsChoice → Except ProgramFault (Option Text)
  | .skip => .ok none
  | .explicit path => .ok (some path)
  | .search =>
    match world.files.firstFile? (settingsPlaces world) with
    | .ok found => .ok (found.map (·.1))
    | .error (.unreadable path cause) => .error (.settingsFile path cause)
    | .error _ => .ok none

/-- Reads the settings, and reports the lines that cannot be understood. -/
def loadProfile (world : World) (choice : SettingsChoice) :
    Except ProgramFault (Profile × String) := do
  match ← settingsPath? world choice with
  | none => pure ({}, "")
  | some path =>
    match world.files.read path with
    | .error cause => throw (.settingsFile path cause)
    | .ok content =>
      match Text.ofUtf8? content with
      | none => throw (.settingsFile path .invalidUtf8)
      | some s =>
        let (profile, warnings) := Profile.load s
        let shown := warnings.map fun w => s!"stencil: warning: {path.str}: {w.message}\n"
        pure (profile, String.join shown)

def applyDefines (profile : Profile) : List (Text × Text) → Except ProgramFault Profile
  | [] => .ok profile
  | (name, value) :: rest =>
    match profile.set name value with
    | .error cause => .error (.define name cause)
    | .ok profile => applyDefines profile rest

def renderInput (world : World) (engine : Engine) (input : Input) :
    Except ProgramFault Document := do
  let outcome ← match input with
    | .path path => pure (engine.renderPath path)
    | .stdin =>
      match Text.ofUtf8? world.stdin with
      | none => throw (.stdin .invalidUtf8)
      | some s => pure (engine.renderText "<stdin>".toList s)
  match outcome with
  | .ok rendering => pure rendering.document
  | .error (.fault cause _) => throw (.render cause)
  | .error .exhausted => throw .exhausted

/-- Does everything but the output. The first part of the answer are the warnings. -/
def plan (world : World) (line : CommandLine) : String × Except ProgramFault Plan :=
  match loadProfile world line.settings with
  | .error fault => ("", .error fault)
  | .ok (profile, warnings) =>
    let result : Except ProgramFault Plan := do
      let profile ← applyDefines profile line.defines
      let config := { profile.config with
        includeDirs := profile.config.includeDirs ++ line.includeDirs
        strict := profile.config.strict || line.strict }
      let env : Environment :=
        { config, loader := world.files.loader, tables := fun _ => none
          evaluator := evaluateCondition }
      let document ← renderInput world { env, settings := profile.settings } line.input
      pure { document := document.text, output := line.output }
    (warnings, result)

def failed (warnings : String) (fault : ProgramFault) : Report :=
  let message := s!"{warnings}stencil: {fault.message}\n"
  match fault with
  | .usage _ => { code := 2, stdout := [], stderr := s!"{message}{CommandLine.usage}\n" }
  | _ => { code := 1, stdout := [], stderr := message }

/-- What the program prints if it has nothing to write. -/
def printed (warnings : String) (document : Text) : Report :=
  { code := 0, stdout := document, stderr := warnings }

def run (tree : FileTree) (home : Option Text) (stdin : List UInt8) (words : List Text) :
    Report × FileTree :=
  match CommandLine.ofWords words with
  | .error cause => (failed "" (.usage cause), tree)
  | .ok line =>
    match plan { files := tree.look, home, stdin } line with
    | (warnings, .error fault) => (failed warnings fault, tree)
    | (warnings, .ok plan) =>
      match plan.output with
      | none => (printed warnings plan.document, tree)
      | some path =>
        match tree.write path plan.document.str.toUTF8.toList with
        | .ok tree => (printed warnings [], tree)
        | .error cause => (failed warnings (.output path cause), tree)

end Program

end LineTemplate
