import LineTemplate.Run.State

/-!
# Routing lines

What a single line does. While a block is captured, the line goes into its body. Otherwise it is
classified; in dead text only blocks are tracked, in live text directives act and literal text is
emitted. A line that starts another source only says so: the source becomes a task, which is
performed afterwards.
-/

namespace LineTemplate

/-- Lines that are processed again: those of a macro or of a loop. -/
structure Replay where
  body : List Line
  layer : Layer
  margin : Text
  origin : Location

structure FileVisit where
  key : Text
  source : Source
  margin : Text
  origin : Location

inductive Task where
  | none
  | iterate (iterations : List Replay)
  | call (replay : Replay)
  | includeFile (file : FileVisit)

namespace Run

/-! ## Literal text and cursors -/

/-- Emits a line of literal text. Empty lines get no margin. -/
def emit (run : Run) (env : Environment) (raw : Text) : Except Fault Run :=
  match run.substitute env raw with
  | .error e => .error e
  | .ok text =>
    let line := if text.isEmpty then [] else run.margin ++ text
    .ok { run with cursors := run.cursors.emit line }

/-- Does what a cursor statement says. Selections of the sources around the current one are neither
replaced nor left. -/
def moveCursor (run : Run) (op : CursorOp) (name : Text) (active : Bool) : Except Fault Run :=
  let ownsSelection := run.floors.selections < run.cursors.selectionDepth
  match op with
  | .query =>
    (run.conditionals.open? none (.ok (run.cursors.exists? name))).map fun conditionals =>
      { run with conditionals }
  | .enter => .ok (if active then { run with cursors := run.cursors.enter name } else run)
  | .switch =>
    let cursors := if ownsSelection then run.cursors.switch name else run.cursors.enter name
    .ok (if active then { run with cursors } else run)
  | .leave =>
    if !active then .ok run
    else if !ownsSelection then .error (.unmatched .closeWithoutCursor)
    else run.cursors.leave?.map fun (_, cursors) => { run with cursors }

/-! ## Conditions -/

def decide (run : Run) (env : Environment) (condition : Text) : Except Fault Bool × Run :=
  let verdict := env.evaluator condition (run.visible env)
  (verdict.mapError fun reason => .badCondition s!"{condition.str}: {reason}",
    { run with decided := ⟨condition, verdict⟩ :: run.decided })

def openIf (run : Run) (env : Environment) (condition : Text) (location : Location) : Outcome :=
  let (verdict, run) :=
    if run.conditionals.isActive then run.decide env condition else (.ok false, run)
  (run.located location (run.conditionals.open? (some condition) verdict)).map fun conditionals =>
    { run with conditionals }

def elseIf (run : Run) (env : Environment) (condition : Text) (location : Location) : Outcome :=
  let (verdict, run) :=
    if run.conditionals.asks run.floors.conditionals then run.decide env condition
    else (.ok false, run)
  let continued := run.conditionals.elseIf? run.floors.conditionals condition verdict
  (run.located location continued).map fun conditionals => { run with conditionals }

/-- Opens a chain by a test that cannot fail. -/
def openTest (run : Run) (holds : Bool) : Except Fault Run :=
  (run.conditionals.open? none (.ok holds)).map fun conditionals => { run with conditionals }

/-- Whether a name is that of a macro or was introduced by a `DEFINE`. -/
def isDefined (run : Run) (name : Text) : Bool :=
  run.macros.contains name || run.settings.isDefined name

/-! ## Blocks and definitions -/

def define (run : Run) (name value : Text) : Except Fault Run :=
  match Arguments.tokenize value with
  | .error e => .error (.malformed e)
  | .ok words => .ok { run with settings := run.settings.define name (Text.join [' '] words) }

/-- The source of a loop without the word `over` or `in` before it. -/
def loopSource (source : Text) : Text :=
  let source := source.trimStart
  let (word, rest) := source.splitWord
  if Text.sameIgnoringCase word "over".toList || Text.sameIgnoringCase word "in".toList then rest
  else source

/-- The rows that a loop goes through. -/
def loopRecords (run : Run) (env : Environment) (source : Text) :
    Except SyntaxFault (List Record) :=
  (Record.resolve? env.tables (run.visible env) (loopSource source)).map (·.getD [])

def startCapture (run : Run) (head : CaptureHead) (active : Bool) (openedAt : Location) : Run :=
  { run with captures := run.captures.push { head, active, openedAt } }

def openLoop (run : Run) (env : Environment) (loopVariable source : Text) (active : Bool)
    (location : Location) : Except Fault Run :=
  if !Text.isName loopVariable then .error (.malformed (.badLoopVariable loopVariable))
  else
    match if active then run.loopRecords env source else .ok [] with
    | .error e => .error (.malformed e)
    | .ok records => .ok (run.startCapture (.loop loopVariable records) active location)

def openMacro (run : Run) (name parameters : Text) (active : Bool) (location : Location) :
    Except Fault Run :=
  if !Text.isName name then .error (.malformed (.badMacroName name))
  else
    match if active then Parameter.listOfText parameters else .ok [] with
    | .error e => .error (.malformed e)
    | .ok parameters => .ok (run.startCapture (.macroBody name parameters) active location)

/-- What a complete block does: a loop is gone through, a macro is defined. -/
def complete (run : Run) (capture : Capture) (location : Location) : Run × Task :=
  if !capture.active then (run, .none)
  else
    match capture.head with
    | .loop loopVariable records =>
      let iteration (record : Record) (index : Nat) : Replay :=
        { body := capture.body, margin := run.margin, origin := location
          layer := Layer.forRecord loopVariable record index records.length }
      (run, .iterate (records.mapIdx fun index record => iteration record index))
    | .macroBody name parameters =>
      let definition : MacroDefinition :=
        { name, parameters, body := capture.body, definedAt := capture.openedAt }
      ({ run with macros := run.macros.insert name definition }, .none)

/-! ## Calls and includes -/

/-- Goes one level deeper, if the limit allows it. -/
def descend (run : Run) (env : Environment) : Except Fault Run :=
  if run.depth < env.config.maxDepth then .ok { run with depth := run.depth + 1 }
  else .error (.tooDeep env.config.maxDepth)

/-- Replaces the references in some texts, in order. -/
def substituteAll (run : Run) (env : Environment) : List Text → Except Fault (List Text)
  | [] => .ok []
  | s :: rest => do
    let s ← run.substitute env s
    let rest ← run.substituteAll env rest
    pure (s :: rest)

/-- Replaces the references in the values of some arguments, the positional ones first. -/
def substituteArguments (run : Run) (env : Environment) (args : Arguments) :
    Except Fault Arguments := do
  let positional ← run.substituteAll env args.positional
  let values ← run.substituteAll env (args.named.map (·.2))
  pure { positional, named := (args.named.map (·.1)).zip values }

def readArguments (run : Run) (env : Environment) (arguments : Text) : Except Fault Arguments :=
  match Arguments.ofText arguments with
  | .error e => .error (.malformed e)
  | .ok args => run.substituteArguments env args

def call (run : Run) (env : Environment) (name arguments indentation : Text)
    (location : Location) : Except Fault (Run × Task) := do
  match run.macros.get? name with
  | none => throw (.undefinedMacro name)
  | some definition =>
    let args ← run.readArguments env arguments
    let deeper ← run.descend env
    pure (deeper, .call
      { body := definition.body, layer := definition.bind args
        margin := run.margin ++ indentation, origin := location })

def includeFile (run : Run) (env : Environment) (path indentation : Text) (location : Location) :
    Except Fault (Run × Task) := do
  let path ← run.substitute env path
  let deeper ← run.descend env
  let key ← env.loader.resolve path (some location.path) env.config.includeDirs
  if run.files.contains key then throw (.circularInclude key run.files.chain)
  let source ← env.loader.openKey key
  pure (deeper, .includeFile
    { key, source, margin := run.margin ++ indentation, origin := location })

/-! ## Lines -/

def direct (run : Run) (env : Environment) (kind : Directive) (object expression : Text)
    (indentation : Text) (active : Bool) (location : Location) : Except Stop (Run × Task) :=
  let finished (outcome : Outcome) : Except Stop (Run × Task) := outcome.map (·, .none)
  let simply (result : Except Fault Run) : Except Stop (Run × Task) :=
    finished (run.located location result)
  let withConditionals (conditionals : ConditionalStack) : Run := { run with conditionals }
  match kind with
  | .ifHolds => finished (run.openIf env expression location)
  | .elseIf => finished (run.elseIf env expression location)
  | .ifSet => simply (run.openTest (run.visible env object).isSome)
  | .ifNotSet => simply (run.openTest (run.visible env object).isNone)
  | .ifDef => simply (run.openTest (run.isDefined object))
  | .ifNotDef => simply (run.openTest !(run.isDefined object))
  | .otherwise =>
    simply ((run.conditionals.otherwise? run.floors.conditionals).map withConditionals)
  | .endIf =>
    simply ((run.conditionals.close? run.floors.conditionals).map fun (_, rest) =>
      withConditionals rest)
  | .define => simply (if active then run.define object expression else .ok run)
  | .loop => simply (run.openLoop env object expression active location)
  | .defineMacro => simply (run.openMacro object expression active location)
  | .endLoop => simply (.error (.unmatched .endLoopWithoutLoop))
  | .endMacro => simply (.error (.unmatched .endMacroWithoutMacro))
  | .call =>
    if active then
      run.located location (run.call env object expression indentation location)
    else .ok (run, .none)
  | .includeFile =>
    if active then run.located location (run.includeFile env object indentation location)
    else .ok (run, .none)

def capture (run : Run) (env : Environment) (line : Line) : Run × Task :=
  let kind := match run.classify env line.text with
    | .ok statement => statement.directive?
    | .error _ => none
  let (completed, captures) := run.captures.feed line kind
  let run := { run with captures }
  match completed with
  | some capture => run.complete capture line.location
  | none => (run, .none)

def execute (run : Run) (env : Environment) (statement : Statement) (location : Location) :
    Except Stop (Run × Task) :=
  let active := run.conditionals.isActive
  match statement.content with
  | .literal =>
    if active then (run.located location (run.emit env statement.raw)).map (·, .none)
    else .ok (run, .none)
  | .cursor op name _ =>
    (run.located location (run.moveCursor op (name.getD []) active)).map (·, .none)
  | .directive kind object expression =>
    run.direct env kind (object.getD []) (expression.getD []) statement.indentation active location

/-- What a line does, and what remains to be done for it. A line that cannot be classified is a
fault in dead text, too. -/
def route (run : Run) (env : Environment) (line : Line) : Except Stop (Run × Task) :=
  if run.captures.isCapturing then .ok (run.capture env line)
  else
    match run.classify env line.text with
    | .error e => run.located line.location (.error (.malformed e))
    | .ok statement => run.execute env statement line.location

end Run

end LineTemplate
