import LineTemplate.Options.Profile
import LineTemplate.Run.Route

/-!
# Rendering

A line may start other sources: the iterations of a loop, the body of a macro, a file. Each of them
is processed line by line like the source around it, from which it sees the variables and blocks,
and to which it leaves its stacks as it found them.

Sources nest. A loop nests in the source that holds it and has fewer lines than that source, and
calls and includes nest at most as deep as the configuration allows. These two counts bound the
recursion: the inner one is renewed with every call and include, the outer one never.
-/

namespace LineTemplate

/-- A source that is processed inside of another one. -/
inductive Visit where
  | replay (r : Replay)
  | file (f : FileVisit)

/-- A number of lines, or of reads, that a source has at most. -/
def Visit.size : Visit → Nat
  | replay r => r.body.length
  | file f => f.source.length

namespace Run

/-- Starts a source. Replayed lines get a layer of their own, a file a place among the files that
are being read. What is open around the source lies below its floors. -/
def start (run : Run) : Visit → Outcome
  | .replay r =>
    .ok { run with scopes := r.layer :: run.scopes, margin := r.margin, floors := run.heights }
  | .file f => do
    let files ← run.located f.origin (run.files.push? f.key f.source)
    pure { run with files, margin := f.margin, floors := run.heights }

/-- Processes the rest of the innermost file, which supplies fewer lines than `bound`. -/
def readFile (step : Run → Line → Outcome) (origin : Location) : (bound : Nat) → Run → Outcome
  | 0, _ => .error .exhausted
  | bound + 1, run =>
    match run.files.next with
    | (none, _) => .ok run
    | (some (.error fault), _) =>
      run.located (run.files.location?.getD origin) (.error fault)
    | (some (.ok line), files) => do
      let run ← step { run with files } line
      readFile step origin bound run

/-- Processes the lines of a source that has been started; a file supplies fewer than `bound`. -/
def read (step : Run → Line → Outcome) (bound : Nat) (run : Run) : Visit → Outcome
  | .replay r => r.body.foldlM step run
  | .file f => readFile step f.origin bound run

/-- Ends a source that was started in the state `run`. -/
def finish (run finished : Run) : Visit → Outcome
  | .replay r => do
    let left ← finished.leave run.floors ((r.body.getLast?.map Line.location).getD r.origin)
    pure { left with scopes := left.scopes.tail, margin := run.margin }
  | .file f => do
    let left ← finished.leave run.floors (finished.files.location?.getD f.origin)
    let files := (left.files.pop?.map (·.2)).getD left.files
    pure { left with files, margin := run.margin }

/-- Processes a source, of which a file supplies fewer than `bound` lines. -/
def visit (step : Run → Line → Outcome) (bound : Nat) (run : Run) (source : Visit) : Outcome := do
  let started ← run.start source
  let finished ← started.read step bound source
  run.finish finished source

/-- Does what remains to be done for a line. Loops are processed by `loops`, calls and includes by
`deeper`. -/
def perform (loops deeper : Run → Visit → Outcome) (run : Run) : Task → Outcome
  | .none => .ok run
  | .iterate iterations => iterations.foldlM (fun run r => loops run (.replay r)) run
  | .call r => (deeper run (.replay r)).map fun run => { run with depth := run.depth - 1 }
  | .includeFile f => (deeper run (.file f)).map fun run => { run with depth := run.depth - 1 }

/-- Processes a line and all that it starts. -/
def process (env : Environment) (loops deeper : Run → Visit → Outcome) (run : Run) (line : Line) :
    Outcome := do
  let (run, task) ← run.route env line
  run.perform loops deeper task

/-- Processes a source in which loops nest less than `room` deep. -/
def visitWithin (env : Environment) (deeper : Run → Visit → Outcome) : (room : Nat) →
    Run → Visit → Outcome
  | 0, _, _ => .error .exhausted
  | room + 1, run, source =>
    run.visit (process env (visitWithin env deeper room) deeper) (source.size + 1) source

/-- Processes a source in which calls and includes nest less than `levels` deep. -/
def visitBelow (env : Environment) : (levels : Nat) → Run → Visit → Outcome
  | 0, _, _ => .error .exhausted
  | levels + 1, run, source => visitWithin env (visitBelow env levels) (source.size + 1) run source

end Run

/-- A template engine: its options and collaborators, and the settings with which a run starts. -/
structure Engine where
  env : Environment
  settings : Settings := {}

/-- A rendered template: the document, and the conditions that were decided for it. -/
structure Rendering where
  document : Document
  evaluations : List Evaluation

namespace Engine

/-- Renders a source. What the run defines does not outlive it. -/
def renderSource (engine : Engine) (key : Text) (source : Source) (origin : Location) :
    Except Stop Rendering :=
  let started : Run := { settings := engine.settings }
  let file : FileVisit := { key, source, margin := [], origin }
  (Run.visitBelow engine.env (engine.env.config.maxDepth + 1) started (.file file)).map fun run =>
    { document := run.cursors.render, evaluations := run.evaluations }

/-- Renders a text, which locations name `name`. -/
def renderText (engine : Engine) (name text : Text) : Except Stop Rendering :=
  engine.renderSource name (Source.ofText text) ⟨name, 0⟩

/-- Finds and opens the template at a path; the key under which it was found. -/
def openPath (engine : Engine) (path : Text) : Except Fault (Text × Source) := do
  let key ← engine.env.loader.resolve path none engine.env.config.includeDirs
  let source ← engine.env.loader.openKey key
  pure (key, source)

def renderPath (engine : Engine) (path : Text) : Except Stop Rendering :=
  let origin : Location := ⟨path, 0⟩
  match engine.openPath path with
  | .error fault => .error (.fault (fault.at origin) [])
  | .ok (key, source) => engine.renderSource key source origin

end Engine

end LineTemplate
