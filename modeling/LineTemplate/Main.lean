import LineTemplate.CommandLine.Program

/-!
# The command line program

Runs the program on the files of the system. A plan is made from what is known about the files; as
long as it fails for want of knowledge about a path, that path is looked up and the plan is made
again.
-/

namespace LineTemplate.Main

/-- The cause that an error of the system stands for. -/
def causeOf : IO.Error → SourceFault
  | .noFileOrDirectory _ code _ => .system code.toNat "No such file or directory"
  | .permissionDenied _ code _ => .system code.toNat "Permission denied"
  | .inappropriateType _ code _ =>
    if code = 20 then .notDirectory else if code = 21 then .isDirectory
    else .system code.toNat "Inappropriate type"
  | .resourceExhausted _ code _ => .system code.toNat "Resource exhausted"
  | e => .system 0 (toString e)

def lookUp (path : Text) : IO (Except SourceFault FileNode) := do
  try
    let canonical ← IO.FS.realPath path.str
    if ← canonical.isDir then return .ok .directory
    let content ← IO.FS.readBinFile canonical
    return .ok (.file canonical.toString.toList content.toList)
  catch e => return .error (causeOf e)

/-- Makes the plan, and looks up what is not known. -/
partial def plan (known : List (Text × Except SourceFault FileNode)) (home : Option Text)
    (stdin : List UInt8) (line : CommandLine) : IO (String × Except ProgramFault Plan) := do
  let files : FileSystem := fun path => (known.lookup path).getD (.error .unseen)
  let (warnings, result) := Program.plan { files, home, stdin } line
  match result with
  | .ok plan => return (warnings, .ok plan)
  | .error fault =>
    match fault.unseen? with
    | some path => plan ((path, ← lookUp path) :: known) home stdin line
    | none => return (warnings, .error fault)

def report (r : Report) : IO UInt32 := do
  IO.eprint r.stderr
  IO.print r.stdout.str
  return UInt32.ofNat r.code

end LineTemplate.Main

open LineTemplate in
def main (words : List String) : IO UInt32 := do
  match CommandLine.ofWords (words.map String.toList) with
  | .error cause => Main.report (Program.failed "" (.usage cause))
  | .ok line =>
    let stdin ← match line.input with
      | .stdin => (← IO.getStdin).readBinToEnd
      | .path _ => pure ByteArray.empty
    let home := (← IO.getEnv "HOME").map String.toList
    match ← Main.plan [] home stdin.toList line with
    | (warnings, .error fault) => Main.report (Program.failed warnings fault)
    | (warnings, .ok plan) =>
      match plan.output with
      | none => Main.report (Program.printed warnings plan.document)
      | some path =>
        try
          IO.FS.writeFile path.str plan.document.str
          Main.report (Program.printed warnings [])
        catch e => Main.report (Program.failed warnings (.output path (Main.causeOf e)))
