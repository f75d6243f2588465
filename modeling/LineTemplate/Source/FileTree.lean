import LineTemplate.Source.Loader

/-!
# Files

What a program can learn about the files of a system, a loader that reads templates from them, and a
tree of files that is held in memory.
-/

namespace LineTemplate

inductive FileNode where
  | directory
  /-- A file, its absolute path without detours, and its content. -/
  | file (canonical : Text) (content : List UInt8)

abbrev FileSystem := Text → Except SourceFault FileNode

namespace SourceFault

def notFound : SourceFault := .system 2 "No such file or directory"

def notDirectory : SourceFault := .system 20 "Not a directory"

def isDirectory : SourceFault := .system 21 "Is a directory"

end SourceFault

namespace FileSystem

/-- The first of some paths that leads to a file. A path of which nothing is known ends the
search. -/
def firstFile? (look : FileSystem) : List Text → Except Fault (Option (Text × Text × List UInt8))
  | [] => .ok none
  | path :: rest =>
    match look path with
    | .ok (.file canonical content) => .ok (some (path, canonical, content))
    | .error .unseen => .error (.unreadable path .unseen)
    | _ => firstFile? look rest

def read (look : FileSystem) (path : Text) : Except SourceFault (List UInt8) :=
  match look path with
  | .ok (.file _ content) => .ok content
  | .ok .directory => .error .isDirectory
  | .error cause => .error cause

/-- The loader of the files. Their keys are the paths without detours. -/
def loader (look : FileSystem) : Loader where
  resolve path fromKey directories :=
    match look.firstFile? (Path.candidates path fromKey directories) with
    | .error fault => .error fault
    | .ok (some (_, canonical, _)) => .ok canonical
    | .ok none => .error (.unreadable path .noSuchTemplate)
  openKey key :=
    match look.read key with
    | .ok content => .ok (Source.ofBytes content)
    | .error cause => .error (.unreadable key cause)

end FileSystem

/-- Files in memory: the content of each by the names on the way to it from the root. The
directories are those that are on the way to a file. -/
structure FileTree where
  files : List (List Text × List UInt8)
  workingDirectory : List Text

namespace FileTree

def hasDirectory (t : FileTree) (way : List Text) : Bool :=
  way.isPrefixOf t.workingDirectory ||
    t.files.any fun (file, _) => way.isPrefixOf file && way.length < file.length

/-- The way that some components of a path lead from the way `here`. -/
def walk (t : FileTree) (here : List Text) : List Text → Except SourceFault (List Text)
  | [] => .ok here
  | component :: rest =>
    if !t.hasDirectory here then
      .error (if t.files.any (·.1 = here) then .notDirectory else .notFound)
    else if component = [] || component = ['.'] then t.walk here rest
    else if component = ['.', '.'] then t.walk here.dropLast rest
    else t.walk (here ++ [component]) rest

/-- The way to which a path leads, whether or not there is anything. -/
def way? (t : FileTree) (path : Text) : Except SourceFault (List Text) :=
  if path.isEmpty then .error .notFound
  else t.walk (if Path.isAbsolute path then [] else t.workingDirectory) (Text.splitOn '/' path)

def canonical (way : List Text) : Text :=
  way.flatMap ('/' :: ·)

def look (t : FileTree) : FileSystem := fun path =>
  match t.way? path with
  | .error cause => .error cause
  | .ok way =>
    if t.hasDirectory way then .ok .directory
    else match t.files.lookup way with
      | some content => .ok (.file (canonical way) content)
      | none => .error .notFound

/-- Writes a file into a directory that there is. -/
def write (t : FileTree) (path : Text) (content : List UInt8) : Except SourceFault FileTree :=
  match t.way? path with
  | .error cause => .error cause
  | .ok way =>
    if t.hasDirectory way || path.getLast? = some '/' then .error .isDirectory
    else .ok { t with files := (way, content) :: t.files.filter (·.1 ≠ way) }

end FileTree

end LineTemplate
