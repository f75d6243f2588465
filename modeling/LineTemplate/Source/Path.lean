import LineTemplate.Text.Basic

/-!
# Paths

Paths are texts with slashes between their components. Empty components and components `.` mean
nothing, except for a `.` that starts a relative path.
-/

namespace LineTemplate.Path

def isAbsolute (path : Text) : Bool :=
  path.head? = some '/'

/-- The path `path` as seen from a directory. -/
def join (directory path : Text) : Text :=
  if isAbsolute path || directory.isEmpty then path
  else if directory.getLast? = some '/' then directory ++ path
  else directory ++ '/' :: path

/-- The part of a path that has to stay in front: the root, or a `.` that starts it. -/
def splitStart : Text → Text × Text
  | '/' :: rest => (['/'], rest)
  | ['.'] => (['.'], [])
  | '.' :: '/' :: rest => (['.'], '/' :: rest)
  | path => ([], path)

/-- The components without the meaningless ones at the end. -/
def dropTrailing (components : List Text) : List Text :=
  (components.reverse.dropWhile fun c => c = [] || c = ['.']).reverse

/-- The directory of a path; the root and the empty path have none. -/
def parent? (path : Text) : Option Text :=
  let (start, body) := splitStart path
  let components := dropTrailing (Text.splitOn '/' body)
  if components.isEmpty then if start = ['.'] then some [] else none
  else some (start ++ Text.join ['/'] (dropTrailing components.dropLast))

/--
Where a source may be that is asked for from another one: beside that one, in the directories, and
where it is said to be, in this order. An absolute path is only one place.
-/
def candidates (path : Text) (fromPath : Option Text) (directories : List Text) : List Text :=
  if isAbsolute path then [path]
  else
    ((fromPath.bind parent?).map (join · path)).toList ++ directories.map (join · path) ++ [path]

end LineTemplate.Path
