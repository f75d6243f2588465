import LineTemplate.Source.Path
import LineTemplate.Source.Reading
import LineTemplate.Variable.Bindings

/-!
# Loaders

A loader finds the source that a path names, and opens it by the key under which it was found.
-/

namespace LineTemplate

structure Loader where
  /-- The key of a path, as seen from the source with a given key and from some directories. -/
  resolve : (path : Text) → (fromKey : Option Text) → (directories : List Text) → Except Fault Text
  openKey : Text → Except Fault Source

namespace Loader

/-- A loader of sources that are held in memory, by name. -/
def ofMemory (sources : Bindings Source) : Loader where
  resolve path fromKey directories :=
    match (Path.candidates path fromKey directories).find? sources.contains with
    | some key => .ok key
    | none => .error (.unreadable path .noSuchTemplate)
  openKey key :=
    match sources.get? key with
    | some source => .ok source
    | none => .error (.unreadable key .noSuchTemplate)

end Loader

end LineTemplate
