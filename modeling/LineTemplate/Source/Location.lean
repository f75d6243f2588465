import LineTemplate.Text.Basic

/-!
# Locations

Where a line was read, and lines that know it.
-/

namespace LineTemplate

/-- A line of a source; line 0 is before the first one. -/
structure Location where
  path : Text
  line : Nat
  deriving DecidableEq

def Location.shown (l : Location) : String :=
  s!"{l.path.str}:{(Text.ofNat l.line).str}"

/-- A line of template text and where it was read. -/
structure Line where
  text : Text
  location : Location
  deriving DecidableEq

end LineTemplate
