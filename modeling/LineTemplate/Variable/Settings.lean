import LineTemplate.Variable.Bindings

/-!
# Settings

The variables that every line of a template sees.
-/

namespace LineTemplate

structure Settings where
  vars : Bindings Text := {}
  defined : List Text := []

namespace Settings

def set (s : Settings) (name value : Text) : Settings :=
  { s with vars := s.vars.insert name value }

/-- Gives a variable a value, as `DEFINE` does. -/
def define (s : Settings) (name value : Text) : Settings :=
  { s.set name value with
    defined := if s.defined.contains name then s.defined else name :: s.defined }

def get? (s : Settings) (name : Text) : Option Text :=
  s.vars.get? name

def isDefined (s : Settings) (name : Text) : Bool :=
  s.defined.contains name

end Settings

end LineTemplate
