import LineTemplate.Variable.Record
import LineTemplate.Variable.Settings

/-!
# Scopes

Every iteration of a loop and every call of a macro has a layer of variables of its own. A variable
is looked up from the innermost layer outwards, and in the settings last.
-/

namespace LineTemplate

/-- The variables of one loop iteration or macro call. -/
abbrev Layer := Bindings Text

/-- The active layers, innermost first. -/
abbrev Scopes := List Layer

/--
The variables of one iteration. The number of the iteration and the count of them come first, then
the value of the row, then each field with and without the name of the loop variable; what comes
later replaces what came before.
-/
def Layer.forRecord (loopVariable : Text) (record : Record) (index count : Nat) : Layer :=
  let qualified (name : Text) : Text := loopVariable ++ '.' :: name
  Bindings.empty
    |>.insert (qualified "index".toList) (Text.ofNat index)
    |>.insert (qualified "count".toList) (Text.ofNat count)
    |>.insertAll (record.scalar.toList.map fun value => (loopVariable, value))
    |>.insertAll (record.fields.flatMap fun (name, value) =>
      [(qualified name, value), (name, value)])

namespace Scopes

/-- The innermost value of a variable, the settings left out. -/
def lookup? (scopes : Scopes) (name : Text) : Option Text :=
  scopes.findSome? fun (layer : Layer) => layer.get? name

def get? (scopes : Scopes) (settings : Settings) (name : Text) : Option Text :=
  (scopes.lookup? name).or (settings.get? name)

/-- The value of a variable whose name may be written with the mark in front. -/
def visible (scopes : Scopes) (settings : Settings) (mark : Text) : Lookup := fun name =>
  (scopes.get? settings name).or
    ((Text.stripPrefix? mark name).bind fun bare => scopes.get? settings bare)

end Scopes

end LineTemplate
