import LineTemplate.Line.Arguments
import LineTemplate.Variable.Bindings
import LineTemplate.Variable.Layer

/-!
# Macros

A macro is a list of lines with parameters. A call gives the parameters values: first the positional
arguments in order, then the named ones, and last the defaults.
-/

namespace LineTemplate

structure Parameter where
  name : Text
  default? : Option Text := none
  deriving DecidableEq

structure MacroDefinition where
  name : Text
  parameters : List Parameter
  body : List Line
  definedAt : Location
  deriving DecidableEq

abbrev MacroTable := Bindings MacroDefinition

namespace Parameter

/-- The parameter that an item declares: a name, or a name with a default. -/
def ofItem : Item → Except SyntaxFault Parameter
  | .positional name => if Text.isName name then .ok { name } else .error (.badParameter name)
  | .named name value => .ok { name, default? := some value }

def ofItems : List Item → Except SyntaxFault (List Parameter)
  | [] => .ok []
  | item :: rest => do
    let parameter ← ofItem item
    let parameters ← ofItems rest
    pure (parameter :: parameters)

def listOfText (s : Text) : Except SyntaxFault (List Parameter) := do
  ofItems (← Arguments.items s)

end Parameter

namespace MacroDefinition

/-- The values that positional arguments give to so many parameters. -/
def positionalValues : Nat → List Text → List (Option Text)
  | 0, _ => []
  | n + 1, [] => none :: positionalValues n []
  | n + 1, value :: rest => some value :: positionalValues n rest

/-- Gives the first parameter of a name a value. -/
def setNamed (parameters : List Parameter) (values : List (Option Text)) (name value : Text) :
    List (Option Text) :=
  match parameters.findIdx? (·.name = name) with
  | some i => values.set i (some value)
  | none => values

/-- The value of each parameter that has one in a call. -/
def values (m : MacroDefinition) (args : Arguments) : List (Option Text) :=
  let positional := positionalValues m.parameters.length args.positional
  let given := args.named.foldl
    (fun values (name, value) => setNamed m.parameters values name value) positional
  m.parameters.zipWith (fun parameter value => value.or parameter.default?) given

/-- The variables of a call. Parameters without a value stay undefined. -/
def bind (m : MacroDefinition) (args : Arguments) : Layer :=
  Bindings.empty.insertAll <| (m.parameters.zip (m.values args)).filterMap fun (parameter, value) =>
    value.map (parameter.name, ·)

end MacroDefinition

end LineTemplate
