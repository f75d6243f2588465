import LineTemplate.Fault
import LineTemplate.Json.Reader
import LineTemplate.Variable.Bindings

/-!
# Records

The rows that a loop goes through. A row is a list of named fields, or a single value, which then is
also its only field. Rows come from a JSON array that is written in place, from a table with a name,
or from a variable whose value is such an array.
-/

namespace LineTemplate

structure Record where
  fields : List (Text × Text)
  /-- The value of a row that is one. -/
  scalar : Option Text := none
  deriving DecidableEq

/-- The rows of each table that there is. -/
abbrev Tables := Text → Option (List Record)

namespace Record

/-- The row that is a single value. -/
def ofScalar (value : Text) : Record :=
  { fields := [("value".toList, value)], scalar := some value }

/-- The value of the first field of a name. -/
def get? (r : Record) (name : Text) : Option Text :=
  r.fields.lookup name

/-- The text of a JSON value in a template: strings without quotes, and nothing for null. -/
def fieldText : Json → Text
  | .null => []
  | .str s => s
  | v => v.compact

/-- The row that a JSON value is. -/
def ofJson : Json → Record
  | .obj fields => { fields := fields.map fun (name, value) => (name, fieldText value) }
  | v => ofScalar (fieldText v)

def listOfText (s : Text) : Except SyntaxFault (List Record) :=
  match Json.ofText? s with
  | none => .error .badRecords
  | some (.arr items) => .ok (items.map ofJson)
  | some _ => .error .recordsNotArray

def startsArray (s : Text) : Bool :=
  s.head? = some '['

/-- The rows that a source names, if it names any. -/
def resolve? (tables : Tables) (vars : Lookup) (source : Text) :
    Except SyntaxFault (Option (List Record)) :=
  let source := source.trim
  if source.isEmpty then .ok none
  else if startsArray source then (listOfText source).map some
  else
    match tables source with
    | some rows => .ok (some rows)
    | none =>
      match vars source with
      | some value => if startsArray value.trimStart then (listOfText value).map some else .ok none
      | none => .ok none

end Record

end LineTemplate
