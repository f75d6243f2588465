import LineTemplate.Proofs.Json.Printing
import LineTemplate.Proofs.Lines.Trimming
import LineTemplate.Proofs.Variables.Rows

/-!
# Rows in a field of a row

A field whose value is an array is bound as the text of that array, so that a loop inside of the
loop over the rows can go through it. The text is read back as the same array.

Main statement: `nested_rows`.
-/

namespace LineTemplate

open Unicode

namespace Record

variable {tables : Tables} {vars : Lookup} {source value : Text}

/-- A source that is no literal and no table is looked up as a variable. -/
theorem resolve?_of_variable (nonempty : source ≠ []) (plain : source.trim = source)
    (noLiteral : startsArray source = false) (noTable : tables source = none)
    (bound : vars source = some value) (array : startsArray value.trimStart = true) :
    resolve? tables vars source = (listOfText value).map some := by
  unfold resolve?
  dsimp only
  rw [plain, List.isEmpty_eq_false_iff.mpr nonempty, noLiteral, noTable, bound]
  dsimp only
  rw [if_neg Bool.false_ne_true, if_neg Bool.false_ne_true, if_pos array]

theorem startsArray_compact (items : List Json) :
    startsArray (Text.trimStart (Json.arr items).compact) = true := by
  have visible : isBlank '[' = false := by decide
  rw [Json.compact, Text.trimStart, List.dropWhile_cons_of_neg (by simp [visible])]
  rfl

end Record

namespace Layer

variable {fields : List (Text × Json)} {loopVariable field : Text} {value : Json}

/-- A field of a row that is an object is bound as its text, if no other one has its variable. -/
theorem get?_forRecord_ofJson (distinct : (fields.map Prod.fst).Nodup)
    (member : (field, value) ∈ fields)
    (single : qualified loopVariable field ∉ fields.map Prod.fst) (index count : Nat) :
    (forRecord loopVariable (.ofJson (.obj fields)) index count).get?
      (qualified loopVariable field) = some (Record.fieldText value) := by
  obtain ⟨before, after, split⟩ := List.append_of_mem member
  let texts (fields : List (Text × Json)) : List (Text × Text) :=
    fields.map fun field => (field.1, Record.fieldText field.2)
  have names (fields : List (Text × Json)) : (texts fields).map Prod.fst = fields.map Prod.fst := by
    simp [texts]
  have bound : (Record.ofJson (.obj fields)).fields =
      texts before ++ (field, Record.fieldText value) :: texts after := by
    rw [Record.ofJson, split, List.map_append, List.map_cons]
  have present : field ∈ (Record.ofJson (.obj fields)).fields.map Prod.fst := by
    rw [bound]
    simp
  obtain ⟨long, -, -⟩ := row_variables loopVariable (.ofJson (.obj fields)) index count present
  rw [long]
  refine Record.lastAmong?_of_last bound (decide_eq_true (.inl rfl)) fun other later => ?_
  rw [names] at later
  rw [decide_eq_true_eq]
  rintro (rfl | rfl)
  · rw [split, List.map_append, List.map_cons] at distinct
    exact (List.nodup_cons.mp (List.nodup_append.mp distinct).2.1).1 later
  · refine single ?_
    rw [split, List.map_append]
    exact List.mem_append_right _ (List.mem_cons_of_mem _ later)

end Layer

theorem Scopes.visible_of_innermost {layer : Layer} {name value : Text}
    (bound : layer.get? name = some value) (outer : Scopes) (settings : Settings) (mark : Text) :
    visible (layer :: outer) settings mark name = some value := by
  rw [visible, get?, lookup?, List.findSome?_cons, bound]
  rfl

open Layer

/-- A loop over a field of a row goes through the items of the array that is its value, as if that
array were written in its place. -/
theorem nested_rows {s : Text} {items inner : List Json} {fields : List (Text × Json)}
    {field : Text} (loopVariable : Text) (tables : Tables)
    (read : Json.ofText? s = some (.arr items)) (row : .obj fields ∈ items)
    (nested : (field, .arr inner) ∈ fields) (free : (Json.arr inner).floatFree = true)
    (noTable : tables (qualified loopVariable field) = none)
    (single : qualified loopVariable field ∉ fields.map Prod.fst)
    (plain : (qualified loopVariable field).trim = qualified loopVariable field)
    (noLiteral : Record.startsArray (qualified loopVariable field) = false)
    (index count : Nat) (outer : Scopes) (settings : Settings) (mark : Text) :
    let layer := forRecord loopVariable (.ofJson (.obj fields)) index count
    let rows := Record.resolve? tables (Scopes.visible (layer :: outer) settings mark)
      (qualified loopVariable field)
    rows = .ok (some (inner.map Record.ofJson)) ∧
      ∀ literal, Json.ofText? literal = some (.arr inner) →
        rows = (Record.listOfText literal).map some := by
  have readable : Json.Readable Json.depthLimit (.obj fields) :=
    (Json.readable_of_ofText? read).of_mem_arr row
  have back : Json.ofText? (Json.arr inner).compact = some (.arr inner) :=
    Json.ofText?_compact (readable.of_mem_obj nested) free
  have bound := get?_forRecord_ofJson readable.distinct nested single index count
  have rows := Record.resolve?_of_variable (by simp [qualified]) plain noLiteral noTable
    (Scopes.visible_of_innermost bound outer settings mark) (Record.startsArray_compact inner)
  have direct (literal : Text) (read : Json.ofText? literal = some (.arr inner)) :
      Record.listOfText literal = .ok (inner.map Record.ofJson) := by
    rw [Record.listOfText, read]
  refine ⟨rows.trans (congrArg _ (direct _ back)), fun literal read => ?_⟩
  exact rows.trans (congrArg _ ((direct _ back).trans (direct _ read).symm))

/-- Two objects and a string in a field of a row that has another field twice. They hold escapes, a
control character, other letters, and the largest and the smallest integer. -/
def crateText : Text :=
  "[\x7b\"k\":1,\"tags\":[\x7b\"z\":\"é\\u0001\\n\\\"\",
    \"a\":[18446744073709551615, -9223372036854775808]\x7d,
    \"x\\\\y\",\x7b\"n\":\x7b\x7d,\"\\ud83d\\ude00\":true\x7d],\"k\":2\x7d]".toList

def crateTags : List Json :=
  [.obj [(['z'], .str ['é', '\x01', '\n', '"']),
      (['a'], .arr [.int 18446744073709551615, .int (-9223372036854775808)])],
    .str ['x', '\\', 'y'], .obj [(['n'], .obj []), (['😀'], .bool true)]]

def crateFields : List (Text × Json) :=
  [(['k'], .int 2), ("tags".toList, .arr crateTags)]

theorem nested_rows_crate :
    Json.ofText? crateText = some (.arr [.obj crateFields]) ∧
      Record.resolve? (fun _ => none)
          (Scopes.visible [forRecord ['r'] (.ofJson (.obj crateFields)) 0 1] {} ['_'])
          "r.tags".toList =
        .ok (some (crateTags.map Record.ofJson)) := by
  have read : Json.ofText? crateText = some (.arr [.obj crateFields]) := by cbv
  have nested : ("tags".toList, .arr crateTags) ∈ crateFields :=
    List.mem_cons_of_mem _ List.mem_cons_self
  have rows := nested_rows ['r'] (fun _ => none) read List.mem_cons_self nested (by decide) rfl
    (by decide) (by decide) (by decide) 0 1 [] {} ['_']
  exact ⟨read, rows.1⟩

/-- A loop over a field of a row goes through the items of the array that is its value, for fields
with some names. -/
def ReachesNested (named : Text → Prop) : Prop :=
  ∀ (s : Text) (items inner : List Json) (fields : List (Text × Json)) (loopVariable field : Text)
    (tables : Tables) (index count : Nat), Json.ofText? s = some (.arr items) →
    (Json.arr items).floatFree = true → .obj fields ∈ items → (field, .arr inner) ∈ fields →
    tables (qualified loopVariable field) = none →
    qualified loopVariable field ∉ fields.map Prod.fst → named (qualified loopVariable field) →
      Record.resolve? tables
          (Scopes.visible [forRecord loopVariable (.ofJson (.obj fields)) index count] {} ['_'])
          (qualified loopVariable field) =
        .ok (some (inner.map Record.ofJson))

/-- Names with a blank behind them are not found, and names that start like a literal are read as
one. -/
theorem nested_rows_not_reached :
    ¬ ReachesNested (fun _ => True) ∧
      ¬ ReachesNested (fun name => Record.startsArray name = false) ∧
      ¬ ReachesNested (fun name => name.trim = name) := by
  have blank : ¬ ReachesNested (fun name => Record.startsArray name = false) := by
    intro reaches
    have found := reaches "[\x7b\"a \":[1]\x7d]".toList [.obj [("a ".toList, .arr [.int 1])]]
      [.int 1] [("a ".toList, .arr [.int 1])] ['r'] "a ".toList (fun _ => none) 0 1 (by cbv) rfl
      List.mem_cons_self List.mem_cons_self rfl (by decide) rfl
    have lost : Record.resolve? (fun _ => none) (Scopes.visible [forRecord ['r']
        (.ofJson (.obj [("a ".toList, .arr [.int 1])])) 0 1] {} ['_']) "r.a ".toList =
          .ok none := by
      decide
    cases lost.symm.trans found
  refine ⟨fun reaches => blank ?_, blank, ?_⟩
  · intro s items inner fields loopVariable field tables index count read free row nested noTable
      single _
    exact reaches s items inner fields loopVariable field tables index count read free row nested
      noTable single trivial
  · intro reaches
    have found := reaches "[\x7b\"a\":[1]\x7d]".toList [.obj [(['a'], .arr [.int 1])]]
      [.int 1] [(['a'], .arr [.int 1])] "[r".toList ['a'] (fun _ => none) 0 1 (by cbv) rfl
      List.mem_cons_self List.mem_cons_self rfl (by decide) (by decide)
    have refused : Record.resolve? (fun _ => none) (Scopes.visible [forRecord "[r".toList
        (.ofJson (.obj [(['a'], .arr [.int 1])])) 0 1] {} ['_']) "[r.a".toList =
          .error .badRecords := by
      decide
    cases refused.symm.trans found

end LineTemplate
