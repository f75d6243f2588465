import LineTemplate.Variable.Layer
import Mathlib

/-!
# Variables of a row

A loop gives each field of a row to two variables: one of its own name, and one with the name of the
loop variable in front. The fields are bound in their order, so that the last one that writes a
variable counts, be it for its own name or for that of the other kind (`Writes`). A field that is
the only one to write its variables is found through both (`Apart`).
-/

namespace LineTemplate

namespace Record

/-- The value of the last field whose name is among some. -/
def lastAmong? (record : Record) (among : Text → Bool) : Option Text :=
  (record.fields.reverse.find? fun field => among field.1).map Prod.snd

section

variable {record : Record} {field value : Text} {before after : List (Text × Text)}

theorem lastAmong?_of_last {among : Text → Bool}
    (split : record.fields = before ++ (field, value) :: after) (here : among field = true)
    (last : ∀ other ∈ after.map Prod.fst, ¬ among other = true) :
    record.lastAmong? among = some value := by
  have later : after.reverse.find? (fun field => among field.1) = none :=
    List.find?_eq_none.mpr fun other member =>
      last _ (List.mem_map_of_mem (List.mem_reverse.mp member))
  have found : ((field, value) :: before.reverse).find? (fun field => among field.1) =
      some (field, value) := List.find?_cons_of_pos here
  rw [lastAmong?, split, List.reverse_append, List.reverse_cons, List.append_assoc,
    List.singleton_append, List.find?_append, later, Option.none_or, found, Option.map_some]

theorem get?_of_first (split : record.fields = before ++ (field, value) :: after)
    (first : field ∉ before.map Prod.fst) : record.get? field = some value := by
  have earlier : before.lookup field = none := List.lookup_eq_none_iff.mpr fun other member =>
    bne_iff_ne.mpr fun same => first (List.mem_map.mpr ⟨other, member, same.symm⟩)
  rw [get?, split, List.lookup_append, earlier, Option.none_or, List.lookup_cons_self]

/-- A field that is the only one of its name. -/
theorem exists_single (once : (record.fields.map Prod.fst).count field = 1) :
    ∃ before value after, record.fields = before ++ (field, value) :: after ∧
      field ∉ before.map Prod.fst ∧ field ∉ after.map Prod.fst := by
  have present : field ∈ record.fields.map Prod.fst := List.count_pos_iff.mp (by omega)
  obtain ⟨⟨name, value⟩, member, rfl⟩ := List.mem_map.mp present
  obtain ⟨before, after, split⟩ := List.append_of_mem member
  rw [split, List.map_append, List.map_cons, List.count_append, List.count_cons_self] at once
  exact ⟨before, value, after, split, List.count_eq_zero.mp (by omega),
    List.count_eq_zero.mp (by omega)⟩

end

end Record

namespace Layer

/-- The name of a field with that of the loop variable in front. -/
def qualified (loopVariable field : Text) : Text :=
  loopVariable ++ '.' :: field

/-- A field of this name gives its value to a variable. -/
def Writes (loopVariable variableName field : Text) : Prop :=
  field = variableName ∨ qualified loopVariable field = variableName

instance (loopVariable variableName field : Text) :
    Decidable (Writes loopVariable variableName field) :=
  inferInstanceAs (Decidable (_ ∨ _))

/-- The variables of some fields, in the order in which they are bound. -/
def entries (loopVariable : Text) (fields : List (Text × Text)) : List (Text × Text) :=
  fields.flatMap fun (field, value) => [(qualified loopVariable field, value), (field, value)]

/-- A field that is the only one to write its two variables: no other field has its name, no field
has the name of the first variable, and no field has a first variable of its name. -/
structure Apart (loopVariable : Text) (record : Record) (field : Text) : Prop where
  once : (record.fields.map Prod.fst).count field = 1
  long : qualified loopVariable field ∉ record.fields.map Prod.fst
  bare : ∀ other ∈ record.fields.map Prod.fst, qualified loopVariable other ≠ field

section

variable {loopVariable field variableName : Text} {record : Record} {index count : Nat}

theorem qualified_inj {other : Text} :
    qualified loopVariable field = qualified loopVariable other ↔ field = other := by
  simp [qualified]

/-- Of the fields that write a variable, the last one counts. -/
theorem get?_insertAll_entries (helpers : Layer) (fields : List (Text × Text))
    (variableName : Text) :
    (helpers.insertAll (entries loopVariable fields)).get? variableName =
      ((fields.reverse.find? fun field =>
        Writes loopVariable variableName field.1).map Prod.snd).or
          (helpers.get? variableName) := by
  induction fields using List.reverseRecOn with
  | nil => rfl
  | append_singleton earlier last ih =>
    obtain ⟨field, value⟩ := last
    -- The last field is bound after all others, and its own name after the longer one.
    have bound : helpers.insertAll (entries loopVariable (earlier ++ [(field, value)])) =
        ((helpers.insertAll (entries loopVariable earlier)).insert
          (qualified loopVariable field) value).insert field value := by
      rw [entries, List.flatMap_append, Bindings.insertAll_append]
      rfl
    rw [bound, Bindings.get?_insert, Bindings.get?_insert, ih, List.reverse_append,
      List.reverse_singleton, List.singleton_append, List.find?_cons]
    by_cases bare : field = variableName
    · subst bare
      simp [Writes]
    · by_cases long : qualified loopVariable field = variableName
      · simp [Writes, long]
      · have neither : ¬ Writes loopVariable variableName field := not_or.mpr ⟨bare, long⟩
        rw [if_neg (Ne.symm bare), if_neg (Ne.symm long), decide_eq_false neither]

/-- The fields are bound after the number of the iteration, the count and the value of the row. -/
theorem get?_forRecord
    (written : ∃ field ∈ record.fields, Writes loopVariable variableName field.1) :
    (forRecord loopVariable record index count).get? variableName =
      record.lastAmong? fun field => Writes loopVariable variableName field := by
  unfold forRecord
  refine (get?_insertAll_entries _ record.fields variableName).trans ?_
  obtain ⟨field, member, writes⟩ := written
  have some : (record.fields.reverse.find? fun field =>
      Writes loopVariable variableName field.1).isSome :=
    List.find?_isSome.mpr ⟨field, List.mem_reverse.mpr member, decide_eq_true writes⟩
  obtain ⟨last, found⟩ := Option.isSome_iff_exists.mp some
  rw [Record.lastAmong?, found]
  rfl

/-- The two variables of a field have the value of the last field that writes them: one of its name,
or one whose name is that of the first variable, or one whose first variable has the name of the
field. They have the value of the field itself if there is no other such field. -/
theorem row_variables (loopVariable : Text) (record : Record) (index count : Nat) {field : Text}
    (present : field ∈ record.fields.map Prod.fst) :
    (forRecord loopVariable record index count).get? (qualified loopVariable field) =
      record.lastAmong? (fun name => name = field ∨ name = qualified loopVariable field) ∧
    (forRecord loopVariable record index count).get? field =
      record.lastAmong? (fun name => name = field ∨ qualified loopVariable name = field) ∧
    (Apart loopVariable record field →
      (forRecord loopVariable record index count).get? (qualified loopVariable field) =
          record.get? field ∧
        (forRecord loopVariable record index count).get? field = record.get? field) := by
  obtain ⟨⟨name, value⟩, member, rfl⟩ := List.mem_map.mp present
  have long : (forRecord loopVariable record index count).get? (qualified loopVariable name) =
      record.lastAmong? (fun other => other = name ∨ other = qualified loopVariable name) := by
    rw [get?_forRecord ⟨_, member, .inr rfl⟩]
    simp only [Writes, qualified_inj, Or.comm]
  have bare : (forRecord loopVariable record index count).get? name =
      record.lastAmong? (fun other => other = name ∨ qualified loopVariable other = name) :=
    get?_forRecord ⟨_, member, .inl rfl⟩
  refine ⟨long, bare, fun apart => ?_⟩
  obtain ⟨before, value, after, split, first, last⟩ := Record.exists_single apart.once
  have inside : ∀ other ∈ after.map Prod.fst, other ∈ record.fields.map Prod.fst := by
    intro other later
    rw [split]
    simp [later]
  rw [long, bare, Record.get?_of_first split first]
  constructor
  · refine Record.lastAmong?_of_last split (decide_eq_true (.inl rfl)) fun other later => ?_
    rw [decide_eq_true_eq]
    rintro (rfl | rfl)
    · exact last later
    · exact apart.long (inside _ later)
  · refine Record.lastAmong?_of_last split (decide_eq_true (.inl rfl)) fun other later => ?_
    rw [decide_eq_true_eq]
    rintro (rfl | same)
    · exact last later
    · exact apart.bare other (inside _ later) same

/-- Two fields of one name, a field whose name is that of a variable of another, and a field that is
apart from them. -/
def crowded : Record :=
  { fields := [(['a'], ['1']), (['a'], ['2']), (['n'], ['3']), ("r.n".toList, ['4']),
      (['z'], ['5'])] }

/-- The second field of a name counts, and the field whose name holds the loop variable. -/
theorem row_variables_crowded :
    let layer := forRecord ['r'] crowded 0 1
    (layer.get? "r.a".toList = some ['2'] ∧ layer.get? ['a'] = some ['2']) ∧
      (layer.get? "r.n".toList = some ['4'] ∧ layer.get? ['n'] = some ['3']) ∧
      layer.get? "r.z".toList = crowded.get? ['z'] ∧ layer.get? ['z'] = crowded.get? ['z'] := by
  obtain ⟨long, bare, -⟩ := row_variables ['r'] crowded 0 1
    (by decide : ['a'] ∈ crowded.fields.map Prod.fst)
  obtain ⟨long', bare', -⟩ := row_variables ['r'] crowded 0 1
    (by decide : ['n'] ∈ crowded.fields.map Prod.fst)
  obtain ⟨-, -, both⟩ := row_variables ['r'] crowded 0 1
    (by decide : ['z'] ∈ crowded.fields.map Prod.fst)
  exact ⟨⟨long, bare⟩, ⟨long', bare'⟩, both ⟨by decide, by decide, by decide⟩⟩

/-- The variables of a field are not always what the record has under its name. -/
theorem row_differs_from_record :
    ¬ ∀ (loopVariable : Text) (fields : List (Text × Text)) (index count : Nat) (field : Text),
      let record : Record := { fields }
      field ∈ record.fields.map Prod.fst →
        (forRecord loopVariable record index count).get? (qualified loopVariable field) =
            record.get? field ∧
          (forRecord loopVariable record index count).get? field = record.get? field := by
  intro agree
  have same := agree ['r'] [(['a'], ['1']), (['a'], ['2'])] 0 1 ['a'] (by decide)
  exact absurd same.2 (by decide)

end

end Layer

end LineTemplate
