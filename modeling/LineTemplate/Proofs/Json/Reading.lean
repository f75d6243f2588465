import LineTemplate.Json.Reader
import Mathlib

/-!
# What is read as JSON

Not every value can be read from a text: an object has no name twice, an integer fits into 64 bits
with or without a sign, and arrays and objects nest only so deep (`Readable`).

Main statement: `readable_of_ofText?`.
-/

namespace LineTemplate.Json

/-- The values that can be read where arrays and objects nest at most so deep. -/
inductive Readable : Nat → Json → Prop where
  | null {depth : Nat} : Readable depth .null
  | bool {depth : Nat} (b : Bool) : Readable depth (.bool b)
  | int {depth : Nat} {n : Int} (low : Int64.minValue.toInt ≤ n) (high : n < wordLimit) :
    Readable depth (.int n)
  | float {depth : Nat} (x : Float) : Readable depth (.float x)
  | str {depth : Nat} (s : Text) : Readable depth (.str s)
  | arr {depth : Nat} {items : List Json} (each : ∀ item ∈ items, Readable depth item) :
    Readable (depth + 1) (.arr items)
  | obj {depth : Nat} {fields : List (Text × Json)} (distinct : (fields.map Prod.fst).Nodup)
    (each : ∀ field ∈ fields, Readable depth field.2) : Readable (depth + 1) (.obj fields)

variable {depth bound : Nat} {v value : Json} {s rest name : Text} {fields : List (Text × Json)}

theorem Readable.mono (h : Readable depth v) {deeper : Nat} (le : depth ≤ deeper) :
    Readable deeper v := by
  induction h generalizing deeper with
  | null => exact .null
  | bool b => exact .bool b
  | int low high => exact .int low high
  | float x => exact .float x
  | str s => exact .str s
  | arr _ ih =>
    obtain ⟨deeper, rfl⟩ := Nat.exists_eq_add_of_lt le
    exact .arr fun item member => ih item member (by omega)
  | obj distinct _ ih =>
    obtain ⟨deeper, rfl⟩ := Nat.exists_eq_add_of_lt le
    exact .obj distinct fun field member => ih field member (by omega)

theorem Readable.of_mem_arr {items : List Json} {item : Json} (h : Readable depth (.arr items))
    (member : item ∈ items) : Readable depth item := by
  cases h with
  | arr each => exact (each item member).mono (Nat.le_succ _)

theorem Readable.of_mem_obj (h : Readable depth (.obj fields)) (member : (name, value) ∈ fields) :
    Readable depth value := by
  cases h with
  | obj _ each => exact (each _ member).mono (Nat.le_succ _)

theorem Readable.distinct (h : Readable depth (.obj fields)) : (fields.map Prod.fst).Nodup := by
  cases h with
  | obj distinct _ => exact distinct

/-! ## Numbers -/

theorem takeDigits_lt {significand : Nat} (small : significand < wordLimit) (s : Text) :
    (takeDigits significand s).1 < wordLimit := by
  induction s generalizing significand with
  | nil => exact small
  | cons c rest ih =>
    unfold takeDigits
    dsimp only
    split
    · rename_i longer
      exact ih longer
    · exact small

theorem readable_of_map_float {x : Option Float} {sign : Float → Float} {after : Text}
    (h : (x.map fun x => (Json.float (sign x), after)) = some (v, rest)) : Readable depth v := by
  obtain ⟨y, -, same⟩ := Option.map_eq_some_iff.mp h
  cases same
  exact .float _

theorem readable_of_readMagnitude {negative : Bool}
    (h : readMagnitude negative s = some (v, rest)) : Readable depth v := by
  unfold readMagnitude at h
  have small : (takeDigits 0 (s.takeWhile Char.isDigit)).1 < wordLimit :=
    takeDigits_lt (by decide) _
  dsimp only at h
  generalize takeDigits 0 (s.takeWhile Char.isDigit) = taken at h small
  split at h
  · cases h
  split at h
  · -- A number with a fraction.
    split at h
    · cases h
    split at h
    · obtain ⟨_, -, scaled⟩ := Option.bind_eq_some_iff.mp h
      exact readable_of_map_float scaled
    · obtain ⟨_, -, scaled⟩ := Option.bind_eq_some_iff.mp h
      exact readable_of_map_float scaled
    · exact readable_of_map_float h
  · obtain ⟨_, -, scaled⟩ := Option.bind_eq_some_iff.mp h
    exact readable_of_map_float scaled
  · obtain ⟨_, -, scaled⟩ := Option.bind_eq_some_iff.mp h
    exact readable_of_map_float scaled
  · -- A number of digits only.
    split at h
    · exact readable_of_map_float h
    split at h
    · cases h
      have least : Int64.minValue.toInt ≤ 0 := by decide
      exact .int (by omega) (Int.ofNat_lt.mpr small)
    split at h
    · cases h
      exact .float _
    · rename_i signed
      cases h
      rw [Bool.or_eq_true, not_or, Option.isNone_iff_eq_none, Number.int64?] at signed
      split at signed
      · rename_i inside
        have positive : 0 < wordLimit := by decide
        exact .int inside.1 (by omega)
      · exact absurd rfl signed.2

theorem readable_of_readScalar (h : readScalar s = some (v, rest)) : Readable depth v := by
  unfold readScalar at h
  split at h
  · cases h
    exact .null
  · cases h
    exact .bool true
  · cases h
    exact .bool false
  · exact readable_of_readMagnitude h
  · exact readable_of_readMagnitude h

/-! ## Fields of one name -/

theorem setField_subset (name : Text) (value : Json) (fields : List (Text × Json)) :
    setField name value fields ⊆ (name, value) :: fields := by
  induction fields with
  | nil => exact List.Subset.refl _
  | cons field rest ih =>
    obtain ⟨other, old⟩ := field
    rw [setField]
    split
    · exact List.cons_subset_cons _ (List.subset_cons_self ..)
    · refine List.cons_subset.mpr ⟨by simp, fun entry member => ?_⟩
      rcases List.mem_cons.mp (ih member) with rfl | earlier
      · exact List.mem_cons_self
      · exact List.mem_cons_of_mem _ (List.mem_cons_of_mem _ earlier)

theorem setField_of_new (new : name ∉ fields.map Prod.fst) (value : Json) :
    setField name value fields = fields ++ [(name, value)] := by
  induction fields with
  | nil => rfl
  | cons field rest ih =>
    obtain ⟨other, old⟩ := field
    rw [List.map_cons, List.mem_cons, not_or] at new
    rw [setField, if_neg (Ne.symm new.1), ih new.2, List.cons_append]

theorem names_setField_of_old (old : name ∈ fields.map Prod.fst) (value : Json) :
    (setField name value fields).map Prod.fst = fields.map Prod.fst := by
  induction fields with
  | nil => cases old
  | cons field rest ih =>
    obtain ⟨other, before⟩ := field
    rw [setField]
    split
    · rename_i same
      rw [List.map_cons, List.map_cons, same]
    · rename_i differs
      have later : name ∈ rest.map Prod.fst :=
        (List.mem_cons.mp old).resolve_left (Ne.symm differs)
      rw [List.map_cons, List.map_cons, ih later]

theorem nodup_setField (name : Text) (value : Json) (distinct : (fields.map Prod.fst).Nodup) :
    ((setField name value fields).map Prod.fst).Nodup := by
  by_cases old : name ∈ fields.map Prod.fst
  · rw [names_setField_of_old old]
    exact distinct
  · rw [setField_of_new old, List.map_append, List.map_singleton, ← List.concat_eq_append]
    exact distinct.concat old

theorem mergeFields_concat (fields : List (Text × Json)) (last : Text × Json) :
    mergeFields (fields ++ [last]) = setField last.1 last.2 (mergeFields fields) :=
  List.foldl_concat ..

theorem nodup_mergeFields (fields : List (Text × Json)) :
    ((mergeFields fields).map Prod.fst).Nodup := by
  induction fields using List.reverseRecOn with
  | nil => exact List.nodup_nil
  | append_singleton earlier last ih =>
    rw [mergeFields_concat]
    exact nodup_setField last.1 last.2 ih

theorem mergeFields_subset (fields : List (Text × Json)) : mergeFields fields ⊆ fields := by
  induction fields using List.reverseRecOn with
  | nil => exact List.nil_subset _
  | append_singleton earlier last ih =>
    rw [mergeFields_concat]
    refine List.Subset.trans (setField_subset ..) (List.cons_subset.mpr ⟨by simp, ?_⟩)
    exact List.Subset.trans ih (List.subset_append_left ..)

/-- Fields of different names are kept as they are. -/
theorem mergeFields_of_nodup (distinct : (fields.map Prod.fst).Nodup) :
    mergeFields fields = fields := by
  induction fields using List.reverseRecOn with
  | nil => rfl
  | append_singleton earlier last ih =>
    rw [List.map_append, List.map_singleton, List.nodup_append] at distinct
    obtain ⟨before, -, apart⟩ := distinct
    have new : last.1 ∉ earlier.map Prod.fst := fun old =>
      apart last.1 old last.1 List.mem_cons_self rfl
    rw [mergeFields_concat, ih before, setField_of_new new]

/-! ## Arrays and objects -/

/-- What is read with a bound is readable. -/
structure Sound (bound : Nat) : Prop where
  value {depth : Nat} {s rest : Text} {v : Json} :
    readValue bound depth s = some (v, rest) → Readable depth v
  items {depth : Nat} {s rest : Text} {items : List Json} :
    readItems bound depth s = some (items, rest) → ∀ item ∈ items, Readable depth item
  fields {depth : Nat} {s rest : Text} {fields : List (Text × Json)} :
    readFields bound depth s = some (fields, rest) → ∀ field ∈ fields, Readable depth field.2

theorem sound (bound : Nat) : Sound bound := by
  induction bound with
  | zero => exact ⟨nofun, nofun, nofun⟩
  | succ bound ih =>
    constructor
    case value =>
      intro depth s rest v h
      unfold readValue at h
      split at h
      · cases h
      · cases h
      · split at h
        · cases h
          exact .arr nofun
        · obtain ⟨⟨items, _⟩, read, same⟩ := Option.map_eq_some_iff.mp h
          cases same
          exact .arr (ih.items read)
      · split at h
        · cases h
          exact .obj List.nodup_nil nofun
        · obtain ⟨⟨fields, _⟩, read, same⟩ := Option.map_eq_some_iff.mp h
          cases same
          exact .obj (nodup_mergeFields fields) fun field member =>
            ih.fields read field (mergeFields_subset fields member)
      · obtain ⟨⟨s, _⟩, -, same⟩ := Option.map_eq_some_iff.mp h
        cases same
        exact .str s
      · exact readable_of_readScalar h
    case items =>
      intro depth s rest items h
      unfold readItems at h
      split at h
      · cases h
      · rename_i item after first
        have one : Readable depth item := ih.value first
        split at h
        · cases h
          exact List.forall_mem_singleton.mpr one
        · obtain ⟨⟨items, _⟩, read, same⟩ := Option.map_eq_some_iff.mp h
          cases same
          exact List.forall_mem_cons.mpr ⟨one, ih.items read⟩
        · cases h
    case fields =>
      intro depth s rest fields h
      unfold readFields at h
      split at h
      · split at h
        · cases h
        · split at h
          · split at h
            · cases h
            · rename_i value after first
              have one : Readable depth value := ih.value first
              split at h
              · cases h
                exact List.forall_mem_singleton.mpr one
              · obtain ⟨⟨fields, _⟩, read, same⟩ := Option.map_eq_some_iff.mp h
                cases same
                exact List.forall_mem_cons.mpr ⟨one, ih.fields read⟩
              · cases h
          · cases h
      · cases h

/-- What a text is read as can be read. -/
theorem readable_of_ofText? (h : ofText? s = some v) : Readable depthLimit v := by
  unfold ofText? at h
  split at h
  · rename_i read
    split at h
    · cases h
      exact (sound _).value read
    · cases h
  · cases h

end LineTemplate.Json
