import LineTemplate.Text.Basic

/-!
# Bindings

A finite map from names. A name has one entry at most, and binding it again replaces the entry.
-/

namespace LineTemplate

/-- The value of each variable that has one. -/
abbrev Lookup := Text → Option Text

structure Bindings (α : Type) where
  entries : List (Text × α) := []

namespace Bindings

variable {α : Type}

def empty : Bindings α := {}

def get? (b : Bindings α) (name : Text) : Option α :=
  b.entries.lookup name

def contains (b : Bindings α) (name : Text) : Bool :=
  (b.get? name).isSome

/-- Gives a name a value in place of the one that it has. -/
def insert (b : Bindings α) (name : Text) (value : α) : Bindings α :=
  ⟨(name, value) :: b.entries.filter (·.1 != name)⟩

def size (b : Bindings α) : Nat :=
  b.entries.length

/-- Gives several names values, from left to right. -/
def insertAll (b : Bindings α) (entries : List (Text × α)) : Bindings α :=
  entries.foldl (fun b (name, value) => b.insert name value) b

/-- The entries in the order of their names. -/
def sorted (b : Bindings α) : List (Text × α) :=
  b.entries.mergeSort fun a c => Text.order a.1 c.1 != .gt

@[simp] theorem get?_empty (name : Text) : (empty : Bindings α).get? name = none := rfl

/-- A name that is kept has the same entry when others are left out. -/
theorem lookup_filter (keep : Text → Bool) (entries : List (Text × α)) {name : Text}
    (kept : keep name = true) :
    (entries.filter fun entry => keep entry.1).lookup name = entries.lookup name := by
  induction entries with
  | nil => rfl
  | cons entry rest ih =>
    rw [List.filter_cons, List.lookup_cons]
    split
    · rw [List.lookup_cons, ih]
    · rename_i dropped
      have differs : name ≠ entry.1 := fun same => dropped (same ▸ kept)
      rw [ih, beq_false_of_ne differs]

/-- The last binding of a name counts, and no other name is affected. -/
theorem get?_insert (b : Bindings α) (name : Text) (value : α) (other : Text) :
    (b.insert name value).get? other = if other = name then some value else b.get? other := by
  by_cases h : other = name
  · simp [get?, insert, h]
  · simp only [get?, insert, List.lookup_cons, beq_false_of_ne h, h, ite_false]
    exact lookup_filter (· != name) b.entries (bne_iff_ne.mpr h)

theorem insertAll_append (b : Bindings α) (first second : List (Text × α)) :
    b.insertAll (first ++ second) = (b.insertAll first).insertAll second :=
  List.foldl_append

/-- Of several bindings of a name the last one counts. -/
theorem get?_insertAll (b : Bindings α) (entries : List (Text × α)) (name : Text) :
    (b.insertAll entries).get? name = (entries.reverse.lookup name).or (b.get? name) := by
  induction entries generalizing b with
  | nil => rfl
  | cons entry rest ih =>
    have first : b.insertAll (entry :: rest) = (b.insert entry.1 entry.2).insertAll rest := rfl
    rw [first, ih, get?_insert, List.reverse_cons, List.lookup_append, Option.or_assoc,
      List.lookup_cons, List.lookup_nil]
    split
    · rename_i same
      rw [same, beq_self_eq_true]
      rfl
    · rename_i other
      rw [beq_false_of_ne other]
      rfl

end Bindings

end LineTemplate
