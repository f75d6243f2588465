import LineTemplate.Block.Macro
import LineTemplate.Proofs.Lines.Outcome
import Mathlib

/-!
# Parameters of a call

A call gives a parameter the last argument of its name, or else the argument at its place, or else
its default. `valueAt` says so for one place in the list of parameters, and `getElem?_values` that
the three passes over the list come to just that.

Named arguments belong to the first parameter of their name. A later parameter of the same name can
have a value as well, and then that one is the value of the variable (`Overrides`).
-/

namespace LineTemplate

namespace Parameter

/-- What an item of a parameter list declares: a name, or a name and its default. -/
def Declares : Item → Parameter → Prop
  | .positional name, p => p = { name }
  | .named name value, p => p = { name, default? := some value }

theorem declares_of_ofItem {item : Item} {p : Parameter} (h : ofItem item = .ok p) :
    Declares item p := by
  cases item with
  | positional name =>
    rw [ofItem] at h
    split at h
    · exact (Except.ok.inj h).symm
    · cases h
  | named name value => exact (Except.ok.inj h).symm

theorem declares_of_ofItems {items : List Item} {parameters : List Parameter}
    (h : ofItems items = .ok parameters) : List.Forall₂ Declares items parameters := by
  induction items generalizing parameters with
  | nil =>
    cases h
    exact .nil
  | cons item rest ih =>
    obtain ⟨p, first, h⟩ := Outcome.bind_eq_ok.mp h
    obtain ⟨others, further, h⟩ := Outcome.bind_eq_ok.mp h
    cases h
    exact .cons (declares_of_ofItem first) (ih further)

/-- A parameter list declares one parameter with each of its items, in their order. -/
theorem declares_of_listOfText {s : Text} {parameters : List Parameter}
    (h : listOfText s = .ok parameters) :
    ∃ items, Arguments.items s = .ok items ∧ List.Forall₂ Declares items parameters := by
  obtain ⟨items, read, declared⟩ := Outcome.bind_eq_ok.mp h
  exact ⟨items, read, declares_of_ofItems declared⟩

end Parameter

namespace MacroDefinition

/-- The parameter at a place is the first one of a name. Arguments of the name are given to it. -/
def IsFirst (m : MacroDefinition) (name : Text) (i : Nat) : Prop :=
  m.parameters.findIdx? (·.name = name) = some i

instance (m : MacroDefinition) (name : Text) (i : Nat) : Decidable (m.IsFirst name i) :=
  inferInstanceAs (Decidable (_ = _))

/-- The value of the parameter at a place: the last argument of its name, or else the argument at
its place, or else its default. -/
def valueAt (m : MacroDefinition) (args : Arguments) (i : Nat) (p : Parameter) : Option Text :=
  ((if m.IsFirst p.name i then args.named? p.name else none).or args.positional[i]?).or p.default?

/-- The arguments of a call that belong to a parameter. -/
def taken (m : MacroDefinition) (args : Arguments) : Arguments where
  positional := args.positional.take m.parameters.length
  named := args.named.filter fun entry => decide (entry.1 ∈ m.parameters.map Parameter.name)

/-- A parameter that repeats the name of an earlier one and has a value that is not a named one. -/
def Overrides (m : MacroDefinition) (args : Arguments) (name : Text) (i : Nat) (v : Text) : Prop :=
  ¬ m.IsFirst name i ∧ ∃ p, m.parameters[i]? = some p ∧ p.name = name ∧
    args.positional[i]?.or p.default? = some v

section

variable {m : MacroDefinition} {args : Arguments} {p : Parameter} {i j : Nat} {name v : Text}

/-! ## The first parameter of a name -/

theorem IsFirst.name_eq (first : m.IsFirst name i) (here : m.parameters[i]? = some p) :
    p.name = name := by
  obtain ⟨within, named, -⟩ := List.findIdx?_eq_some_iff_getElem.mp first
  obtain ⟨-, rfl⟩ := List.getElem?_eq_some_iff.mp here
  exact of_decide_eq_true named

theorem IsFirst.le (first : m.IsFirst p.name j) (here : m.parameters[i]? = some p) : j ≤ i := by
  obtain ⟨_, -, others⟩ := List.findIdx?_eq_some_iff_getElem.mp first
  obtain ⟨within, rfl⟩ := List.getElem?_eq_some_iff.mp here
  exact Nat.le_of_not_lt fun earlier => others i earlier (decide_eq_true rfl)

theorem IsFirst.unique (h : m.IsFirst name i) (h' : m.IsFirst name j) : i = j :=
  Option.some.inj (h.symm.trans h')

theorem exists_isFirst (declared : name ∈ m.parameters.map Parameter.name) :
    ∃ i p, m.IsFirst name i ∧ m.parameters[i]? = some p ∧ p.name = name := by
  obtain ⟨q, member, named⟩ := List.mem_map.mp declared
  cases found : m.parameters.findIdx? (·.name = name) with
  | none => simpa [named] using List.findIdx?_eq_none_iff.mp found q member
  | some i =>
    obtain ⟨within, -⟩ := List.findIdx?_eq_some_iff_getElem.mp found
    have here := List.getElem?_eq_getElem within
    exact ⟨i, _, found, here, IsFirst.name_eq found here⟩

theorem isFirst_of_nodup (distinct : (m.parameters.map Parameter.name).Nodup)
    (here : m.parameters[i]? = some p) : m.IsFirst p.name i := by
  have declared : p.name ∈ m.parameters.map Parameter.name :=
    List.mem_map_of_mem (List.mem_of_getElem? here)
  obtain ⟨j, q, first, there, named⟩ := exists_isFirst declared
  have same : (m.parameters.map Parameter.name)[i]? = (m.parameters.map Parameter.name)[j]? := by
    rw [List.getElem?_map, List.getElem?_map, here, there, Option.map_some, Option.map_some, named]
  have within : i < (m.parameters.map Parameter.name).length := by
    rw [List.length_map]
    exact (List.getElem?_eq_some_iff.mp here).1
  exact (List.getElem?_inj within distinct).mp same ▸ first

/-! ## The values of the parameters -/

theorem getElem?_positionalValues (n : Nat) (values : List Text) (i : Nat) :
    (positionalValues n values)[i]? = if i < n then some values[i]? else none := by
  fun_induction positionalValues n values generalizing i with
  | case1 => simp
  | case2 n ih => cases i <;> simp [ih]
  | case3 n value rest ih => cases i <;> simp [ih]

theorem getElem?_setNamed (here : m.parameters[i]? = some p) (values : List (Option Text))
    (name value : Text) : (setNamed m.parameters values name value)[i]? =
      if p.name = name ∧ m.IsFirst name i then values[i]?.map fun _ => some value
      else values[i]? := by
  unfold setNamed
  cases found : m.parameters.findIdx? (·.name = name) with
  | none =>
    have other : ¬ m.IsFirst name i := fun first => by cases found.symm.trans first
    rw [if_neg fun both => other both.2]
  | some j =>
    have first : m.IsFirst name j := found
    dsimp only
    by_cases same : j = i
    · subst same
      have owner : p.name = name ∧ m.IsFirst name j := ⟨first.name_eq here, first⟩
      rw [if_pos owner, List.getElem?_set_self']
      rfl
    · rw [List.getElem?_set_ne same, if_neg fun both => same (first.unique both.2)]

/-- Of the named arguments, the last one of a name is what its first parameter gets. -/
theorem getElem?_foldl_setNamed (here : m.parameters[i]? = some p) (named : List (Text × Text))
    (values : List (Option Text)) :
    (named.foldl (fun values (name, value) => setNamed m.parameters values name value)
      values)[i]? = values[i]?.map fun value =>
        (if m.IsFirst p.name i then named.reverse.lookup p.name else none).or value := by
  -- The arguments are set from left to right, so the last one is added to those before it.
  induction named using List.reverseRecOn with
  | nil => simp
  | append_singleton earlier last ih =>
    obtain ⟨name, value⟩ := last
    rw [List.foldl_append, List.foldl_cons, List.foldl_nil, getElem?_setNamed here, ih,
      List.reverse_append]
    by_cases same : p.name = name
    · subst same
      by_cases first : m.IsFirst p.name i
      · simp [first, Function.comp_def]
      · simp [first]
    · have other : (p.name == name) = false := beq_false_of_ne same
      simp [same, other, List.lookup_cons]

theorem getElem?_values (m : MacroDefinition) (args : Arguments) (i : Nat) :
    (m.values args)[i]? = m.parameters[i]?.map (m.valueAt args i) := by
  unfold values
  rw [List.getElem?_zipWith]
  cases here : m.parameters[i]? with
  | none => rfl
  | some p =>
    have within : i < m.parameters.length := (List.getElem?_eq_some_iff.mp here).1
    rw [getElem?_foldl_setNamed here, getElem?_positionalValues, if_pos within]
    rfl

theorem valueAt_of_repeated (repeated : ¬ m.IsFirst p.name i) :
    m.valueAt args i p = args.positional[i]?.or p.default? := by
  rw [valueAt, if_neg repeated, Option.none_or]

/-! ## The layer of a call -/

/-- The parameters with their values. -/
def slots (m : MacroDefinition) (args : Arguments) : List (Parameter × Option Text) :=
  m.parameters.zip (m.values args)

/-- The variable of a parameter that has a value. -/
def entry? : Parameter × Option Text → Option (Text × Text) :=
  fun (p, value) => value.map (p.name, ·)

theorem bind_eq (m : MacroDefinition) (args : Arguments) :
    m.bind args = Bindings.empty.insertAll ((m.slots args).filterMap entry?) :=
  rfl

theorem getElem?_slots (m : MacroDefinition) (args : Arguments) (i : Nat) :
    (m.slots args)[i]? = m.parameters[i]?.map fun p => (p, m.valueAt args i p) := by
  rw [slots, List.zip_eq_zipWith, List.getElem?_zipWith, getElem?_values]
  cases m.parameters[i]? <;> rfl

/-- The variables of the parameters from a place on. -/
theorem exists_of_mem_entries {entry : Text × Text} {k : Nat}
    (member : entry ∈ ((m.slots args).drop k).filterMap entry?) : ∃ j p,
      k ≤ j ∧ m.parameters[j]? = some p ∧ p.name = entry.1 ∧
        m.valueAt args j p = some entry.2 := by
  obtain ⟨slot, inside, bound⟩ := List.mem_filterMap.mp member
  obtain ⟨offset, here⟩ := List.mem_iff_getElem?.mp inside
  rw [List.getElem?_drop, getElem?_slots] at here
  obtain ⟨p, declared, rfl⟩ := Option.map_eq_some_iff.mp here
  obtain ⟨value, known, rfl⟩ := Option.map_eq_some_iff.mp bound
  exact ⟨k + offset, p, Nat.le_add_right k offset, declared, rfl, known⟩

/-- The last parameter of a name that has a value gives it to the variable. -/
theorem get?_bind_of_last (here : m.parameters[i]? = some p) (value : m.valueAt args i p = some v)
    (last : ∀ j q, i < j → m.parameters[j]? = some q → q.name = p.name →
      m.valueAt args j q = none) : (m.bind args).get? p.name = some v := by
  have slot : (m.slots args)[i]? = some (p, some v) := by
    rw [getElem?_slots, here, Option.map_some, value]
  obtain ⟨within, there⟩ := List.getElem?_eq_some_iff.mp slot
  have bound : entry? (p, some v) = some (p.name, v) := rfl
  have others : (((m.slots args).drop (i + 1)).filterMap entry?).reverse.lookup p.name = none := by
    refine List.lookup_eq_none_iff.mpr fun entry member => bne_iff_ne.mpr fun same => ?_
    obtain ⟨j, q, after, declared, named, known⟩ :=
      exists_of_mem_entries (List.mem_reverse.mp member)
    rw [last j q after declared (named.trans same.symm)] at known
    cases known
  -- Behind the place nothing binds the name, and what is bound in front of it is overwritten.
  rw [bind_eq, ← List.take_append_drop i (m.slots args), List.drop_eq_getElem_cons within, there,
    List.filterMap_append, List.filterMap_cons_some bound, Bindings.get?_insertAll,
    List.reverse_append, List.reverse_cons, List.lookup_append, List.lookup_append, others]
  simp

theorem get?_bind_eq_none (unbound : ∀ j q, m.parameters[j]? = some q → q.name = name →
    m.valueAt args j q = none) : (m.bind args).get? name = none := by
  rw [bind_eq, Bindings.get?_insertAll, Bindings.get?_empty, Option.or_none]
  refine List.lookup_eq_none_iff.mpr fun entry member => bne_iff_ne.mpr fun same => ?_
  have all : entry ∈ ((m.slots args).drop 0).filterMap entry? := List.mem_reverse.mp member
  obtain ⟨j, q, -, declared, named, known⟩ := exists_of_mem_entries all
  rw [unbound j q declared (named.trans same.symm)] at known
  cases known

/-! ## Arguments of no parameter -/

theorem named?_taken (declared : name ∈ m.parameters.map Parameter.name) :
    (m.taken args).named? name = args.named? name := by
  unfold taken Arguments.named?
  rw [← List.filter_reverse]
  exact Bindings.lookup_filter (fun name => decide (name ∈ m.parameters.map Parameter.name))
    args.named.reverse (decide_eq_true declared)

theorem valueAt_taken (here : m.parameters[i]? = some p) :
    m.valueAt (m.taken args) i p = m.valueAt args i p := by
  have within : i < m.parameters.length := (List.getElem?_eq_some_iff.mp here).1
  have declared : p.name ∈ m.parameters.map Parameter.name :=
    List.mem_map_of_mem (List.mem_of_getElem? here)
  have positional : (m.taken args).positional[i]? = args.positional[i]? :=
    List.getElem?_take_of_lt within
  rw [valueAt, valueAt, named?_taken declared, positional]

theorem bind_taken (m : MacroDefinition) (args : Arguments) :
    m.bind (m.taken args) = m.bind args := by
  have same : m.values (m.taken args) = m.values args := by
    refine List.ext_getElem? fun i => ?_
    rw [getElem?_values, getElem?_values]
    exact Option.map_congr fun p here => valueAt_taken here
  rw [bind, bind, same]

/-! ## Names that are not repeated -/

/-- Parameters with names of their own get the last argument of their name, or else the argument at
their place, or else their default. No other variable is bound, and arguments that belong to no
parameter change nothing. A parameter has the place of its item in the parameter list, whether or
not it has a default. -/
theorem parameters_bound (distinct : (m.parameters.map Parameter.name).Nodup) (args : Arguments) :
    (∀ (i : Nat) (p : Parameter), m.parameters[i]? = some p → (m.bind args).get? p.name =
      ((args.named? p.name).or args.positional[i]?).or p.default?) ∧
    (∀ name, name ∉ m.parameters.map Parameter.name → (m.bind args).get? name = none) ∧
    m.bind (m.taken args) = m.bind args ∧
    ∀ s, Parameter.listOfText s = .ok m.parameters →
      ∃ items, Arguments.items s = .ok items ∧
        List.Forall₂ Parameter.Declares items m.parameters := by
  refine ⟨fun i p here => ?_, fun name undeclared => ?_, bind_taken m args,
    fun s => Parameter.declares_of_listOfText⟩
  · have single : ∀ j q, m.parameters[j]? = some q → q.name = p.name → j = i :=
      fun j q there same =>
        (isFirst_of_nodup distinct there).unique (same ▸ isFirst_of_nodup distinct here)
    have given : m.valueAt args i p =
        ((args.named? p.name).or args.positional[i]?).or p.default? := by
      rw [valueAt, if_pos (isFirst_of_nodup distinct here)]
    rw [← given]
    cases value : m.valueAt args i p with
    | some v =>
      refine get?_bind_of_last here value fun j q after there same => ?_
      exact absurd (single j q there same) (Nat.ne_of_gt after)
    | none =>
      refine get?_bind_eq_none fun j q there same => ?_
      obtain rfl := single j q there same
      cases here.symm.trans there
      exact value
  · refine get?_bind_eq_none fun j q there same => ?_
    exact absurd (List.mem_map.mpr ⟨q, List.mem_of_getElem? there, same⟩) undeclared

/-- A parameter with a default between two without one. -/
def mixed : MacroDefinition where
  name := ['m']
  parameters := [{ name := ['a'] }, { name := ['b'], default? := some ['x'] }, { name := ['c'] }]
  body := []
  definedAt := ⟨['t'], 1⟩

/-- The last argument of a name counts, and more than that at the place. A default keeps no other
parameter from its place. -/
theorem parameters_bound_mixed :
    let layer := mixed.bind ⟨[['1'], ['2']], [(['a'], ['8']), (['z'], ['0']), (['a'], ['9'])]⟩
    layer.get? ['a'] = some ['9'] ∧ layer.get? ['b'] = some ['2'] ∧ layer.get? ['c'] = none ∧
      layer.get? ['z'] = none ∧ ∃ items, Arguments.items "a b=\"x\" c".toList = .ok items ∧
        List.Forall₂ Parameter.Declares items mixed.parameters := by
  obtain ⟨values, others, -, items⟩ := parameters_bound (m := mixed) (by decide)
    ⟨[['1'], ['2']], [(['a'], ['8']), (['z'], ['0']), (['a'], ['9'])]⟩
  exact ⟨values 0 _ rfl, values 1 _ rfl, values 2 _ rfl, others ['z'] (by decide),
    items "a b=\"x\" c".toList (by decide +kernel)⟩

/-! ## Names that are repeated -/

/-- A named argument is the value of the variable of its name, unless parameters that repeat the
name have values. Then the last of these values is that of the variable. -/
theorem named_wins_unless_repeated (declared : name ∈ m.parameters.map Parameter.name)
    (given : args.named? name = some v) :
    ((∀ i w, ¬ m.Overrides args name i w) → (m.bind args).get? name = some v) ∧
    ∀ i w, m.Overrides args name i w → (∀ j u, i < j → ¬ m.Overrides args name j u) →
      (m.bind args).get? name = some w := by
  constructor
  · intro none
    obtain ⟨k, p, first, here, rfl⟩ := exists_isFirst declared
    have value : m.valueAt args k p = some v := by
      rw [valueAt, if_pos first, given, Option.some_or, Option.some_or]
    refine get?_bind_of_last here value fun j q after there same => ?_
    have repeated : ¬ m.IsFirst p.name j := fun again => Nat.ne_of_lt after (first.unique again)
    rw [valueAt_of_repeated (same ▸ repeated)]
    exact Option.eq_none_iff_forall_ne_some.mpr fun w known =>
      none j w ⟨repeated, q, there, same, known⟩
  · rintro i w ⟨repeated, p, here, rfl, known⟩ last
    have value : m.valueAt args i p = some w := (valueAt_of_repeated repeated).trans known
    refine get?_bind_of_last here value fun j q after there same => ?_
    have later : ¬ m.IsFirst p.name j := fun first => Nat.not_lt_of_le (first.le here) after
    rw [valueAt_of_repeated (same ▸ later)]
    exact Option.eq_none_iff_forall_ne_some.mpr fun u known =>
      last j u after ⟨later, q, there, same, known⟩

/-- Two parameters of one name. -/
def repeating : MacroDefinition where
  name := ['m']
  parameters := [{ name := ['a'] }, { name := ['a'] }]
  body := []
  definedAt := ⟨['t'], 1⟩

/-- The named argument is given to the first parameter, and the second has a value of its own. -/
theorem named_wins_unless_repeated_twice :
    (repeating.bind ⟨[['1'], ['2']], [(['a'], ['9'])]⟩).get? ['a'] = some ['2'] := by
  refine (named_wins_unless_repeated (by decide) rfl).2 1 ['2']
    ⟨by decide, _, rfl, rfl, rfl⟩ fun j u after => ?_
  rintro ⟨-, p, there, -⟩
  obtain ⟨within, -⟩ := List.getElem?_eq_some_iff.mp there
  exact absurd within (Nat.not_lt_of_le after)

/-- A named argument is not always the value of the variable of its name. -/
theorem named_does_not_win :
    ¬ ∀ (s : Text) (m : MacroDefinition) (args : Arguments) (name v : Text),
      Parameter.listOfText s = .ok m.parameters → name ∈ m.parameters.map Parameter.name →
        args.named? name = some v → (m.bind args).get? name = some v := by
  intro wins
  have value := wins "a a".toList repeating ⟨[['1'], ['2']], [(['a'], ['9'])]⟩ ['a'] ['9']
    (by decide +kernel) (by decide) rfl
  exact absurd value (by decide)

end

end MacroDefinition

end LineTemplate
