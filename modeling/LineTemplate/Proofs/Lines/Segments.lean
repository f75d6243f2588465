import LineTemplate.Line.Substitution

/-!
# Segments

A text falls into segments: characters, escaped marks and references. Which ones these are depends
on the text and the mark alone: at each place an escaped mark comes before a reference, a reference
before a character, and of all names that could be referred to it is the longest one (`StandsAt`).
Substitution puts in what each segment stands for, so no value can bring in a reference or an
escape, and a text without the mark stays what it is.
-/

namespace LineTemplate

open Unicode

namespace Text

variable {piece s : Text}

theorem occursIn_iff : occursIn piece s = true ↔ piece <:+: s := by
  induction s with
  | nil => rw [occursIn, List.isEmpty_iff, List.infix_nil]
  | cons c rest ih =>
    rw [occursIn, Bool.or_eq_true, List.isPrefixOf_iff_prefix, ih, List.infix_cons_iff]

theorem stripPrefix?_eq_none_iff : stripPrefix? piece s = none ↔ ¬ piece <+: s := by
  constructor
  · rintro h ⟨rest, rfl⟩
    have found : stripPrefix? piece (piece ++ rest) = some rest := stripPrefix?_eq_some_iff.mpr rfl
    rw [h] at found
    cases found
  · intro h
    cases found : stripPrefix? piece s with
    | none => rfl
    | some rest => exact absurd ⟨rest, (stripPrefix?_eq_some_iff.mp found).symm⟩ h

/-! ## Dotted names -/

/-- A letter, and then letters, numerals and `_`. -/
def IsNamePart (s : Text) : Prop :=
  ∃ c rest, s = c :: rest ∧ isAlphabetic c = true ∧ ∀ d ∈ rest, isNameChar d = true

/-- Name parts with dots between them. -/
def IsDotted (s : Text) : Prop :=
  ∃ (first : Text) (more : List Text), s = first ++ more.flatMap ('.' :: ·) ∧
    first.IsNamePart ∧ ∀ part ∈ more, part.IsNamePart

theorem isNameChar_of_isAlphabetic {c : Char} (letter : isAlphabetic c = true) :
    isNameChar c = true := by
  rw [isNameChar, isAlphanumeric, letter]
  rfl

theorem dottedTail_of_isNameChar {c : Char} (named : isNameChar c = true) (rest : Text) :
    (dottedTail isAlphabetic (c :: rest)).1 = c :: (dottedTail isAlphabetic rest).1 := by
  rw [dottedTail, named, Bool.true_or, if_pos rfl]

theorem dottedTail_of_dot {d : Char} (letter : isAlphabetic d = true) (rest : Text) :
    (dottedTail isAlphabetic ('.' :: d :: rest)).1 =
      '.' :: d :: (dottedTail isAlphabetic rest).1 := by
  rw [dottedTail, if_pos (by simp [letter]),
    ← dottedTail_of_isNameChar (isNameChar_of_isAlphabetic letter)]

/-- What is read of a name goes on with the part that was begun, and then come further parts. -/
theorem dottedTail_parts (s : Text) : ∃ (begun : Text) (more : List Text),
    (dottedTail isAlphabetic s).1 = begun ++ more.flatMap ('.' :: ·) ∧
      (∀ d ∈ begun, isNameChar d = true) ∧ ∀ part ∈ more, part.IsNamePart := by
  induction h : s.length using Nat.strongRecOn generalizing s with
  | _ n ih =>
    subst h
    cases s with
    | nil => exact ⟨[], [], rfl, nofun, nofun⟩
    | cons c rest =>
      by_cases named : isNameChar c = true
      · obtain ⟨begun, more, read, inName, parts⟩ := ih _ (Nat.lt_succ_self _) rest rfl
        refine ⟨c :: begun, more, ?_, List.forall_mem_cons.mpr ⟨named, inName⟩, parts⟩
        rw [dottedTail_of_isNameChar named, read, List.cons_append]
      by_cases dot : (c = '.' && rest.head?.any isAlphabetic) = true
      · obtain ⟨rfl, d, starts, letter⟩ :
            c = '.' ∧ ∃ d, rest.head? = some d ∧ isAlphabetic d = true := by
          simpa [Option.any_eq_true] using dot
        obtain ⟨rest, rfl⟩ := List.head?_eq_some_iff.mp starts
        have shorter : rest.length < ('.' :: d :: rest).length :=
          Nat.lt_succ_of_lt (Nat.lt_succ_self _)
        obtain ⟨begun, more, read, inName, parts⟩ := ih _ shorter rest rfl
        refine ⟨[], (d :: begun) :: more, ?_, nofun,
          List.forall_mem_cons.mpr ⟨⟨d, begun, rfl, letter, inName⟩, parts⟩⟩
        rw [dottedTail_of_dot letter, read]
        rfl
      · refine ⟨[], [], ?_, nofun, nofun⟩
        rw [dottedTail, if_neg (by simp [named, dot])]
        rfl

theorem dottedTail_of_names {begun : Text} (named : ∀ d ∈ begun, isNameChar d = true)
    (rest : Text) :
    (dottedTail isAlphabetic (begun ++ rest)).1 = begun ++ (dottedTail isAlphabetic rest).1 := by
  induction begun with
  | nil => rfl
  | cons c begun ih =>
    rw [List.forall_mem_cons] at named
    rw [List.cons_append, dottedTail_of_isNameChar named.1, ih named.2, List.cons_append]

theorem dottedTail_of_parts {more : List Text} (parts : ∀ part ∈ more, part.IsNamePart)
    (rest : Text) : (dottedTail isAlphabetic (more.flatMap ('.' :: ·) ++ rest)).1 =
      more.flatMap ('.' :: ·) ++ (dottedTail isAlphabetic rest).1 := by
  induction more with
  | nil => rfl
  | cons part more ih =>
    rw [List.forall_mem_cons] at parts
    obtain ⟨⟨d, begun, rfl, letter, named⟩, parts⟩ := parts
    rw [List.flatMap_cons, List.append_assoc, List.cons_append, List.cons_append,
      dottedTail_of_dot letter, dottedTail_of_names named, ih parts]
    simp

end Text

namespace Segment

variable {mark s : Text} {before : Option Char} {c : Char} {rest name after : Text}

theorem isDotted_of_readName? (h : readName? s = some (name, after)) : name.IsDotted := by
  cases s with
  | nil => cases h
  | cons c rest =>
    rw [readName?] at h
    split at h
    · rename_i letter
      cases h
      obtain ⟨begun, more, read, named, parts⟩ := Text.dottedTail_parts rest
      refine ⟨c :: begun, more, ?_, ⟨c, begun, rfl, letter, named⟩, parts⟩
      rw [read, List.cons_append]
    · cases h

/-- A dotted name at the front of a text is read, or a longer one. -/
theorem readName?_of_isDotted (dotted : name.IsDotted) (rest : Text) :
    ∃ more after, readName? (name ++ rest) = some (name ++ more, after) := by
  obtain ⟨_, more, rfl, ⟨c, begun, rfl, letter, named⟩, parts⟩ := dotted
  have read : (Text.dottedTail isAlphabetic (begun ++ more.flatMap ('.' :: ·) ++ rest)).1 =
      begun ++ more.flatMap ('.' :: ·) ++ (Text.dottedTail isAlphabetic rest).1 := by
    rw [List.append_assoc, Text.dottedTail_of_names named, Text.dottedTail_of_parts parts,
      List.append_assoc]
  refine ⟨(Text.dottedTail isAlphabetic rest).1,
    (Text.dottedTail isAlphabetic (begun ++ more.flatMap ('.' :: ·) ++ rest)).2, ?_⟩
  rw [List.cons_append, List.cons_append, readName?, if_pos letter, List.cons_append, ← read]

/-- A reference starts where no word goes on, and refers to a dotted name. -/
theorem first_eq_reference (h : (first mark before c rest).1 = reference name) :
    before.any Text.isNameChar = false ∧ name.IsDotted ∧ name ≠ [] := by
  unfold first at h
  split at h
  · cases h
  · split at h
    · rename_i read
      cases h
      split at read
      · cases read
      · rename_i open_
        obtain ⟨tail, -, named⟩ := Option.bind_eq_some_iff.mp read
        exact ⟨Bool.eq_false_iff.mpr open_, isDotted_of_readName? named, ne_nil_of_readName? named⟩
    · cases h

theorem first_char (here : ¬ mark <+: c :: rest) (next : ¬ mark <+: rest) (before : Option Char) :
    first mark before c rest = (char c, rest) := by
  have unescaped : (if c = '\\' then Text.stripPrefix? mark rest else none) = none := by
    rw [Text.stripPrefix?_eq_none_iff.mpr next, ite_self]
  have unreferred : (if before.any Text.isNameChar then none
      else readReference? mark (c :: rest)) = none := by
    rw [readReference?, Text.stripPrefix?_eq_none_iff.mpr here, Option.bind_none, ite_self]
  rw [first, unescaped]
  dsimp only
  rw [unreferred]

/-! ## The segments of a text -/

/-- The segments of a text that stands after the character `before`. -/
def listFrom (mark : Text) (before : Option Char) (s : Text) : List Segment :=
  match s with
  | [] => []
  | c :: rest =>
    let segment := (first mark before c rest).1
    segment :: listFrom mark (segment.spelling mark).getLast? (first mark before c rest).2
termination_by s.length
decreasing_by exact length_first_lt ..

/-- The segments of a text. Without a mark nothing is a reference. -/
def listOf (mark s : Text) : List Segment :=
  if mark.isEmpty then s.map char else listFrom mark none s

theorem getLast?_spelling_reference (nonempty : name ≠ []) :
    ((reference name).spelling mark).getLast? = name.getLast? := by
  rw [spelling, List.getLast?_append, Option.or_of_isSome (List.getLast?_isSome.mpr nonempty)]

theorem flatMap_spelling_listFrom (mark : Text) (before : Option Char) (s : Text) :
    (listFrom mark before s).flatMap (spelling mark) = s := by
  induction before, s using listFrom.induct mark with
  | case1 before => rw [listFrom, List.flatMap_nil]
  | case2 before c rest segment ih =>
    rw [listFrom, List.flatMap_cons, ih, spelling_first_append]

theorem flatMap_spelling_map_char (mark s : Text) :
    (s.map char).flatMap (spelling mark) = s := by
  rw [List.flatMap_map]
  exact List.flatMap_singleton' s

/-- The segments make up the text. -/
theorem flatMap_spelling_listOf (mark s : Text) :
    (listOf mark s).flatMap (spelling mark) = s := by
  rw [listOf]
  split
  · exact flatMap_spelling_map_char mark s
  · exact flatMap_spelling_listFrom mark none s

theorem listFrom_of_not_infix (absent : ¬ mark <:+: s) (before : Option Char) :
    listFrom mark before s = s.map char := by
  induction s generalizing before with
  | nil => rw [listFrom, List.map_nil]
  | cons c rest ih =>
    have here : ¬ mark <+: c :: rest := fun h => absent h.isInfix
    have later : ¬ mark <:+: rest := fun h => absent (h.trans (List.suffix_cons c rest).isInfix)
    have next : ¬ mark <+: rest := fun h => later h.isInfix
    rw [listFrom, first_char here next, ih later, List.map_cons]

/-- Each reference names a dotted name, and the character before it belongs to no word. -/
theorem reference_of_listFrom (mark : Text) (before : Option Char) (s : Text)
    {back : List Segment} : ∀ front, listFrom mark before s = front ++ reference name :: back →
      name.IsDotted ∧
        ∀ d ∈ (front.flatMap (spelling mark)).getLast?.or before, Text.isNameChar d = false := by
  fun_induction listFrom mark before s with
  | case1 before =>
    intro front h
    cases front <;> cases h
  | case2 before c rest segment ih =>
    intro front h
    have spelled : segment.spelling mark ≠ [] := spelling_first_ne_nil mark before c rest
    cases front with
    | nil =>
      rw [List.nil_append, List.cons.injEq] at h
      obtain ⟨closed, dotted, -⟩ := first_eq_reference h.1
      refine ⟨dotted, fun d mem => ?_⟩
      cases mem
      exact closed
    | cons head front =>
      rw [List.cons_append, List.cons.injEq] at h
      obtain ⟨rfl, later⟩ := h
      obtain ⟨dotted, last⟩ := ih front later
      refine ⟨dotted, fun d mem => last d ?_⟩
      rwa [List.flatMap_cons, List.getLast?_append, Option.or_assoc,
        Option.or_of_isSome (List.getLast?_isSome.mpr spelled)] at mem

theorem reference_of_listOf {front back : List Segment}
    (h : listOf mark s = front ++ reference name :: back) :
    name.IsDotted ∧
      ∀ d ∈ (front.flatMap (spelling mark)).getLast?, Text.isNameChar d = false := by
  rw [listOf] at h
  split at h
  · have mem : reference name ∈ s.map char := h ▸ List.mem_append_right front List.mem_cons_self
    obtain ⟨c, -, differs⟩ := List.mem_map.mp mem
    cases differs
  · rw [← Option.or_none (o := (front.flatMap (spelling mark)).getLast?)]
    exact reference_of_listFrom mark none s front h

/-! ## What stands at a place -/

/-- A backslash and the mark come next. -/
def Escaped (mark rest : Text) : Prop :=
  mark ≠ [] ∧ '\\' :: mark <+: rest

/-- The mark and a dotted name come next, at a place where no word goes on. -/
structure Refers (mark : Text) (before : Option Char) (rest name : Text) : Prop where
  nonempty : mark ≠ []
  closed : before.any Text.isNameChar = false
  dotted : name.IsDotted
  spelled : mark ++ name <+: rest

/-- The segment at a place of a text, where `before` is the character in front and `rest` is the
text from there on. -/
inductive StandsAt (mark : Text) (before : Option Char) (rest : Text) : Segment → Prop where
  | escapedMark (escaped : Escaped mark rest) : StandsAt mark before rest escapedMark
  | reference {name : Text} (plain : ¬ Escaped mark rest) (refers : Refers mark before rest name)
      (longest : ∀ other, Refers mark before rest other → other.length ≤ name.length) :
    StandsAt mark before rest (reference name)
  | char {c : Char} (plain : ¬ Escaped mark rest) (free : ∀ name, ¬ Refers mark before rest name)
      (next : rest.head? = some c) : StandsAt mark before rest (char c)

/-- The segments make up the text `s`, and each is the one that stands at its place. -/
inductive Segmented (mark : Text) : Option Char → Text → List Segment → Prop where
  | nil (before : Option Char) : Segmented mark before [] []
  | cons {before : Option Char} {s rest : Text} {segment : Segment} {segments : List Segment}
      (stands : segment.StandsAt mark before s) (spelled : s = segment.spelling mark ++ rest)
      (further : Segmented mark (segment.spelling mark).getLast? rest segments) :
    Segmented mark before s (segment :: segments)

theorem StandsAt.unique {x y : Segment} (hx : x.StandsAt mark before s)
    (hy : y.StandsAt mark before s) : x = y := by
  cases hx with
  | escapedMark escaped =>
    cases hy with
    | escapedMark => rfl
    | reference plain | char plain => exact absurd escaped plain
  | reference plain refers longest =>
    cases hy with
    | escapedMark escaped => exact absurd escaped plain
    | reference _ refers' longest' =>
      have sameLength := Nat.le_antisymm (longest' _ refers) (longest _ refers')
      have spelled := List.prefix_of_prefix_length_le refers.spelled refers'.spelled
        (by simp [sameLength])
      rw [List.prefix_append_right_inj] at spelled
      rw [spelled.eq_of_length sameLength]
    | char _ free => exact absurd refers (free _)
  | char plain free next =>
    cases hy with
    | escapedMark escaped => exact absurd escaped plain
    | reference _ refers => exact absurd refers (free _)
    | char _ _ next' =>
      cases next.symm.trans next'
      rfl

theorem StandsAt.spelling_ne_nil {x : Segment} (h : x.StandsAt mark before s) :
    x.spelling mark ≠ [] := by
  cases h with
  | escapedMark | char => exact List.cons_ne_nil _ _
  | reference _ refers => exact List.append_ne_nil_of_left_ne_nil refers.nonempty _

theorem Segmented.unique {xs ys : List Segment} (hx : Segmented mark before s xs)
    (hy : Segmented mark before s ys) : xs = ys := by
  induction hx generalizing ys with
  | nil before =>
    cases hy with
    | nil => rfl
    | cons stands spelled =>
      exact absurd (List.append_eq_nil_iff.mp spelled.symm).1 stands.spelling_ne_nil
  | cons stands spelled _ ih =>
    cases hy with
    | nil => exact absurd (List.append_eq_nil_iff.mp spelled.symm).1 stands.spelling_ne_nil
    | cons stands' spelled' further' =>
      cases stands.unique stands'
      cases List.append_cancel_left (spelled.symm.trans spelled')
      rw [ih further']

theorem refers_of_readReference? {name after : Text} (nonempty : mark ≠ [])
    (closed : before.any Text.isNameChar = false)
    (read : readReference? mark s = some (name, after)) : Refers mark before s name := by
  obtain ⟨tail, starts, named⟩ := Option.bind_eq_some_iff.mp read
  rw [Text.stripPrefix?_eq_some_iff] at starts
  refine ⟨nonempty, closed, isDotted_of_readName? named, after, ?_⟩
  rw [starts, eq_append_of_readName? named, List.append_assoc]

/-- A name that a place refers to is read there, or a longer one. -/
theorem Refers.exists_read {name : Text} (refers : Refers mark before s name) :
    ∃ more after, readReference? mark s = some (name ++ more, after) := by
  obtain ⟨left, rfl⟩ := refers.spelled
  obtain ⟨more, after, named⟩ := readName?_of_isDotted refers.dotted left
  refine ⟨more, after, ?_⟩
  rw [readReference?, List.append_assoc, Text.stripPrefix?_eq_some_iff.mpr rfl,
    Option.bind_some, named]

/-- What is read at a place is what stands there. -/
theorem first_standsAt (nonempty : mark ≠ []) (before : Option Char) (c : Char) (rest : Text) :
    (first mark before c rest).1.StandsAt mark before (c :: rest) := by
  unfold first
  split
  · rename_i after h
    split at h
    · rename_i backslash
      rw [Text.stripPrefix?_eq_some_iff] at h
      exact .escapedMark ⟨nonempty, after, by simp [backslash, h]⟩
    · cases h
  · rename_i h
    have plain : ¬ Escaped mark (c :: rest) := by
      rintro ⟨-, escaped⟩
      rw [List.cons_prefix_cons] at escaped
      rw [if_pos escaped.1.symm, Text.stripPrefix?_eq_none_iff] at h
      exact h escaped.2
    split
    · rename_i name after read
      split at read
      · cases read
      · rename_i closed
        refine .reference plain
          (refers_of_readReference? nonempty (Bool.eq_false_iff.mpr closed) read) ?_
        intro other refers
        obtain ⟨more, after', read'⟩ := refers.exists_read
        cases read.symm.trans read'
        simp
    · rename_i none
      refine .char plain (fun name refers => ?_) rfl
      obtain ⟨more, after, read⟩ := refers.exists_read
      rw [if_neg (Bool.eq_false_iff.mp refers.closed), read] at none
      cases none

theorem segmented_listFrom (nonempty : mark ≠ []) (before : Option Char) (s : Text) :
    Segmented mark before s (listFrom mark before s) := by
  fun_induction listFrom mark before s with
  | case1 before => exact .nil before
  | case2 before c rest segment ih =>
    exact .cons (first_standsAt nonempty before c rest)
      (spelling_first_append mark before c rest).symm ih

theorem segmented_map_char (before : Option Char) (s : Text) :
    Segmented [] before s (s.map char) := by
  induction s generalizing before with
  | nil => exact .nil before
  | cons c rest ih =>
    exact .cons (.char (fun h => h.1 rfl) (fun _ h => h.nonempty rfl) rfl) rfl (ih _)

theorem segmented_iff (mark s : Text) (segments : List Segment) :
    Segmented mark none s segments ↔ segments = listOf mark s := by
  have listed : Segmented mark none s (listOf mark s) := by
    rw [listOf]
    split
    · rename_i empty
      rw [List.isEmpty_iff.mp empty]
      exact segmented_map_char none s
    · rename_i nonempty
      exact segmented_listFrom (fun h => nonempty (List.isEmpty_iff.mpr h)) none s
  constructor
  · exact fun h => h.unique listed
  · rintro rfl
    exact listed

/-! ## What the segments stand for -/

/-- What a segment stands for. A variable without a value stands for nothing, or is a fault. -/
def fill (mark : Text) (strict : Bool) (vars : Lookup) : Segment → Except Fault Text
  | char c => .ok [c]
  | escapedMark => .ok mark
  | reference name =>
    match vars name with
    | some value => .ok value
    | none => if strict then .error (.undefinedVariable name) else .ok []

/-- What some segments stand for; the first fault counts. -/
def fillAll (mark : Text) (strict : Bool) (vars : Lookup) : List Segment → Except Fault Text
  | [] => .ok []
  | segment :: rest => do
    let value ← segment.fill mark strict vars
    let values ← fillAll mark strict vars rest
    pure (value ++ values)

/-- What a segment stands for if a variable without a value stands for nothing. -/
def value (mark : Text) (vars : Lookup) : Segment → Text
  | char c => [c]
  | escapedMark => mark
  | reference name => (vars name).getD []

def reference? : Segment → Option Text
  | reference name => some name
  | _ => none

/-- The first name that the segments refer to and that has no value. -/
def firstMissing? (vars : Lookup) (segments : List Segment) : Option Text :=
  (segments.filterMap reference?).find? fun name => (vars name).isNone

theorem firstMissing?_char (vars : Lookup) (c : Char) (segments : List Segment) :
    firstMissing? vars (char c :: segments) = firstMissing? vars segments := rfl

theorem firstMissing?_escapedMark (vars : Lookup) (segments : List Segment) :
    firstMissing? vars (escapedMark :: segments) = firstMissing? vars segments := rfl

theorem firstMissing?_reference (vars : Lookup) (name : Text) (segments : List Segment) :
    firstMissing? vars (reference name :: segments) =
      if (vars name).isNone then some name else firstMissing? vars segments := by
  simp only [firstMissing?, List.filterMap_cons, reference?, List.find?_cons]
  cases (vars name).isNone <;> rfl

theorem fillAll_lenient (mark : Text) (vars : Lookup) (segments : List Segment) :
    fillAll mark false vars segments = .ok (segments.flatMap (value mark vars)) := by
  induction segments with
  | nil => rfl
  | cons segment segments ih =>
    have filled : segment.fill mark false vars = .ok (segment.value mark vars) := by
      cases segment with
      | char | escapedMark => rfl
      | reference name =>
        rw [fill, value]
        cases vars name <;> rfl
    rw [fillAll, filled, ih, List.flatMap_cons]
    rfl

/-- The first variable without a value is the fault of a strict substitution; if there is none, then
it is the lenient one. -/
theorem fillAll_strict (mark : Text) (vars : Lookup) (segments : List Segment) :
    fillAll mark true vars segments =
      match firstMissing? vars segments with
      | some name => .error (.undefinedVariable name)
      | none => .ok (segments.flatMap (value mark vars)) := by
  induction segments with
  | nil => rfl
  | cons segment segments ih =>
    rw [fillAll, ih, List.flatMap_cons]
    cases segment with
    | char c =>
      rw [firstMissing?_char]
      cases firstMissing? vars segments <;> rfl
    | escapedMark =>
      rw [firstMissing?_escapedMark]
      cases firstMissing? vars segments <;> rfl
    | reference name =>
      rw [firstMissing?_reference, fill, value]
      cases vars name with
      | none => rfl
      | some value => cases firstMissing? vars segments <;> rfl

theorem map_fillAll_cons {strict : Bool} {segment : Segment} {value : Text}
    (filled : segment.fill mark strict vars = .ok value) (segments : List Segment) (out : Text) :
    (fillAll mark strict vars (segment :: segments)).map (out ++ ·) =
      (fillAll mark strict vars segments).map (out ++ value ++ ·) := by
  rw [fillAll, filled]
  cases fillAll mark strict vars segments with
  | error => rfl
  | ok values => exact congrArg Except.ok (List.append_assoc out value values).symm

theorem fillAll_map_char (mark : Text) (strict : Bool) (vars : Lookup) (s : Text) :
    fillAll mark strict vars (s.map char) = .ok s := by
  induction s with
  | nil => rfl
  | cons c rest ih =>
    rw [List.map_cons, fillAll, ih]
    rfl

end Segment

/-! ## One pass -/

section

variable {mark : Text}

/-- The pass over a text fills in its segments, one after the other. -/
theorem substituteFrom_eq (nonempty : mark ≠ []) (strict : Bool) (vars : Lookup)
    (before : Option Char) (out s : Text) :
    substituteFrom mark strict vars before out s =
      (Segment.fillAll mark strict vars (Segment.listFrom mark before s)).map (out ++ ·) := by
  fun_induction substituteFrom mark strict vars before out s with
  | case1 before out =>
    rw [Segment.listFrom]
    exact congrArg Except.ok (List.append_nil out).symm
  | case2 before out c rest after found ih =>
    have last : (Segment.escapedMark.spelling mark).getLast? = mark.getLast? :=
      List.getLast?_cons_of_ne_nil nonempty
    rw [ih, Segment.listFrom, found, Segment.map_fillAll_cons rfl, last]
  | case3 before out c rest after name found value known ih =>
    have filled : (Segment.reference name).fill mark strict vars = .ok value := by
      rw [Segment.fill, known]
    rw [ih, Segment.listFrom, found, Segment.map_fillAll_cons filled,
      Segment.getLast?_spelling_reference (Segment.first_eq_reference found).2.2]
  | case4 before out c rest name found missing isStrict =>
    have filled : (Segment.reference name).fill mark strict vars =
        .error (.undefinedVariable name) := by
      rw [Segment.fill, missing]
      exact if_pos isStrict
    rw [Segment.listFrom, found, Segment.fillAll, filled]
    rfl
  | case5 before out c rest after name found missing lenient ih =>
    have filled : (Segment.reference name).fill mark strict vars = .ok [] := by
      rw [Segment.fill, missing]
      exact if_neg lenient
    rw [ih, Segment.listFrom, found, Segment.map_fillAll_cons filled, List.append_nil,
      Segment.getLast?_spelling_reference (Segment.first_eq_reference found).2.2]
  | case6 before out c rest after d found ih =>
    rw [ih, Segment.listFrom, found, Segment.map_fillAll_cons rfl]
    rfl

/-- The text that is not read at all is the one that the pass would give. -/
theorem substituteFrom_of_not_infix {s : Text} (absent : ¬ mark <:+: s) (strict : Bool)
    (vars : Lookup) : substituteFrom mark strict vars none [] s = .ok s := by
  have nonempty : mark ≠ [] := by
    rintro rfl
    exact absent List.nil_infix
  rw [substituteFrom_eq nonempty, Segment.listFrom_of_not_infix absent, Segment.fillAll_map_char]
  rfl

theorem substitute_eq (mark : Text) (strict : Bool) (vars : Lookup) (s : Text) :
    substitute mark strict vars s = Segment.fillAll mark strict vars (Segment.listOf mark s) := by
  rw [substitute, Segment.listOf]
  by_cases empty : mark.isEmpty = true
  · rw [empty, Bool.true_or, if_pos rfl, if_pos rfl, Segment.fillAll_map_char]
  have nonempty : mark ≠ [] := fun h => empty (List.isEmpty_iff.mpr h)
  have same : substituteFrom mark strict vars none [] s =
      Segment.fillAll mark strict vars (Segment.listFrom mark none s) := by
    rw [substituteFrom_eq nonempty]
    cases Segment.fillAll mark strict vars (Segment.listFrom mark none s) <;> rfl
  rw [if_neg empty, ← same]
  by_cases found : mark <:+: s
  · rw [if_neg (by simp [empty, Text.occursIn_iff.mpr found])]
  · have unread : (mark.isEmpty || !Text.occursIn mark s) = true := by
      simp [Bool.eq_false_iff.mpr fun h => found (Text.occursIn_iff.mp h)]
    rw [if_pos unread, substituteFrom_of_not_infix found]

end

/--
Substitution is one pass that the text and the mark fix: the text falls into the segments that stand
at its places, in one way, and what the variables are decides only what the references among them
become. A reference is to a dotted name and starts where no word goes on. If a variable has no value,
then a lenient substitution puts nothing in its place, and a strict one fails with the first such
variable. To leave a text without the mark unread makes no difference.
-/
theorem substitute_single_pass (mark s : Text) :
    (∀ segments, Segment.Segmented mark none s segments ↔ segments = Segment.listOf mark s) ∧
    (Segment.listOf mark s).flatMap (Segment.spelling mark) = s ∧
    (∀ front name back, Segment.listOf mark s = front ++ .reference name :: back →
      name.IsDotted ∧ ∀ d ∈ (front.flatMap (Segment.spelling mark)).getLast?,
        isAlphabetic d = false ∧ isNumeric d = false ∧ d ≠ '_') ∧
    (∀ vars, substitute mark false vars s =
      .ok ((Segment.listOf mark s).flatMap (Segment.value mark vars))) ∧
    (∀ vars, substitute mark true vars s =
      match Segment.firstMissing? vars (Segment.listOf mark s) with
      | some name => .error (.undefinedVariable name)
      | none => .ok ((Segment.listOf mark s).flatMap (Segment.value mark vars))) ∧
    (¬ mark <:+: s → ∀ strict vars, substituteFrom mark strict vars none [] s = .ok s) := by
  refine ⟨Segment.segmented_iff mark s, Segment.flatMap_spelling_listOf mark s, ?_, ?_, ?_, ?_⟩
  · intro front name back h
    obtain ⟨dotted, closed⟩ := Segment.reference_of_listOf h
    refine ⟨dotted, fun d mem => ?_⟩
    have other : Text.isNameChar d = false := closed d mem
    simpa [Text.isNameChar, isAlphanumeric, and_assoc] using other
  · intro vars
    rw [substitute_eq, Segment.fillAll_lenient]
  · intro vars
    rw [substitute_eq, Segment.fillAll_strict]
  · exact fun absent strict vars => substituteFrom_of_not_infix absent strict vars

end LineTemplate
