import LineTemplate.Source.Reading
import Mathlib

/-!
# Line terminators

The lines that a text has, said by its terminators and not by reading it from left to right. Every
text has just one list of lines, and it is the one that `lines` finds (`hasLines_iff`).
-/

namespace LineTemplate

/-- A list is cut behind each mark, so that the mark is only at the end of a piece. -/
theorem marked_induction {α : Type} (mark : α) {P : List α → Prop} (nil : P [])
    (unended : ∀ s, s ≠ [] → mark ∉ s → P s) (ended : ∀ s t, mark ∉ s → P t → P (s ++ mark :: t))
    (s : List α) : P s := by
  induction h : s.length using Nat.strongRecOn generalizing s with
  | _ n ih =>
    subst h
    by_cases marked : mark ∈ s
    · obtain ⟨before, after, rfl, unmarked⟩ := List.eq_append_cons_of_mem marked
      have shorter : after.length < (before ++ mark :: after).length := by
        rw [List.length_append, List.length_cons]
        omega
      exact ended before after unmarked (ih after.length shorter after rfl)
    · by_cases empty : s = []
      · exact empty ▸ nil
      · exact unended s empty marked

namespace Text

variable {s t : Text} {c : Char}

/-- The lines that a text has. A line ends with a line feed, or with a carriage return and a line
feed. At the end of the text the terminator may be missing, but then the line is not empty. -/
inductive HasLines : Text → List Text → Prop where
  | nil : HasLines [] []
  | unended {s : Text} (nonempty : s ≠ []) (feedless : '\n' ∉ s) : HasLines s [s]
  | feed {s t : Text} {lines : List Text} (feedless : '\n' ∉ s) (kept : s.getLast? ≠ some '\r')
      (rest : HasLines t lines) : HasLines (s ++ '\n' :: t) (s :: lines)
  | carriage {s t : Text} {lines : List Text} (feedless : '\n' ∉ s) (rest : HasLines t lines) :
      HasLines (s ++ '\r' :: '\n' :: t) (s :: lines)

theorem HasLines.feedless {list : List Text} (h : HasLines s list) :
    ∀ line ∈ list, '\n' ∉ line := by
  induction h with
  | nil => exact fun _ => nofun
  | unended _ feedless => exact List.forall_mem_singleton.mpr feedless
  | feed feedless _ _ ih => exact List.forall_mem_cons.mpr ⟨feedless, ih⟩
  | carriage feedless _ ih => exact List.forall_mem_cons.mpr ⟨feedless, ih⟩

/-! ## Splitting characters -/

theorem foldr_consHead_cons (p s : Text) (more : List Text) :
    p.foldr consHead (s :: more) = (p ++ s) :: more := by
  induction p with
  | nil => rfl
  | cons c p ih => rw [List.foldr_cons, ih, consHead, List.cons_append]

theorem foldr_consHead_nil {p : Text} (nonempty : p ≠ []) : p.foldr consHead [] = [p] := by
  induction p with
  | nil => exact absurd rfl nonempty
  | cons c p ih =>
    by_cases last : p = []
    · rw [last, List.foldr_cons, List.foldr_nil, consHead]
    · rw [List.foldr_cons, ih last, consHead]

/-- What a line feed does not end goes on with the next character. -/
theorem lines_cons (feed : c ≠ '\n') (terminator : c = '\r' → s.head? ≠ some '\n') :
    lines (c :: s) = consHead c (lines s) := by
  rw [lines]
  · rintro rest rfl rfl
    exact terminator rfl rfl
  · exact feed

theorem lines_feed (s : Text) : lines ('\n' :: s) = [] :: lines s := by
  rw [lines]

/-- Without a line feed the first line goes on, unless a terminator is cut in two. -/
theorem lines_append_feedless (feedless : '\n' ∉ s)
    (uncut : s.getLast? = some '\r' → t.head? ≠ some '\n') :
    lines (s ++ t) = s.foldr consHead (lines t) := by
  induction s with
  | nil => rfl
  | cons c s ih =>
    obtain ⟨here, later⟩ := not_or.mp (mt List.mem_cons.mpr feedless)
    have terminator : c = '\r' → (s ++ t).head? ≠ some '\n' := by
      rintro rfl
      cases s with
      | nil => exact uncut rfl
      | cons d s => exact fun next => later (Option.some.inj next ▸ List.mem_cons_self)
    have uncut' : s.getLast? = some '\r' → t.head? ≠ some '\n' := by
      intro last
      cases s with
      | nil => cases last
      | cons d s => exact uncut (List.getLast?_cons_cons.trans last)
    rw [List.cons_append, lines_cons (Ne.symm here) terminator, ih later uncut', List.foldr_cons]

theorem lines_feedless (nonempty : s ≠ []) (feedless : '\n' ∉ s) : lines s = [s] := by
  have whole := lines_append_feedless (t := []) feedless fun _ => nofun
  rwa [List.append_nil, lines, foldr_consHead_nil nonempty] at whole

theorem lines_append_feed (feedless : '\n' ∉ s) (kept : s.getLast? ≠ some '\r') (rest : Text) :
    lines (s ++ '\n' :: rest) = s :: lines rest := by
  rw [lines_append_feedless feedless fun last => absurd last kept, lines_feed, foldr_consHead_cons,
    List.append_nil]

theorem lines_append_carriage (feedless : '\n' ∉ s) (rest : Text) :
    lines (s ++ '\r' :: '\n' :: rest) = s :: lines rest := by
  have ended : lines ('\r' :: '\n' :: rest) = [] :: lines rest := by rw [lines]
  have uncut : ('\r' :: '\n' :: rest).head? ≠ some '\n' := nofun
  rw [lines_append_feedless feedless fun _ => uncut, ended, foldr_consHead_cons, List.append_nil]

/-- A line without a line feed ends with a carriage return or not. -/
theorem eq_append_carriage_or (s : Text) :
    (∃ before, s = before ++ ['\r']) ∨ s.getLast? ≠ some '\r' := by
  by_cases last : s.getLast? = some '\r'
  · exact .inl (List.getLast?_eq_some_iff.mp last)
  · exact .inr last

/-- Splitting finds the lines that a text has, and a text has no others. -/
theorem hasLines_iff {list : List Text} : HasLines s list ↔ lines s = list := by
  constructor
  · intro h
    induction h with
    | nil => rfl
    | unended nonempty feedless => exact lines_feedless nonempty feedless
    | feed feedless kept _ ih => rw [lines_append_feed feedless kept, ih]
    | carriage feedless _ ih => rw [lines_append_carriage feedless, ih]
  · rintro rfl
    induction s using marked_induction '\n' with
    | nil => exact .nil
    | unended s nonempty feedless =>
      rw [lines_feedless nonempty feedless]
      exact .unended nonempty feedless
    | ended s t feedless ih =>
      rcases eq_append_carriage_or s with ⟨before, rfl⟩ | kept
      · have feedless' : '\n' ∉ before := fun mem => feedless (List.mem_append_left _ mem)
        rw [List.append_assoc, List.singleton_append, lines_append_carriage feedless']
        exact .carriage feedless' ih
      · rw [lines_append_feed feedless kept]
        exact .feed feedless kept ih

theorem hasLines_lines (s : Text) : s.HasLines s.lines :=
  hasLines_iff.mpr rfl

/-! ## Removing a terminator -/

theorem chomp_feedless (feedless : '\n' ∉ s) : chomp s = s := by
  unfold chomp
  split
  · rename_i before whole
    exact absurd (List.mem_reverse.mp (whole ▸ List.mem_cons_self)) feedless
  · rename_i before _ whole
    exact absurd (List.mem_reverse.mp (whole ▸ List.mem_cons_self)) feedless
  · rfl

theorem chomp_feed (kept : s.getLast? ≠ some '\r') : chomp (s ++ ['\n']) = s := by
  have backwards : (s ++ ['\n']).reverse = '\n' :: s.reverse := by simp
  rw [chomp, backwards]
  split
  · rename_i before whole
    have last : s.getLast? = some '\r' := by
      rw [← List.head?_reverse, (List.cons.inj whole).2, List.head?_cons]
    exact absurd last kept
  · rename_i before _ whole
    rw [← (List.cons.inj whole).2, List.reverse_reverse]
  · rename_i _ other
    exact absurd rfl (other s.reverse)

theorem chomp_carriage (s : Text) : chomp (s ++ ['\r', '\n']) = s := by
  have backwards : (s ++ ['\r', '\n']).reverse = '\n' :: '\r' :: s.reverse := by simp
  rw [chomp, backwards]
  exact List.reverse_reverse s

end Text

end LineTemplate
