import LineTemplate.Line.Statement
import LineTemplate.Proofs.Lines.Outcome
import Mathlib

/-!
# Blanks around a text

A text is blanks, then its trimmed text, and then blanks again. More blanks around it do not change
the trimmed text, and so they change nothing about what a line means.
-/

namespace LineTemplate

open Unicode

namespace Text

variable {s t front back : Text} {c : Char}

theorem trimEnd_prefix (s : Text) : s.trimEnd <+: s := by
  have tail : s.reverse.dropWhile isBlank <:+ s.reverse := List.dropWhile_suffix _
  rw [trimEnd, ← List.reverse_suffix, List.reverse_reverse]
  exact tail

theorem trim_blanks_append (blank : ∀ c ∈ front, isBlank c = true) (s : Text) :
    (front ++ s).trim = s.trim := by
  have dropped : (front ++ s).trimStart = s.trimStart := List.dropWhile_append_of_pos blank
  rw [trim, dropped, trim]

theorem trimEnd_append_blanks (blank : ∀ c ∈ back, isBlank c = true) (s : Text) :
    (s ++ back).trimEnd = s.trimEnd := by
  have backwards : ∀ c ∈ back.reverse, isBlank c = true := fun c mem =>
    blank c (List.mem_reverse.mp mem)
  rw [trimEnd, List.reverse_append, List.dropWhile_append_of_pos backwards, trimEnd]

theorem trim_append_blanks (blank : ∀ c ∈ back, isBlank c = true) (s : Text) :
    (s ++ back).trim = s.trim := by
  rw [trim, trim, trimStart, List.dropWhile_append]
  split
  · rename_i empty
    rw [trimStart, List.isEmpty_iff.mp empty, List.dropWhile_eq_nil_iff.mpr blank]
  · exact trimEnd_append_blanks blank _

theorem exists_eq_trim (s : Text) : ∃ front back : Text, (∀ c ∈ front, isBlank c = true) ∧
    (∀ c ∈ back, isBlank c = true) ∧ s = front ++ (s.trim ++ back) := by
  have middle : s.trimStart = s.trim ++ (s.trimStart.reverse.takeWhile isBlank).reverse := by
    rw [trim, trimEnd, ← List.reverse_append, List.takeWhile_append_dropWhile,
      List.reverse_reverse]
  have whole : s.takeWhile isBlank ++ s.trimStart = s := List.takeWhile_append_dropWhile
  rw [middle] at whole
  exact ⟨_, _, fun c => List.mem_takeWhile_imp,
    fun c mem => List.mem_takeWhile_imp (List.mem_reverse.mp mem), whole.symm⟩

theorem trim_eq_nil_iff : s.trim = [] ↔ ∀ c ∈ s, isBlank c = true := by
  constructor
  · intro empty
    obtain ⟨front, back, blank, blank', whole⟩ := exists_eq_trim s
    rw [whole, empty]
    exact List.forall_mem_append.mpr ⟨blank, blank'⟩
  · intro blank
    exact trim_append_blanks blank []

/-! ## Text that is not trimmed -/

/-- A text with no blanks around it. -/
structure Tight (s : Text) : Prop where
  nonempty : s ≠ []
  first : ∀ c ∈ s.head?, isBlank c = false
  last : ∀ c ∈ s.getLast?, isBlank c = false

namespace Tight

theorem of_unbroken (nonempty : s ≠ []) (unbroken : ∀ c ∈ s, isBlank c = false) : s.Tight where
  nonempty
  first c mem := unbroken c (List.mem_of_mem_head? mem)
  last c mem := unbroken c (List.mem_of_mem_getLast? mem)

/-- What stands between two texts does not matter. -/
theorem around (h : s.Tight) (h' : t.Tight) (between : Text) : (s ++ (between ++ t)).Tight where
  nonempty := List.append_ne_nil_of_left_ne_nil h.nonempty _
  first d mem := by
    rw [List.head?_append_of_ne_nil _ h.nonempty] at mem
    exact h.first d mem
  last d mem := by
    rw [← List.append_assoc, List.getLast?_append_of_ne_nil _ h'.nonempty] at mem
    exact h'.last d mem

theorem append (h : s.Tight) (h' : t.Tight) (c : Char) : (s ++ c :: t).Tight :=
  h.around h' [c]

theorem trimStart (h : s.Tight) : s.trimStart = s := by
  cases s with
  | nil => rfl
  | cons c rest =>
    have visible : isBlank c = false := h.first c rfl
    rw [Text.trimStart, List.dropWhile_cons_of_neg (by simp [visible])]

theorem trim (h : s.Tight) : s.trim = s := by
  have backwards : Tight s.reverse :=
    { nonempty := by simpa using h.nonempty
      first := by simpa using h.last
      last := by simpa using h.first }
  have ends : s.reverse.dropWhile isBlank = s.reverse := backwards.trimStart
  rw [Text.trim, h.trimStart, trimEnd, ends, List.reverse_reverse]

end Tight

theorem isBlank_eq_false_of_head?_dropWhile (h : c ∈ (s.dropWhile isBlank).head?) :
    isBlank c = false := by
  have first := List.head?_dropWhile_not isBlank s
  rwa [Option.mem_def.mp h] at first

theorem tight_trim (h : s.trim ≠ []) : s.trim.Tight where
  nonempty := h
  first c mem := by
    obtain ⟨more, whole⟩ := trimEnd_prefix s.trimStart
    have same : (s.trim ++ more).head? = s.trim.head? := List.head?_append_of_ne_nil _ h
    rw [← same, trim, whole] at mem
    exact isBlank_eq_false_of_head?_dropWhile mem
  last c mem := by
    rw [trim, trimEnd, List.getLast?_reverse] at mem
    exact isBlank_eq_false_of_head?_dropWhile mem

end Text

namespace Statement

/-- What a line means is in its trimmed text. -/
def contentOfTrimmed (ind : Indicators) (isMacro : Text → Bool) (trimmed : Text) :
    Except SyntaxFault Content :=
  if trimmed.isEmpty then .ok .literal
  else contentOf ind isMacro trimmed.splitWord.1 trimmed.splitWord.2

theorem classify_eq (ind : Indicators) (isMacro : Text → Bool) (raw : Text) :
    classify ind isMacro raw =
      (contentOfTrimmed ind isMacro raw.trim).map (Statement.mk raw) := by
  rw [contentOfTrimmed, classify]
  dsimp only
  split <;> rfl

theorem classify_of_trim_eq {raw raw' : Text} (same : raw.trim = raw'.trim) (ind : Indicators)
    (isMacro : Text → Bool) : classify ind isMacro raw =
      (classify ind isMacro raw').map fun statement => ⟨raw, statement.content⟩ := by
  rw [classify_eq, classify_eq, same, Outcome.map_map]

end Statement

end LineTemplate
