import LineTemplate.Line.Arguments
import LineTemplate.Proofs.Lines.Escaping
import LineTemplate.Proofs.Lines.Quoting
import Mathlib

/-!
# Words without quotes

Words that hold neither blanks nor quotes can be written with a blank between them, and are read
back as they are (`Arguments.tokenize_join`). Equals signs and backslashes mean nothing in them.
-/

namespace LineTemplate

open Unicode

namespace Text

variable {s t gap : Text} {separator c : Char}

/-- A word that needs no quotes. -/
structure IsBare (s : Text) : Prop where
  nonempty : s ≠ []
  unbroken : ∀ c ∈ s, isBlank c = false
  mark : '"' ∉ s

namespace IsBare

theorem of_isName (h : isName s = true) : s.IsBare where
  nonempty := ne_nil_of_isName h
  unbroken := isBlank_eq_false_of_isName h
  mark := not_mem_of_isName h (by decide)

theorem append (h : s.IsBare) (h' : t.IsBare) (visible : isBlank c = false) (mark : c ≠ '"') :
    (s ++ c :: t).IsBare where
  nonempty := List.append_ne_nil_of_left_ne_nil h.nonempty _
  unbroken := List.forall_mem_append.mpr
    ⟨h.unbroken, List.forall_mem_cons.mpr ⟨visible, h'.unbroken⟩⟩
  mark := by
    rw [List.mem_append, List.mem_cons, not_or, not_or]
    exact ⟨h.mark, mark.symm, h'.mark⟩

theorem alone (h : s.IsBare) : s.Alone where
  tight := .of_unbroken h.nonempty h.unbroken
  feed mem := by cases h.unbroken '\n' mem

end IsBare

/-! ## Words with blanks between them -/

theorem join_singleton (s : Text) : join [' '] [s] = s :=
  List.intercalate_singleton

theorem join_cons_cons (s t : Text) (rest : List Text) :
    join [' '] (s :: t :: rest) = s ++ ' ' :: join [' '] (t :: rest) := by
  rw [join, List.intercalate_cons_cons, List.append_assoc, List.singleton_append, join]

/-- Only the first of several words can be what they are together. -/
theorem eq_join_iff {rest : List Text} : s = join [' '] (s :: rest) ↔ rest = [] := by
  constructor
  · intro same
    cases rest with
    | nil => rfl
    | cons t rest =>
      rw [join_cons_cons] at same
      simp at same
  · rintro rfl
    rw [join_singleton]

theorem alone_join {words : List Text} (some : words ≠ []) (bare : ∀ s ∈ words, s.IsBare) :
    (join [' '] words).Alone := by
  induction words with
  | nil => exact absurd rfl some
  | cons s rest ih =>
    obtain ⟨first, others⟩ := List.forall_mem_cons.mp bare
    cases rest with
    | nil =>
      rw [join_singleton]
      exact first.alone
    | cons t rest =>
      rw [join_cons_cons]
      exact first.alone.append (ih (List.cons_ne_nil t rest) others) (by decide)

/-! ## Blanks behind a text, and lines -/

theorem trim_append_gap (tight : t.Tight) (h : gap.IsGap) : (t ++ gap).trim = t :=
  (trim_append_blanks h.blank t).trans tight.trim

theorem splitOnce?_eq_none (absent : separator ∉ s) : splitOnce? separator s = none := by
  induction s with
  | nil => rfl
  | cons c rest ih =>
    obtain ⟨here, later⟩ := not_or.mp (mt List.mem_cons.mpr absent)
    rw [splitOnce?, if_neg (Ne.symm here), ih later, Option.map_none]

theorem lines_of_alone (h : s.Alone) : lines s = [s] :=
  lines_feedless h.tight.nonempty h.feed

end Text

/-! ## Reading the words -/

namespace Word

variable {s : Text} {c : Char}

theorem text_pushPlain (w : Word) (c : Char) : (w.pushPlain c).text = w.text ++ [c] := by
  rw [pushPlain]
  split <;> rfl

theorem started_pushPlain (w : Word) (c : Char) : (w.pushPlain c).started = true := by
  rw [pushPlain]
  split <;> rfl

/-- Characters that are neither blanks nor quotes go on with the word as they are written. -/
theorem exists_wordsFrom (w : Word) (unbroken : ∀ c ∈ s, isBlank c = false) (mark : '"' ∉ s)
    (rest : Text) : ∃ w' : Word, w'.text = w.text ++ s ∧ w'.started = (w.started || !s.isEmpty) ∧
      wordsFrom w false (s ++ rest) = wordsFrom w' false rest := by
  induction s generalizing w with
  | nil => exact ⟨w, by simp, by simp, rfl⟩
  | cons c s ih =>
    obtain ⟨here, later⟩ := not_or.mp (mt List.mem_cons.mpr mark)
    obtain ⟨visible, others⟩ := List.forall_mem_cons.mp unbroken
    obtain ⟨w', text, started, read⟩ := ih (w.pushPlain c) others later
    refine ⟨w', ?_, ?_, ?_⟩
    · rw [text, text_pushPlain, List.append_assoc, List.singleton_append]
    · rw [started, started_pushPlain]
      simp
    · rw [List.cons_append, wordsFrom_plain w _ (Ne.symm here) visible, read]

theorem exists_wordsFrom_bare (h : s.IsBare) (rest : Text) : ∃ w : Word, w.text = s ∧
    w.toList = [w] ∧ wordsFrom {} false (s ++ rest) = wordsFrom w false rest := by
  obtain ⟨w, text, started, read⟩ := exists_wordsFrom {} h.unbroken h.mark rest
  have written : s.isEmpty = false := List.isEmpty_eq_false_iff.mpr h.nonempty
  rw [written] at started
  exact ⟨w, text, if_pos started, read⟩

theorem wordsFrom_join {words : List Text} (bare : ∀ s ∈ words, s.IsBare) :
    (wordsFrom {} false (Text.join [' '] words)).map (·.map text) = some words := by
  induction words with
  | nil => rfl
  | cons s rest ih =>
    obtain ⟨first, others⟩ := List.forall_mem_cons.mp bare
    cases rest with
    | nil =>
      obtain ⟨w, text, one, read⟩ := exists_wordsFrom_bare first []
      rw [List.append_nil] at read
      rw [Text.join_singleton, read, wordsFrom_nil, one, Option.map_some, List.map_singleton, text]
    | cons t rest =>
      obtain ⟨w, text, one, read⟩ :=
        exists_wordsFrom_bare first (' ' :: Text.join [' '] (t :: rest))
      obtain ⟨later, known, texts⟩ := Option.map_eq_some_iff.mp (ih others)
      rw [Text.join_cons_cons, read, wordsFrom_blank w _ (by decide), known, one, Option.map_some,
        Option.map_some, List.singleton_append, List.map_cons, text, texts]

end Word

/-- Words without quotes are read back as they are. -/
theorem Arguments.tokenize_join {words : List Text} (bare : ∀ s ∈ words, s.IsBare) :
    tokenize (Text.join [' '] words) = .ok words := by
  obtain ⟨read, known, texts⟩ := Option.map_eq_some_iff.mp (Word.wordsFrom_join bare)
  rw [tokenize, Arguments.words, known, ← texts]
  rfl

end LineTemplate
