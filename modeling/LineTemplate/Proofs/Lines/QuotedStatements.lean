import LineTemplate.Proofs.Lines.Verbatim
import Mathlib

/-!
# Statements that are written in quotes

The object of a directive and its arguments are read by two scanners of their own. Both undo the
same quotes: a line whose object and argument values all stand in quotes is read as the directive
with that object and those arguments, whatever the values are. The marks are the default ones.
-/

namespace LineTemplate

open Unicode

/-! ## Keywords -/

/-- Only letters have another lower case. -/
theorem Unicode.toLower_eq_self_or (c : Char) : c.toLower = c ∨ isAlphabetic c = true := by
  rw [Char.toLower]
  split
  · rename_i upper
    exact .inr (Ranges.contains_first upper.1 upper.2 _)
  · exact .inl rfl

namespace Text

variable {s : Text} {c : Char}

theorem isNameChar_of_toLower (h : isNameChar c.toLower = true) : isNameChar c = true := by
  rcases toLower_eq_self_or c with same | letter
  · rwa [same] at h
  · rw [isNameChar, isAlphanumeric, letter]
    rfl

theorem isName_of_toLower (h : isName (s.map Char.toLower) = true) : isName s = true := by
  obtain ⟨first, others, lowered, starts, further⟩ := isName_iff.mp h
  obtain ⟨c, rest, rfl, rfl, rfl⟩ := List.map_eq_cons_iff.mp lowered
  refine isName_iff.mpr ⟨c, rest, rfl, ?_, fun d mem => ?_⟩
  · rcases toLower_eq_self_or c with same | letter
    · rwa [same] at starts
    · exact .inl letter
  · exact isNameChar_of_toLower (further _ (List.mem_map_of_mem mem))

end Text

namespace Directive

variable {kind : Directive} {word keyword : Text}

theorem mem_all (kind : Directive) : kind ∈ all := by
  cases kind <;> decide

/-- No word stands for two directives. -/
theorem ofWord?_word (listed : word ∈ kind.words) : ofWord? word = some kind := by
  have unique : ∀ d ∈ all, ∀ w ∈ d.words, ofWord? w = some d := by decide
  exact unique kind (mem_all kind) word listed

theorem ofWord?_spelled (listed : word ∈ kind.words)
    (spelled : Text.sameIgnoringCase keyword word = true) : ofWord? keyword = some kind := by
  have lower : keyword.map Char.toLower = word.map Char.toLower := of_decide_eq_true spelled
  have same : Text.sameIgnoringCase keyword = Text.sameIgnoringCase word := by
    funext other
    rw [Text.sameIgnoringCase, lower, Text.sameIgnoringCase]
  rw [ofWord?, same]
  exact ofWord?_word listed

theorem isName_of_spelled (listed : word ∈ kind.words)
    (spelled : Text.sameIgnoringCase keyword word = true) : Text.isName keyword = true := by
  have named : ∀ d ∈ all, ∀ w ∈ d.words, Text.isName (w.map Char.toLower) = true := by
    decide +kernel
  have lower : keyword.map Char.toLower = word.map Char.toLower := of_decide_eq_true spelled
  exact Text.isName_of_toLower (lower ▸ named kind (mem_all kind) word listed)

end Directive

/-! ## The object -/

namespace Statement

theorem readQuoted?_escapeQuotes (s rest : Text) :
    readQuoted? (s.escapeQuotes ++ '"' :: rest) = some (s, rest) := by
  induction s with
  | nil => rfl
  | cons c s ih =>
    by_cases special : c = '"' ∨ c = '\\'
    · rw [Text.escapeQuotes, if_pos special, List.cons_append, List.cons_append, readQuoted?, ih]
      rfl
    · obtain ⟨mark, backslash⟩ := not_or.mp special
      rw [Text.escapeQuotes, if_neg special, List.cons_append, readQuoted?, ih]
      · rfl
      · exact fun same _ => backslash same
      · exact fun _ _ same _ => backslash same
      · exact mark

theorem splitObject_quote (s rest : Text) : splitObject (s.quote ++ rest) = .ok (s, rest.trim) := by
  rw [Text.quote, List.cons_append, List.append_assoc, List.singleton_append, splitObject,
    readQuoted?_escapeQuotes]

end Statement

/-! ## The arguments -/

namespace Item

def positional? : Item → Option Text
  | positional value => some value
  | named .. => none

def named? : Item → Option (Text × Text)
  | positional _ => none
  | named name value => some (name, value)

/-- An item on a line, with the blanks in front of it. -/
structure Spaced where
  gap : Text
  item : Item
  isGap : gap.IsGap
  wellNamed : item.WellNamed

/-- Items one after the other, their values in quotes. -/
def spaced (items : List Spaced) : Text :=
  items.flatMap fun entry => entry.gap ++ entry.item.quoted

variable {s : Text} {entry : Spaced} {items : List Spaced}

theorem spaced_cons : spaced (entry :: items) =
    entry.gap ++ (entry.item.quoted ++ spaced items) := by
  rw [spaced, List.flatMap_cons, List.append_assoc]
  rfl

theorem tight_append_spaced (h : s.Tight) (items : List Spaced) : (s ++ spaced items).Tight := by
  induction items generalizing s with
  | nil => rwa [spaced, List.flatMap_nil, List.append_nil]
  | cons entry items ih =>
    have further : (s ++ (entry.gap ++ entry.item.quoted)).Tight :=
      h.around (tight_quoted entry.wellNamed) entry.gap
    have whole := ih further
    rwa [List.append_assoc, List.append_assoc, ← spaced_cons] at whole

theorem trim_spaced : (spaced (entry :: items)).trim = entry.item.quoted ++ spaced items := by
  rw [spaced_cons]
  exact entry.isGap.trim_append (tight_append_spaced (tight_quoted entry.wellNamed) items)

end Item

namespace Word

variable {gap : Text}

theorem wordsFrom_blanks (blank : ∀ c ∈ gap, isBlank c = true) (rest : Text) :
    wordsFrom {} false (gap ++ rest) = wordsFrom {} false rest := by
  induction gap with
  | nil => rfl
  | cons c gap ih =>
    rw [List.cons_append, wordsFrom_blank _ _ (blank c List.mem_cons_self),
      ih fun d mem => blank d (List.mem_cons_of_mem c mem)]
    exact Option.map_id'

theorem wordsFrom_gap (w : Word) (h : gap.IsGap) (rest : Text) :
    wordsFrom w false (gap ++ rest) = (wordsFrom {} false rest).map (w.toList ++ ·) := by
  obtain ⟨c, gap, rfl⟩ := List.exists_cons_of_ne_nil h.nonempty
  rw [List.cons_append, wordsFrom_blank _ _ (h.blank c List.mem_cons_self),
    wordsFrom_blanks fun d mem => h.blank d (List.mem_cons_of_mem c mem)]

/-- The word that is under construction ends where the items begin. -/
theorem wordsFrom_spaced (w : Word) (items : List Item.Spaced) :
    wordsFrom w false (Item.spaced items) =
      some (w.toList ++ items.map fun entry => entry.item.word) := by
  induction items generalizing w with
  | nil => rw [Item.spaced, List.flatMap_nil, wordsFrom_nil, List.map_nil, List.append_nil]
  | cons entry items ih =>
    rw [Item.spaced_cons, wordsFrom_gap w entry.isGap, Item.wordsFrom_quoted entry.wellNamed, ih,
      Item.toList_word, List.map_cons]
    rfl

end Word

namespace Arguments

theorem words_spaced (items : List Item.Spaced) :
    words (Item.spaced items).trim = .ok (items.map fun entry => entry.item.word) := by
  cases items with
  | nil => rfl
  | cons entry items =>
    rw [Item.trim_spaced, words, Item.wordsFrom_quoted entry.wellNamed, Word.wordsFrom_spaced,
      Item.toList_word]
    rfl

theorem items_spaced (list : List Item.Spaced) :
    items (Item.spaced list).trim = .ok (list.map Item.Spaced.item) := by
  rw [items, words_spaced, Outcome.map_ok, List.map_map]
  exact congrArg _ (List.map_congr_left fun entry _ => entry.item.toItem_word entry.wellNamed)

theorem ofItems_eq (items : List Item) : ofItems items =
    { positional := items.filterMap Item.positional?, named := items.filterMap Item.named? } :=
  rfl

end Arguments

/-! ## The line -/

theorem Text.getD_nonempty? (s : Text) : s.nonempty?.getD [] = s := by
  rw [nonempty?]
  split
  · exact (List.isEmpty_iff.mp ‹_›).symm
  · rfl

/-- A line with a directive in its long form, where all texts stand in quotes. -/
def Template.quoted (keyword gap object : Text) (items : List Item.Spaced) : Text :=
  '_' :: '#' :: (keyword ++ (gap ++ (object.quote ++ Item.spaced items)))

namespace Statement

variable {kind : Directive} {word keyword gap object : Text}

/-- Reading a line undoes the quotes that it was written with. -/
theorem classify_quoted (listed : word ∈ kind.words)
    (spelled : Text.sameIgnoringCase keyword word = true)
    (hasObject : kind.description.hasObject = true) (gapped : gap.IsGap) (nonempty : object ≠ [])
    (items : List Item.Spaced) (isMacro : Text → Bool) :
    ∃ expression, classify {} isMacro (Template.quoted keyword gap object items) =
        .ok ⟨Template.quoted keyword gap object items,
          .directive kind (some object) expression⟩ ∧
      Arguments.items (expression.getD []) = .ok (items.map fun entry => entry.item) ∧
      Arguments.ofText (expression.getD []) =
        .ok { positional := items.filterMap fun entry => entry.item.positional?
              named := items.filterMap fun entry => entry.item.named? } := by
  have unbroken : ∀ c ∈ '_' :: '#' :: keyword, isBlank c = false :=
    List.forall_mem_cons.mpr ⟨by decide, List.forall_mem_cons.mpr
      ⟨by decide, Text.isBlank_eq_false_of_isName (Directive.isName_of_spelled listed spelled)⟩⟩
  have named : ¬ object.isEmpty = true := by simpa using nonempty
  have meaning : contentOf {} isMacro ('_' :: '#' :: keyword)
      (object.quote ++ Item.spaced items) =
        .ok (.directive kind (some object) (Item.spaced items).trim.nonempty?) := by
    rw [(Marks.long keyword).directive (Directive.ofWord?_spelled listed spelled),
      directiveContent, if_pos hasObject, splitObject_quote]
    dsimp only
    rw [if_neg named]
  have read := Arguments.items_spaced items
  refine ⟨(Item.spaced items).trim.nonempty?, ?_, ?_, ?_⟩
  · exact classify_gap (List.cons_ne_nil _ _) unbroken gapped
      (Item.tight_append_spaced (Text.tight_quote object) items) meaning
  · rw [Text.getD_nonempty?, read]
  · rw [Text.getD_nonempty?, Arguments.ofText, read, Outcome.map_ok, Arguments.ofItems_eq,
      List.filterMap_map, List.filterMap_map]
    rfl

/-- Blanks and marks in a value do not end it, and only what stands in front of the quotes is a
name. -/
theorem classify_quoted_marks : ∃ expression,
    classify {} (fun _ => false) "_#Inc  \"a \\\\\" x=\"y = \\\"1\\\"\" \"x=\" \"\"".toList =
        .ok ⟨"_#Inc  \"a \\\\\" x=\"y = \\\"1\\\"\" \"x=\" \"\"".toList,
          .directive .includeFile (some "a \\".toList) expression⟩ ∧
      Arguments.items (expression.getD []) = .ok
        [.named "x".toList "y = \"1\"".toList, .positional "x=".toList, .positional []] ∧
      Arguments.ofText (expression.getD []) = .ok
        { positional := ["x=".toList, []], named := [("x".toList, "y = \"1\"".toList)] } := by
  have space : Text.IsGap [' '] := Text.isGap_space
  have spaces : Text.IsGap [' ', ' '] := ⟨List.cons_ne_nil _ _, by simp [space.blank]⟩
  have named : Text.isName "x".toList = true := by decide
  exact classify_quoted (show "INC".toList ∈ Directive.includeFile.words by decide)
    (show Text.sameIgnoringCase "Inc".toList "INC".toList = true by decide) rfl spaces
    (show "a \\".toList ≠ [] by decide)
    [⟨[' '], .named "x".toList "y = \"1\"".toList, space, named⟩,
      ⟨[' '], .positional "x=".toList, space, trivial⟩, ⟨[' '], .positional [], space, trivial⟩]
    fun _ => false

end Statement

end LineTemplate
