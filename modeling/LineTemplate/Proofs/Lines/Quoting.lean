import LineTemplate.Line.Arguments
import LineTemplate.Line.Statement
import LineTemplate.Proofs.Lines.Outcome
import LineTemplate.Proofs.Lines.Trimming
import Mathlib

/-!
# Quoted text

A text in quotes is one argument, whatever it holds: the blanks, quotes, backslashes and equals
signs in it are read back as they are. A name in front of it makes the argument a named one.
-/

namespace LineTemplate

open Unicode

/-! ## Names hold no blanks -/

namespace Unicode.Ranges

variable {a b : Ranges} {n : Nat}

theorem contains_first {first last : Nat} (above : first ≤ n) (below : n ≤ last) (rest : Ranges) :
    Ranges.contains ((first, last) :: rest) n = true := by
  rw [contains, if_neg (Nat.not_lt.mpr above), decide_eq_true below, Bool.true_or]

theorem exists_of_contains (h : a.contains n = true) : ∃ r ∈ a, r.1 ≤ n ∧ n ≤ r.2 := by
  induction a with
  | nil => cases h
  | cons range rest ih =>
    obtain ⟨first, last⟩ := range
    rw [contains] at h
    split at h
    · cases h
    · rename_i above
      rcases Bool.or_eq_true_iff.mp h with here | later
      · exact ⟨_, List.mem_cons_self, Nat.le_of_not_lt above, of_decide_eq_true here⟩
      · obtain ⟨r, mem, within⟩ := ih later
        exact ⟨r, List.mem_cons_of_mem _ mem, within⟩

theorem contains_eq_false_of_apart (apart : ∀ r ∈ a, ∀ s ∈ b, r.2 < s.1 ∨ s.2 < r.1)
    (h : a.contains n = true) : b.contains n = false := by
  rw [Bool.eq_false_iff]
  intro h'
  obtain ⟨r, inFirst, low, high⟩ := exists_of_contains h
  obtain ⟨s, inSecond, low', high'⟩ := exists_of_contains h'
  have := apart r inFirst s inSecond
  omega

end Unicode.Ranges

theorem Unicode.isBlank_eq_false_of_between {low high : Nat}
    (apart : ∀ r ∈ blankRanges, r.2 < low ∨ high < r.1) {c : Char} (above : low ≤ c.toNat)
    (below : c.toNat ≤ high) : isBlank c = false := by
  rw [Bool.eq_false_iff]
  intro blank
  obtain ⟨r, mem, first, last⟩ := Ranges.exists_of_contains blank
  have := apart r mem
  omega

theorem Unicode.isAlphanumeric_eq_false_of_isBlank {c : Char} (h : isBlank c = true) :
    isAlphanumeric c = false := by
  have letters : ∀ r ∈ blankRanges, ∀ s ∈ alphabeticRanges, r.2 < s.1 ∨ s.2 < r.1 := by
    decide +kernel
  have numerals : ∀ r ∈ blankRanges, ∀ s ∈ numericRanges, r.2 < s.1 ∨ s.2 < r.1 := by
    decide +kernel
  have letter : isAlphabetic c = false := Ranges.contains_eq_false_of_apart letters h
  have numeral : isNumeric c = false := Ranges.contains_eq_false_of_apart numerals h
  rw [isAlphanumeric, letter, numeral]
  rfl

namespace Text

variable {s t : Text} {c : Char}

theorem isBlank_eq_false_of_isNameChar (h : isNameChar c = true) : isBlank c = false := by
  rw [Bool.eq_false_iff]
  intro blank
  rw [isNameChar, isAlphanumeric_eq_false_of_isBlank blank, Bool.false_or,
    decide_eq_true_eq] at h
  subst h
  cases blank

theorem isName_iff : isName s = true ↔
    ∃ c rest, s = c :: rest ∧ (isAlphabetic c = true ∨ c = '_') ∧
      ∀ d ∈ rest, isNameChar d = true := by
  cases s with
  | nil => simp [isName]
  | cons c rest => simp [isName]

theorem isNameChar_of_isName (h : isName s = true) : ∀ c ∈ s, isNameChar c = true := by
  obtain ⟨first, rest, rfl, starts, further⟩ := isName_iff.mp h
  intro c mem
  rcases List.mem_cons.mp mem with rfl | later
  · rcases starts with letter | rfl
    · rw [isNameChar, isAlphanumeric, letter]
      rfl
    · rfl
  · exact further c later

theorem ne_nil_of_isName (h : isName s = true) : s ≠ [] := by
  rintro rfl
  cases h

theorem isEmpty_of_isName (h : isName s = true) : s.isEmpty = false :=
  List.isEmpty_eq_false_iff.mpr (ne_nil_of_isName h)

theorem isBlank_eq_false_of_isName (h : isName s = true) : ∀ c ∈ s, isBlank c = false :=
  fun c mem => isBlank_eq_false_of_isNameChar (isNameChar_of_isName h c mem)

theorem not_mem_of_isName (h : isName s = true) (other : isNameChar c = false) : c ∉ s := by
  intro mem
  rw [isNameChar_of_isName h c mem] at other
  cases other

/-! ## Lines, and blanks between words -/

theorem Tight.of_isName (h : isName s = true) : s.Tight :=
  .of_unbroken (ne_nil_of_isName h) (isBlank_eq_false_of_isName h)

/-- A text that is a line of its own between line feeds. -/
structure Alone (s : Text) : Prop where
  tight : s.Tight
  feed : '\n' ∉ s

namespace Alone

theorem of_isName (h : isName s = true) : s.Alone where
  tight := .of_isName h
  feed := not_mem_of_isName h (by decide)

theorem append (h : s.Alone) (h' : t.Alone) {c : Char} (other : c ≠ '\n') :
    (s ++ c :: t).Alone where
  tight := h.tight.append h'.tight c
  feed := by
    rw [List.mem_append, List.mem_cons, not_or, not_or]
    exact ⟨h.feed, other.symm, h'.feed⟩

end Alone

/-- Blanks, at least one, as they stand between two words. -/
structure IsGap (s : Text) : Prop where
  nonempty : s ≠ []
  blank : ∀ c ∈ s, isBlank c = true

theorem isGap_space : IsGap [' '] where
  nonempty := List.cons_ne_nil _ _
  blank c mem := by
    rw [List.mem_singleton.mp mem]
    rfl

theorem IsGap.trim_append {gap : Text} (h : gap.IsGap) (tight : t.Tight) : (gap ++ t).trim = t :=
  (trim_blanks_append h.blank t).trans tight.trim

theorem splitWord_gap {gap : Text} (unbroken : ∀ c ∈ s, isBlank c = false) (h : gap.IsGap)
    (tight : t.Tight) : splitWord (s ++ (gap ++ t)) = (s, t) := by
  have visible : ∀ c ∈ s, (!isBlank c) = true := fun c mem => by simp [unbroken c mem]
  have trimmed : (gap ++ t).trim = t := h.trim_append tight
  obtain ⟨c, gap, rfl⟩ := List.exists_cons_of_ne_nil h.nonempty
  have blank : isBlank c = true := h.blank c List.mem_cons_self
  rw [splitWord, List.takeWhile_append_of_pos visible, List.dropWhile_append_of_pos visible,
    List.cons_append, List.takeWhile_cons_of_neg (by simp [blank]),
    List.dropWhile_cons_of_neg (by simp [blank]), List.append_nil, ← List.cons_append, trimmed]

theorem splitWord_append (unbroken : ∀ c ∈ s, isBlank c = false) (h : t.Tight) :
    splitWord (s ++ ' ' :: t) = (s, t) :=
  splitWord_gap unbroken isGap_space h

theorem splitWord_word (unbroken : ∀ c ∈ s, isBlank c = false) : splitWord s = (s, []) := by
  have visible : ∀ c ∈ s, (!isBlank c) = true := fun c mem => by simp [unbroken c mem]
  rw [splitWord, List.takeWhile_eq_self_iff.mpr visible, List.dropWhile_eq_nil_iff.mpr visible]
  rfl

/-- The first word and the trimmed rest, whatever blanks there are. -/
theorem splitWord_trim (nonempty : s ≠ []) (unbroken : ∀ c ∈ s, isBlank c = false) (rest : Text) :
    (s ++ ' ' :: rest).trim.splitWord = (s, rest.trim) := by
  have word : s.Tight := .of_unbroken nonempty unbroken
  have space : isBlank ' ' = true := rfl
  by_cases empty : rest.trim = []
  · have gap : ∀ c ∈ ' ' :: rest, isBlank c = true :=
      List.forall_mem_cons.mpr ⟨space, trim_eq_nil_iff.mp empty⟩
    rw [trim_append_blanks gap, word.trim, splitWord_word unbroken, empty]
  · obtain ⟨front, back, blank, blank', whole⟩ := exists_eq_trim rest
    have tight := tight_trim empty
    have gap : IsGap (' ' :: front) :=
      ⟨List.cons_ne_nil _ _, List.forall_mem_cons.mpr ⟨space, blank⟩⟩
    have spelled : s ++ ' ' :: rest = s ++ ((' ' :: front) ++ rest.trim) ++ back := by
      rw [List.append_assoc, List.append_assoc, List.cons_append, ← whole]
    rw [spelled, trim_append_blanks blank', (word.around tight _).trim,
      splitWord_gap unbroken gap tight]

/-! ## Quotes -/

/-- The text between two quotes: a backslash stands before each quote and backslash of the text. -/
def escapeQuotes : Text → Text
  | [] => []
  | c :: rest =>
    if c = '"' ∨ c = '\\' then '\\' :: c :: escapeQuotes rest else c :: escapeQuotes rest

def quote (s : Text) : Text :=
  '"' :: (escapeQuotes s ++ ['"'])

theorem tight_quote (s : Text) : s.quote.Tight where
  nonempty := List.cons_ne_nil _ _
  first c mem := by
    cases mem
    rfl
  last c mem := by
    rw [quote, ← List.cons_append, List.getLast?_concat] at mem
    cases mem
    rfl

theorem mem_escapeQuotes (h : c ∈ escapeQuotes s) : c = '\\' ∨ c ∈ s := by
  induction s with
  | nil => cases h
  | cons d rest ih =>
    rw [escapeQuotes] at h
    split at h <;> grind

theorem mem_quote (h : c ∈ quote s) : c = '"' ∨ c = '\\' ∨ c ∈ s := by
  rw [quote, List.mem_cons, List.mem_append, List.mem_singleton] at h
  rcases h with rfl | inside | rfl
  · exact .inl rfl
  · exact .inr (mem_escapeQuotes inside)
  · exact .inl rfl

theorem alone_quote (feed : '\n' ∉ s) : s.quote.Alone where
  tight := tight_quote s
  feed := by
    intro mem
    rcases mem_quote mem with mark | backslash | inside
    · cases mark
    · cases backslash
    · exact feed inside

end Text

/-! ## Arguments -/

namespace Word

section

variable (w : Word) {c : Char} (rest : Text)

theorem wordsFrom_nil : wordsFrom w false [] = some w.toList := by
  rw [wordsFrom.eq_def]
  rfl

theorem wordsFrom_mark (quoted : Bool) : wordsFrom w quoted ('"' :: rest) =
    wordsFrom { w with started := true } (!quoted) rest := by
  rw [wordsFrom.eq_def]
  rfl

theorem wordsFrom_escaped : wordsFrom w true ('\\' :: c :: rest) =
    wordsFrom (w.push c) true rest := by
  rw [wordsFrom.eq_def]
  rfl

theorem wordsFrom_quoted (mark : c ≠ '"') (backslash : c ≠ '\\') :
    wordsFrom w true (c :: rest) = wordsFrom (w.push c) true rest := by
  rw [wordsFrom.eq_def]
  dsimp only
  rw [if_neg mark, if_pos rfl, if_neg backslash]

theorem wordsFrom_plain (mark : c ≠ '"') (visible : isBlank c = false) :
    wordsFrom w false (c :: rest) = wordsFrom (w.pushPlain c) false rest := by
  rw [wordsFrom.eq_def]
  dsimp only
  rw [if_neg mark, if_neg Bool.false_ne_true, if_neg (by simp [visible])]

theorem wordsFrom_blank (blank : isBlank c = true) :
    wordsFrom w false (c :: rest) = (wordsFrom {} false rest).map (w.toList ++ ·) := by
  have mark : c ≠ '"' := by
    rintro rfl
    cases blank
  rw [wordsFrom.eq_def]
  dsimp only
  rw [if_neg mark, if_neg Bool.false_ne_true, if_pos blank]

end

/-- Up to the closing quote, every character is taken. -/
theorem wordsFrom_inside {w : Word} (started : w.started = true) (s rest : Text) :
    wordsFrom w true (Text.escapeQuotes s ++ '"' :: rest) =
      wordsFrom { w with text := w.text ++ s } false rest := by
  induction s generalizing w with
  | nil =>
    obtain ⟨text, equalsAt, _⟩ := w
    cases started
    rw [Text.escapeQuotes, List.nil_append, wordsFrom_mark, List.append_nil]
    rfl
  | cons c s ih =>
    have further := ih (w := w.push c) rfl
    have same : ({ w.push c with text := (w.push c).text ++ s } : Word) =
        { w with text := w.text ++ c :: s } := by
      rw [push, List.append_assoc, List.singleton_append, ← started]
    rw [same] at further
    by_cases special : c = '"' ∨ c = '\\'
    · rw [Text.escapeQuotes, if_pos special, List.cons_append, List.cons_append,
        wordsFrom_escaped, further]
    · obtain ⟨mark, backslash⟩ := not_or.mp special
      rw [Text.escapeQuotes, if_neg special, List.cons_append,
        wordsFrom_quoted _ _ mark backslash, further]

theorem wordsFrom_quote (w : Word) (s rest : Text) :
    wordsFrom w false (Text.quote s ++ rest) =
      wordsFrom { w with text := w.text ++ s, started := true } false rest := by
  rw [Text.quote, List.cons_append, List.append_assoc, wordsFrom_mark]
  exact wordsFrom_inside rfl s rest

theorem wordsFrom_name {name : Text} (w : Word) (h : ∀ c ∈ name, Text.isNameChar c = true)
    (rest : Text) : wordsFrom w false (name ++ rest) =
      wordsFrom { w with text := w.text ++ name, started := w.started || !name.isEmpty }
        false rest := by
  induction name generalizing w with
  | nil => rw [List.nil_append, List.append_nil, List.isEmpty_nil, Bool.not_true, Bool.or_false]
  | cons c name ih =>
    have named : Text.isNameChar c = true := h c List.mem_cons_self
    have mark : c ≠ '"' := by
      rintro rfl
      cases named
    have equals : c ≠ '=' := by
      rintro rfl
      cases named
    have pushed : w.pushPlain c = w.push c := by simp [pushPlain, equals]
    rw [List.cons_append, wordsFrom_plain _ _ mark (Text.isBlank_eq_false_of_isNameChar named),
      pushed, ih (w.push c) fun d mem => h d (List.mem_cons_of_mem c mem)]
    simp [push]

end Word

namespace Item

/-- The text of an item whose value stands in quotes. -/
def quoted : Item → Text
  | positional value => value.quote
  | named name value => name ++ '=' :: value.quote

/-- What the item has for a name is one. -/
def WellNamed : Item → Prop
  | positional _ => True
  | named name _ => Text.isName name = true

theorem wellNamed_positional (value : Text) : (positional value).WellNamed :=
  trivial

/-- The word that is read of the item. -/
def word : Item → Word
  | positional value => { text := value, started := true }
  | named name value =>
    { text := name ++ '=' :: value, equalsAt := some name.length, started := true }

variable {item : Item}

theorem toItem_word (h : item.WellNamed) : item.word.toItem = item := by
  cases item with
  | positional value => rfl
  | named name value =>
    have isName : Text.isName name = true := h
    rw [word, Word.toItem]
    simp [isName]

theorem toList_word (item : Item) : item.word.toList = [item.word] := by
  cases item <;> rfl

theorem tight_quoted (h : item.WellNamed) : item.quoted.Tight := by
  cases item with
  | positional value => exact Text.tight_quote value
  | named name value => exact (Text.Tight.of_isName h).append (Text.tight_quote value) '='

theorem wordsFrom_quoted (h : item.WellNamed) (rest : Text) :
    Word.wordsFrom {} false (item.quoted ++ rest) = Word.wordsFrom item.word false rest := by
  cases item with
  | positional value => exact Word.wordsFrom_quote {} value rest
  | named name value =>
    have equals : ({ text := name, started := true } : Word).pushPlain '=' =
        { text := name ++ ['='], equalsAt := some name.length, started := true } := by
      simp [Word.pushPlain, Word.push, Text.isEmpty_of_isName h]
    have value_read := Word.wordsFrom_quote
      { text := name ++ ['='], equalsAt := some name.length, started := true } value rest
    rw [List.append_assoc, List.singleton_append] at value_read
    rw [quoted, List.append_assoc, List.cons_append,
      Word.wordsFrom_name {} (Text.isNameChar_of_isName h), Text.isEmpty_of_isName h,
      Word.wordsFrom_plain _ _ (by decide) (by decide)]
    exact (congrArg (Word.wordsFrom · false (value.quote ++ rest)) equals).trans value_read

end Item

namespace Arguments

theorem words_quoted {item : Item} (h : item.WellNamed) : words item.quoted = .ok [item.word] := by
  have read := item.wordsFrom_quoted h []
  rw [List.append_nil, Word.wordsFrom_nil, item.toList_word] at read
  rw [words, read]

theorem items_quoted {item : Item} (h : item.WellNamed) : items item.quoted = .ok [item] := by
  rw [items, words_quoted h, Outcome.map_ok, List.map_singleton, item.toItem_word h]

theorem tokenize_quote (s : Text) : tokenize (Text.quote s) = .ok [s] := by
  have read : words (Text.quote s) = .ok [(Item.positional s).word] :=
    words_quoted (Item.wellNamed_positional s)
  rw [tokenize, read]
  rfl

theorem items_quote (s : Text) : items (Text.quote s) = .ok [.positional s] :=
  items_quoted (Item.wellNamed_positional s)

theorem items_name {name : Text} (h : Text.isName name = true) :
    items name = .ok [.positional name] := by
  have read := Word.wordsFrom_name {} (Text.isNameChar_of_isName h) []
  rw [List.append_nil, Text.isEmpty_of_isName h] at read
  rw [items, words, read]
  rfl

theorem items_named {name : Text} (h : Text.isName name = true) (s : Text) :
    items (name ++ '=' :: Text.quote s) = .ok [.named name s] :=
  items_quoted (show (Item.named name s).WellNamed from h)

end Arguments

end LineTemplate
