import LineTemplate.Expression.Token
import LineTemplate.Proofs.Expressions.Numerals
import LineTemplate.Proofs.Lines.BareWords
import Mathlib

/-!
# Tokens, written and read

A token that is written down, with a blank behind it or nothing at all, is read back as that token,
and no more than it is read. So a list of tokens is read back from their texts with a blank between
each two of them (`Token.ofText_written`).

Numbers, names and operators end where the blank is. A string ends at its closing quote; inside of
it the quotes, backslashes and line feeds are escaped, and everything else stands for itself.
-/

namespace LineTemplate

open Unicode

theorem Unicode.isAlphabetic_eq_false_of_isDigit {c : Char} (digit : c.isDigit = true) :
    isAlphabetic c = false := by
  have apart : ∀ r ∈ alphabeticRanges, r.2 < 48 ∨ 57 < r.1 := by decide +kernel
  obtain ⟨low, high⟩ := Number.toNat_of_isDigit digit
  rw [Bool.eq_false_iff]
  intro letter
  obtain ⟨r, mem, first, last⟩ := Ranges.exists_of_contains letter
  have := apart r mem
  omega

/-! ## How tokens are written -/

namespace Token

/-- The content of a string as it stands between the quotes. -/
def escapeString : Text → Text
  | [] => []
  | c :: rest =>
    if c = '\n' then '\\' :: 'n' :: escapeString rest
    else if c = '"' ∨ c = '\\' then '\\' :: c :: escapeString rest
    else c :: escapeString rest

/-- The text of a token. Floats are written as in messages. -/
def written : Token → Text
  | int n => Text.ofInt n.toInt
  | float x => shownFloat x
  | str s => '"' :: (escapeString s ++ ['"'])
  | ident name => name
  | plus => "+".toList
  | minus => "-".toList
  | star => "*".toList
  | slash => "/".toList
  | percent => "%".toList
  | bang => "!".toList
  | eq => "==".toList
  | ne => "!=".toList
  | lt => "<".toList
  | le => "<=".toList
  | gt => ">".toList
  | ge => ">=".toList
  | globMatch => "=~".toList
  | regexMatch => "=/".toList
  | notGlobMatch => "!~".toList
  | notRegexMatch => "!/".toList
  | and => "&&".toList
  | or => "||".toList
  | question => "?".toList
  | colon => ":".toList
  | comma => ",".toList
  | lparen => "(".toList
  | rparen => ")".toList
  | unknown c => [c]

/-- What may follow the first character of a name: letters, numerals and `_`, and a dot where a
letter or `_` follows. -/
inductive IsNameTail : Text → Prop where
  | nil : IsNameTail []
  | char {c : Char} {rest : Text} (named : Text.isNameChar c = true) (further : IsNameTail rest) :
    IsNameTail (c :: rest)
  | dot {c : Char} {rest : Text} (opens : (isAlphabetic c || c = '_') = true)
      (further : IsNameTail (c :: rest)) : IsNameTail ('.' :: c :: rest)

/-- A letter or `_`, and what may follow it in a name. -/
def IsDottedName (name : Text) : Prop :=
  ∃ c rest, name = c :: rest ∧ (isAlphabetic c || c = '_') = true ∧ IsNameTail rest

/-- A token that its text stands for: integers have no sign, names are well formed, and floats and
unknown characters are left out. -/
def IsPlain : Token → Prop
  | int n => 0 ≤ n.toInt
  | ident name => IsDottedName name
  | float _ | unknown _ => False
  | _ => True

section

variable {s name : Text}

theorem isNameChar_of_starts {c : Char} (starts : (isAlphabetic c || c = '_') = true) :
    Text.isNameChar c = true := by
  rcases Bool.or_eq_true_iff.mp starts with letter | underscore
  · exact Text.isNameChar_of_isAlphabetic letter
  · rw [Text.isNameChar, underscore, Bool.or_true]

theorem IsNameTail.mem (h : IsNameTail s) : ∀ d ∈ s, Text.isNameChar d = true ∨ d = '.' := by
  induction h with
  | nil => nofun
  | char named _ ih => exact List.forall_mem_cons.mpr ⟨.inl named, ih⟩
  | dot _ _ ih => exact List.forall_mem_cons.mpr ⟨.inr rfl, ih⟩

theorem IsDottedName.mem (h : IsDottedName name) :
    ∀ d ∈ name, Text.isNameChar d = true ∨ d = '.' := by
  obtain ⟨c, rest, rfl, starts, tail⟩ := h
  exact List.forall_mem_cons.mpr ⟨.inl (isNameChar_of_starts starts), tail.mem⟩

theorem IsDottedName.ne_nil (h : IsDottedName name) : name ≠ [] := by
  obtain ⟨c, rest, rfl, -⟩ := h
  exact List.cons_ne_nil c rest

theorem IsDottedName.unbroken (h : IsDottedName name) : ∀ d ∈ name, isBlank d = false := by
  intro d mem
  rcases h.mem d mem with named | rfl
  · exact Text.isBlank_eq_false_of_isNameChar named
  · rfl

theorem IsDottedName.not_mem (h : IsDottedName name) {d : Char}
    (other : Text.isNameChar d = false) (dot : d ≠ '.') : d ∉ name := by
  intro mem
  rcases h.mem d mem with named | same
  · rw [named] at other
    cases other
  · exact dot same

theorem escapeString_eq_self (feed : '\n' ∉ s) (quote : '"' ∉ s) (backslash : '\\' ∉ s) :
    escapeString s = s := by
  induction s with
  | nil => rfl
  | cons c rest ih =>
    simp only [List.mem_cons, not_or] at feed quote backslash
    have special : ¬ (c = '"' ∨ c = '\\') := by
      rintro (rfl | rfl)
      · exact quote.1 rfl
      · exact backslash.1 rfl
    rw [escapeString, if_neg (Ne.symm feed.1), if_neg special, ih feed.2 quote.2 backslash.2]

end

/-! ## Reading one token -/

/-- The text is over, or a blank comes next. -/
def Ends (after : Text) : Prop :=
  ∀ c ∈ after.head?, c = ' '

theorem Ends.nil : Ends [] := nofun

theorem Ends.cases {after : Text} (h : Ends after) : after = [] ∨ ∃ rest, after = ' ' :: rest := by
  cases after with
  | nil => exact .inl rfl
  | cons c rest =>
    obtain rfl : c = ' ' := h c rfl
    exact .inr ⟨rest, rfl⟩

variable {after s digits name : Text} {c : Char}

theorem takeWhile_isDigit (all : ∀ d ∈ digits, d.isDigit = true) (ends : Ends after) :
    (digits ++ after).takeWhile Char.isDigit = digits ∧
      (digits ++ after).dropWhile Char.isDigit = after := by
  rw [List.takeWhile_append_of_pos all, List.dropWhile_append_of_pos all]
  rcases ends.cases with rfl | ⟨rest, rfl⟩
  · exact ⟨List.append_nil digits, rfl⟩
  · exact ⟨List.append_nil digits, rfl⟩

/-- Digits are an integer where neither a fraction nor a base follows. -/
theorem number_digits {first : Char} (all : ∀ d ∈ digits, d.isDigit = true) (ends : Ends after) :
    number first (digits ++ after) = (.int (intOfDigits 10 (first :: digits)), after) := by
  obtain ⟨taken, left⟩ := takeWhile_isDigit all ends
  have head : ∀ d ∈ (digits ++ after).head?, d.isDigit = true ∨ d = ' ' := by
    intro d mem
    cases digits with
    | nil => exact .inr (ends d mem)
    | cons e others =>
      cases mem
      exact .inl (all d List.mem_cons_self)
  unfold number
  split
  · rename_i hex base
    exact absurd (head 'x' (base ▸ rfl)) (by decide)
  · rename_i hex base
    exact absurd (head 'X' (base ▸ rfl)) (by decide)
  · dsimp only
    rw [taken, left]
    rcases ends.cases with rfl | ⟨rest, rfl⟩ <;> rfl

theorem string_escapeString (s after : Text) :
    string '"' (escapeString s ++ '"' :: after) = (s, after) := by
  induction s with
  | nil => rw [escapeString, List.nil_append, string, if_pos rfl] <;> simp
  | cons c rest ih =>
    by_cases feed : c = '\n'
    · subst feed
      rw [escapeString, if_pos rfl, List.cons_append, List.cons_append, string, ih]
      rfl
    by_cases marked : c = '"' ∨ c = '\\'
    · rw [escapeString, if_neg feed, if_pos marked, List.cons_append, List.cons_append, string, ih]
      have same : unescape c = c := by rcases marked with rfl | rfl <;> rfl
      dsimp only
      rw [same]
    · obtain ⟨quote, backslash⟩ := not_or.mp marked
      rw [escapeString, if_neg feed, if_neg marked, List.cons_append, string, if_neg quote, ih]
      all_goals simp [feed, backslash]

theorem identTail_of_isNameTail (h : IsNameTail s) (ends : Ends after) :
    identTail (s ++ after) = (s, after) := by
  unfold identTail
  induction h with
  | nil => rcases ends.cases with rfl | ⟨rest, rfl⟩ <;> rfl
  | char named _ ih =>
    rw [List.cons_append, Text.dottedTail, named, Bool.true_or, if_pos rfl, ih]
  | @dot c rest opens _ ih =>
    have joined : (Text.isNameChar '.' || ('.' = '.' &&
        (c :: (rest ++ after)).head?.any fun c => isAlphabetic c || c = '_')) = true := by
      simpa using Or.inr opens
    rw [List.cons_append, List.cons_append, Text.dottedTail, if_pos joined, ← List.cons_append, ih]

theorem startingWith_digit (digit : c.isDigit = true) (rest : Text) :
    startingWith c rest = number c rest :=
  if_pos digit

theorem startingWith_quote (s after : Text) :
    startingWith '"' (escapeString s ++ '"' :: after) = (.str s, after) := by
  rw [startingWith, if_neg (by decide), if_pos (by decide), string_escapeString]

theorem startingWith_name (starts : (isAlphabetic c || c = '_') = true) (rest : Text) :
    startingWith c rest = (.ident (c :: (identTail rest).1), (identTail rest).2) := by
  have digit : ¬ c.isDigit = true := by
    intro digit
    rw [isAlphabetic_eq_false_of_isDigit digit, Bool.false_or, decide_eq_true_eq] at starts
    subst starts
    cases digit
  have quote : ¬ (c = '"' || c = '\'') = true := by
    simp only [Bool.or_eq_true, decide_eq_true_eq]
    rintro (rfl | rfl) <;> cases starts
  rw [startingWith, if_neg digit, if_neg quote, if_pos starts]

theorem intOfDigits_ofNat {n : Int64} {k : Nat} (value : n.toInt = k) :
    intOfDigits 10 (Text.ofNat k) = n := by
  rw [intOfDigits, Number.ofDigits_ofNat, ← value, Number.int64?_toInt, Option.getD_some]

theorem startingWith_ends {rest : Text} {t : Token} (atEnd : startingWith c rest = (t, []))
    (atBlank : ∀ more, startingWith c (rest ++ ' ' :: more) = (t, ' ' :: more))
    (ends : Ends after) : startingWith c (rest ++ after) = (t, after) := by
  rcases ends.cases with rfl | ⟨more, rfl⟩
  · rw [List.append_nil, atEnd]
  · exact atBlank more

/-- A written token is read back, and nothing of what is behind it is taken. -/
theorem startingWith_written {t : Token} (plain : t.IsPlain) (ends : Ends after) :
    ∃ c rest, t.written = c :: rest ∧ isBlank c = false ∧
      startingWith c (rest ++ after) = (t, after) := by
  cases t with
  | int n =>
    obtain ⟨k, value⟩ := Int.eq_ofNat_of_zero_le plain
    obtain ⟨c, digits, same⟩ := List.exists_cons_of_ne_nil (Nat.toDigits_ne_nil (b := 10) (n := k))
    replace same : Text.ofNat k = c :: digits := same
    obtain ⟨digit, all⟩ : c.isDigit = true ∧ ∀ d ∈ digits, d.isDigit = true :=
      List.forall_mem_cons.mp fun d mem => Number.isDigit_of_mem_ofNat (same ▸ mem)
    have spelled : (int n).written = Text.ofNat k := congrArg Text.ofInt value
    refine ⟨c, digits, spelled.trans same, Text.isBlank_eq_false_of_isDigit digit, ?_⟩
    rw [startingWith_digit digit, number_digits all ends, ← same, intOfDigits_ofNat value]
  | float | unknown => cases plain
  | str s =>
    refine ⟨'"', escapeString s ++ ['"'], rfl, rfl, ?_⟩
    rw [List.append_assoc, List.singleton_append, startingWith_quote]
  | ident name =>
    obtain ⟨c, rest, rfl, starts, tail⟩ := plain
    have visible := Text.isBlank_eq_false_of_isNameChar (isNameChar_of_starts starts)
    refine ⟨c, rest, rfl, visible, ?_⟩
    rw [startingWith_name starts, identTail_of_isNameTail tail ends]
  | _ => exact ⟨_, _, rfl, rfl, startingWith_ends rfl (fun _ => rfl) ends⟩

/-! ## Reading a list of tokens -/

theorem ofText_eq_nil (blank : s.trimStart = []) : ofText s = [] := by
  rw [ofText]
  split
  · rfl
  · rename_i starts
    rw [blank] at starts
    cases starts

@[simp] theorem ofText_nil : ofText [] = [] :=
  ofText_eq_nil rfl

theorem ofText_eq_cons {s rest after : Text} {c : Char} {t : Token}
    (starts : s.trimStart = c :: rest) (first : startingWith c rest = (t, after)) :
    ofText s = t :: ofText after := by
  rw [ofText]
  split
  · rename_i none
    rw [starts] at none
    cases none
  · rename_i c' rest' starts'
    rw [starts] at starts'
    cases starts'
    rw [first]

theorem ofText_singleton {s rest : Text} {c : Char} {t : Token} (starts : s.trimStart = c :: rest)
    (first : startingWith c rest = (t, [])) : ofText s = [t] := by
  rw [ofText_eq_cons starts first, ofText_nil]

theorem ofText_of_first {rest : Text} {t : Token} (visible : isBlank c = false)
    (first : startingWith c rest = (t, after)) : ofText (c :: rest) = t :: ofText after :=
  ofText_eq_cons (List.dropWhile_cons_of_neg (by simp [visible])) first

theorem ofText_blank (blank : isBlank c = true) (s : Text) : ofText (c :: s) = ofText s := by
  have skipped : Text.trimStart (c :: s) = s.trimStart := List.dropWhile_cons_of_pos blank
  cases starts : s.trimStart with
  | nil => rw [ofText_eq_nil (skipped.trans starts), ofText_eq_nil starts]
  | cons d rest => rw [ofText_eq_cons (skipped.trans starts) rfl, ofText_eq_cons starts rfl]

theorem ofText_written_append {t : Token} (plain : t.IsPlain) (ends : Ends after) :
    ofText (t.written ++ after) = t :: ofText after := by
  obtain ⟨c, rest, same, visible, first⟩ := startingWith_written plain ends
  rw [same, List.cons_append, ofText_of_first visible first]

theorem ofText_name (h : IsDottedName name) : ofText name = [.ident name] := by
  have read : ofText (name ++ []) = _ := ofText_written_append (t := .ident name) h .nil
  rwa [List.append_nil, ofText_nil] at read

/-- Tokens that are written with a blank between each two of them are read back, and nothing
else. -/
theorem ofText_written {tokens : List Token} (plain : ∀ t ∈ tokens, t.IsPlain) :
    ofText (Text.join [' '] (tokens.map written)) = tokens := by
  induction tokens with
  | nil => exact ofText_nil
  | cons t tokens ih =>
    obtain ⟨first, others⟩ := List.forall_mem_cons.mp plain
    cases tokens with
    | nil =>
      have read := ofText_written_append first .nil
      rw [List.append_nil, ofText_nil] at read
      rw [List.map_singleton, Text.join_singleton, read]
    | cons u tokens =>
      have blank : Ends (' ' :: Text.join [' '] ((u :: tokens).map written)) := by
        rintro _ ⟨⟩
        rfl
      rw [List.map_cons, List.map_cons, Text.join_cons_cons, ← List.map_cons,
        ofText_written_append first blank, ofText_blank rfl, ih others]

/-- Neighbours that would be read as one without the blank, and a string of special characters. -/
def awkward : List Token :=
  [.int 0, .ident ['x'], .int Int64.maxValue, .ident "_a.b2".toList, .bang, .eq, .slash,
    .str ['"', '\\', '\n', ' '], .le]

theorem ofText_written_awkward :
    (∀ t ∈ awkward, t.IsPlain) ∧
      ofText "0 x 9223372036854775807 _a.b2 ! == / \"\\\"\\\\\\n \" <=".toList = awkward := by
  have x : IsDottedName ['x'] := ⟨'x', [], rfl, rfl, .nil⟩
  have dotted : IsDottedName "_a.b2".toList :=
    ⟨'_', "a.b2".toList, rfl, rfl, .char rfl (.dot rfl (.char rfl (.char rfl .nil)))⟩
  have plain : ∀ t ∈ awkward, t.IsPlain := by
    simp only [awkward, List.forall_mem_cons]
    exact ⟨(by decide : 0 ≤ (0 : Int64).toInt), x, (by decide : 0 ≤ Int64.maxValue.toInt), dotted,
      trivial, trivial, trivial, trivial, trivial, nofun⟩
  have text : Text.join [' '] (awkward.map written) =
      "0 x 9223372036854775807 _a.b2 ! == / \"\\\"\\\\\\n \" <=".toList := by cbv
  exact ⟨plain, text ▸ ofText_written plain⟩

end Token

end LineTemplate
