import LineTemplate.Proofs.Lines.QuotedStatements
import Mathlib

/-!
# Spellings of a line

A line can be written in several ways under the default marks: with the long mark or the short one,
with a keyword in any mixture of upper and lower case, with blanks around it, and as a call of a
macro with or without the keyword. Such lines are read alike, as statements or as the same error.
-/

namespace LineTemplate

open Unicode

/-- A keyword or an alias of a directive in any mixture of upper and lower case. -/
def Directive.SpelledAs (kind : Directive) (keyword : Text) : Prop :=
  ∃ word ∈ kind.words, Text.sameIgnoringCase keyword word = true

namespace Directive.SpelledAs

variable {kind : Directive} {keyword : Text}

theorem ofWord?_eq (h : kind.SpelledAs keyword) : ofWord? keyword = some kind := by
  obtain ⟨word, listed, spelled⟩ := h
  exact ofWord?_spelled listed spelled

theorem isName (h : kind.SpelledAs keyword) : Text.isName keyword = true := by
  obtain ⟨word, listed, spelled⟩ := h
  exact isName_of_spelled listed spelled

theorem of_word (listed : keyword ∈ kind.words) : kind.SpelledAs keyword :=
  ⟨keyword, listed, decide_eq_true rfl⟩

theorem of_ofWord? (h : ofWord? keyword = some kind) : kind.SpelledAs keyword := by
  have matched := List.find?_some h
  exact List.any_eq_true.mp matched

end Directive.SpelledAs

/-- A line with a directive in its short form. -/
def Template.shortDirective (keyword argument : Text) : Text :=
  '_' :: (keyword ++ ' ' :: argument)

namespace Statement

inductive Kind where
  | literal
  | directive (kind : Directive)
  | cursor (op : CursorOp)
  deriving DecidableEq

def kind (s : Statement) : Kind :=
  match s.content with
  | .literal => .literal
  | .directive kind _ _ => .directive kind
  | .cursor op _ _ => .cursor op

/-- Statements that say the same. -/
structure Alike (s s' : Statement) : Prop where
  kind : s.kind = s'.kind
  object : s.object? = s'.object?
  expression : s.expression? = s'.expression?

variable {isMacro : Text → Bool} {word keyword argument raw raw' m : Text} {content : Content}

theorem alike_of_content (directs : content ≠ .literal) : Alike ⟨raw, content⟩ ⟨raw', content⟩ := by
  cases content with
  | literal => exact absurd rfl directs
  | directive => exact ⟨rfl, rfl, rfl⟩
  | cursor => exact ⟨rfl, rfl, rfl⟩

theorem alike_of_trim (same : raw.trim = raw'.trim) : Alike ⟨raw, content⟩ ⟨raw', content⟩ := by
  cases content with
  | literal => exact ⟨rfl, rfl, congrArg Text.nonempty? same⟩
  | directive => exact ⟨rfl, rfl, rfl⟩
  | cursor => exact ⟨rfl, rfl, rfl⟩

/-! ## Keywords and names of macros -/

/-- What a line says behind the mark, when its first word is a keyword or else calls a macro. -/
def saying (keyword argument : Text) : Except SyntaxFault Content :=
  match Directive.ofWord? keyword with
  | some kind => directiveContent kind argument
  | none => .ok (.directive .call (some keyword) argument.nonempty?)

theorem directiveContent_ne_literal {kind : Directive} :
    directiveContent kind argument ≠ .ok .literal := by
  intro same
  unfold directiveContent at same
  dsimp only at same
  split at same
  · split at same
    · cases same
    · split at same <;> cases same
  · split at same <;> cases same

theorem saying_ne_literal : saying keyword argument ≠ .ok .literal := by
  intro same
  rw [saying] at same
  split at same
  · exact directiveContent_ne_literal same
  · cases same

theorem saying_alike (keyword argument raw raw' : Text) :
    Matches Alike ((saying keyword argument).map (Statement.mk raw))
      ((saying keyword argument).map (Statement.mk raw')) := by
  cases said : saying keyword argument with
  | error e => exact .error e
  | ok content => exact .ok (alike_of_content fun same => saying_ne_literal (same ▸ said))

theorem classify_spaced (nonempty : word ≠ []) (unbroken : ∀ c ∈ word, isBlank c = false)
    (ind : Indicators) (isMacro : Text → Bool) (rest : Text) :
    classify ind isMacro (word ++ ' ' :: rest) =
      (contentOf ind isMacro word rest.trim).map (Statement.mk (word ++ ' ' :: rest)) := by
  have split := Text.splitWord_trim nonempty unbroken rest
  have some : ¬ (word ++ ' ' :: rest).trim.isEmpty = true := by
    intro empty
    rw [List.isEmpty_iff.mp empty] at split
    exact nonempty (congrArg Prod.fst split).symm
  rw [classify_eq, contentOfTrimmed, if_neg some, split]

/-- A word that is a keyword, or the name of a macro. -/
def Known (isMacro : Text → Bool) (keyword : Text) : Prop :=
  (∃ kind : Directive, kind.SpelledAs keyword) ∨ isMacro keyword = true

theorem Known.isName (known : Known isMacro keyword)
    (names : ∀ m, isMacro m = true → Text.isName m = true) : Text.isName keyword = true := by
  rcases known with ⟨kind, spelled⟩ | isCall
  · exact spelled.isName
  · exact names keyword isCall

theorem Marks.saying (marks : Marks {} word keyword) (known : Known isMacro keyword)
    (named : Text.isName keyword = true) :
    contentOf {} isMacro word argument = saying keyword argument := by
  rw [Statement.saying]
  split
  · exact marks.directive ‹_›
  · rename_i free
    rcases known with ⟨kind, spelled⟩ | isCall
    · cases free.symm.trans spelled.ofWord?_eq
    · exact marks.call named free isCall

theorem splitObject_trim (named : Text.isName m = true) (rest : Text) :
    splitObject (m ++ ' ' :: rest).trim = .ok (m, rest.trim) := by
  have unbroken := Text.isBlank_eq_false_of_isName named
  have split := Text.splitWord_trim (Text.ne_nil_of_isName named) unbroken rest
  have first : (m ++ ' ' :: rest).trim.takeWhile (!isBlank ·) = m := congrArg Prod.fst split
  have unquoted : (m ++ ' ' :: rest).trim.head? ≠ some '"' := by
    have whole := List.takeWhile_append_dropWhile (p := (!isBlank ·)) (l := (m ++ ' ' :: rest).trim)
    rw [← whole, first]
    exact head?_ne_quote named _
  rw [splitObject_of_unquoted unquoted, split]

/-- With the keyword in front, the name of the macro is the object. -/
theorem saying_call (named : Text.isName m = true) (free : ∀ kind : Directive, ¬ kind.SpelledAs m)
    (rest : Text) : saying "CALL".toList (m ++ ' ' :: rest).trim = saying m rest.trim := by
  have call : Directive.ofWord? "CALL".toList = some .call :=
    Directive.ofWord?_word (show "CALL".toList ∈ Directive.call.words from List.mem_cons_self)
  have other : Directive.ofWord? m = none := by
    cases found : Directive.ofWord? m with
    | none => rfl
    | some kind => exact absurd (.of_ofWord? found) (free kind)
  have hasObject : Directive.call.description.hasObject = true := rfl
  rw [saying, call]
  dsimp only
  rw [directiveContent, if_pos hasObject, splitObject_trim named]
  dsimp only
  rw [if_neg (Bool.eq_false_iff.mp (Text.isEmpty_of_isName named)), saying, other]

/-! ## Blanks -/

/-- Blanks in front of a line count as its indentation. Those behind it do only if there is nothing
between them. -/
theorem length_indentation_surrounded {front back : Text} (blank : ∀ c ∈ front, isBlank c = true)
    (blank' : ∀ c ∈ back, isBlank c = true) (line : Text) :
    ((front ++ (line ++ back)).takeWhile isBlank).length =
      front.length + (line.takeWhile isBlank).length +
        if line.trim = [] then back.length else 0 := by
  rw [List.takeWhile_append_of_pos blank, List.length_append, Nat.add_assoc]
  congr 1
  by_cases empty : line.trim = []
  · have all := Text.trim_eq_nil_iff.mp empty
    rw [if_pos empty, List.takeWhile_append_of_pos all, List.takeWhile_eq_self_iff.mpr all,
      List.takeWhile_eq_self_iff.mpr blank', List.length_append]
  · have stops : (line.takeWhile isBlank).length ≠ line.length := by
      intro whole
      have all := (List.takeWhile_prefix isBlank).eq_of_length whole
      exact empty (Text.trim_eq_nil_iff.mpr (List.takeWhile_eq_self_iff.mp all))
    rw [if_neg empty, List.takeWhile_append, if_neg stops, Nat.add_zero]

theorem surrounded_alike {front back : Text} (blank : ∀ c ∈ front, isBlank c = true)
    (blank' : ∀ c ∈ back, isBlank c = true) (ind : Indicators) (isMacro : Text → Bool)
    (line : Text) : Matches
      (fun s s' => s.Alike s' ∧
        s.indent = front.length + s'.indent + if line.trim = [] then back.length else 0)
      (classify ind isMacro (front ++ (line ++ back))) (classify ind isMacro line) := by
  have same : (front ++ (line ++ back)).trim = line.trim := by
    rw [Text.trim_blanks_append blank, Text.trim_append_blanks blank']
  rw [classify_eq, classify_eq, same]
  exact .maps _ fun _ => ⟨alike_of_trim same, length_indentation_surrounded blank blank' line⟩

section

variable (names : ∀ m, isMacro m = true → Text.isName m = true)

include names

theorem classify_long (known : Known isMacro keyword) (rest : Text) :
    classify {} isMacro (Template.directive keyword rest) =
      (saying keyword rest.trim).map (Statement.mk (Template.directive keyword rest)) := by
  have named := known.isName names
  have unbroken : ∀ c ∈ '_' :: '#' :: keyword, isBlank c = false :=
    List.forall_mem_cons.mpr ⟨rfl, List.forall_mem_cons.mpr
      ⟨rfl, Text.isBlank_eq_false_of_isName named⟩⟩
  have line := classify_spaced (List.cons_ne_nil _ _) unbroken {} isMacro rest
  rw [(Marks.long keyword).saying known named] at line
  exact line

theorem classify_short (known : Known isMacro keyword) (rest : Text) :
    classify {} isMacro (Template.shortDirective keyword rest) =
      (saying keyword rest.trim).map (Statement.mk (Template.shortDirective keyword rest)) := by
  have named := known.isName names
  have unbroken : ∀ c ∈ '_' :: keyword, isBlank c = false :=
    List.forall_mem_cons.mpr ⟨rfl, Text.isBlank_eq_false_of_isName named⟩
  have line := classify_spaced (List.cons_ne_nil _ _) unbroken {} isMacro rest
  rw [(Marks.short named).saying known named] at line
  exact line

/-- The long mark and the short one are read alike. -/
theorem long_short_alike (known : Known isMacro keyword) (rest : Text) :
    Matches Alike (classify {} isMacro (Template.directive keyword rest))
      (classify {} isMacro (Template.shortDirective keyword rest)) := by
  rw [classify_long names known, classify_short names known]
  exact saying_alike keyword rest.trim _ _

theorem respelled_alike {kind : Directive} (listed : word ∈ kind.words)
    (spelled : Text.sameIgnoringCase keyword word = true) (rest : Text) :
    Matches Alike (classify {} isMacro (Template.directive keyword rest))
        (classify {} isMacro (Template.directive word rest)) ∧
      Matches Alike (classify {} isMacro (Template.shortDirective keyword rest))
        (classify {} isMacro (Template.shortDirective word rest)) := by
  have known : Known isMacro keyword := .inl ⟨kind, word, listed, spelled⟩
  have known' : Known isMacro word := .inl ⟨kind, .of_word listed⟩
  have same : saying keyword rest.trim = saying word rest.trim := by
    rw [saying, saying, Directive.ofWord?_spelled listed spelled, Directive.ofWord?_word listed]
  rw [classify_long names known, classify_long names known', classify_short names known,
    classify_short names known', same]
  exact ⟨saying_alike word rest.trim _ _, saying_alike word rest.trim _ _⟩

theorem call_alike (isCall : isMacro m = true) (free : ∀ kind : Directive, ¬ kind.SpelledAs m)
    (rest : Text) :
    Matches Alike (classify {} isMacro (Template.directive "CALL".toList (m ++ ' ' :: rest)))
        (classify {} isMacro (Template.directive m rest)) ∧
      Matches Alike (classify {} isMacro (Template.directive m rest))
        (classify {} isMacro (Template.shortDirective m rest)) := by
  have call : "CALL".toList ∈ Directive.call.words := List.mem_cons_self
  have known : Known isMacro "CALL".toList := .inl ⟨.call, .of_word call⟩
  have known' : Known isMacro m := .inr isCall
  refine ⟨?_, long_short_alike names known' rest⟩
  rw [classify_long names known, classify_long names known',
    saying_call (names m isCall) free rest]
  exact saying_alike m rest.trim _ _

/-- All spellings of a line are read alike. Blanks in front of a line make its indentation longer by
their number; blanks behind it do so only if the line has nothing else. -/
theorem classify_alike :
    (∀ keyword rest, Known isMacro keyword →
      Matches Alike (classify {} isMacro (Template.directive keyword rest))
        (classify {} isMacro (Template.shortDirective keyword rest))) ∧
    (∀ kind : Directive, ∀ word ∈ kind.words, ∀ keyword rest,
      Text.sameIgnoringCase keyword word = true →
        Matches Alike (classify {} isMacro (Template.directive keyword rest))
            (classify {} isMacro (Template.directive word rest)) ∧
          Matches Alike (classify {} isMacro (Template.shortDirective keyword rest))
            (classify {} isMacro (Template.shortDirective word rest))) ∧
    (∀ front line back : Text, (∀ c ∈ front, isBlank c = true) → (∀ c ∈ back, isBlank c = true) →
      Matches
        (fun s s' => s.Alike s' ∧
          s.indent = front.length + s'.indent + if line.trim = [] then back.length else 0)
        (classify {} isMacro (front ++ (line ++ back))) (classify {} isMacro line)) ∧
    (∀ m rest, isMacro m = true → (∀ kind : Directive, ¬ kind.SpelledAs m) →
      Matches Alike (classify {} isMacro (Template.directive "CALL".toList (m ++ ' ' :: rest)))
          (classify {} isMacro (Template.directive m rest)) ∧
        Matches Alike (classify {} isMacro (Template.directive m rest))
          (classify {} isMacro (Template.shortDirective m rest))) :=
  ⟨fun _ rest known => long_short_alike names known rest,
    fun _ _ listed _ rest spelled => respelled_alike names listed spelled rest,
    fun _ line _ blank blank' => surrounded_alike blank blank' {} isMacro line,
    fun _ rest isCall free => call_alike names isCall free rest⟩

end

/-- The name of the only macro. -/
def isGreet (m : Text) : Bool :=
  m = "greet".toList

/-- A directive without its object, a quoted object, blanks around a line, and a call. -/
theorem classify_alike_greet :
    Matches Alike (classify {} isGreet "_#Def ".toList) (classify {} isGreet "_Def ".toList) ∧
      Matches Alike (classify {} isGreet "_#Def \"a b\"  c".toList)
        (classify {} isGreet "_#DEF \"a b\"  c".toList) ∧
      Matches (fun s s' => s.Alike s' ∧ s.indent = 2 + s'.indent + 0)
        (classify {} isGreet " \t hello ".toList) (classify {} isGreet " hello".toList) ∧
      Matches Alike (classify {} isGreet "_#CALL greet  a ".toList)
        (classify {} isGreet "_#greet  a ".toList) ∧
      Matches Alike (classify {} isGreet "_#greet  a ".toList)
        (classify {} isGreet "_greet  a ".toList) := by
  have names : ∀ m, isGreet m = true → Text.isName m = true := by
    intro m same
    rw [of_decide_eq_true same]
    decide
  have free : ∀ kind : Directive, ¬ kind.SpelledAs "greet".toList := by
    intro kind spelled
    cases spelled.ofWord?_eq.symm.trans (show Directive.ofWord? "greet".toList = none by decide)
  have listed : "DEF".toList ∈ Directive.define.words := by decide
  have spelled : Text.sameIgnoringCase "Def".toList "DEF".toList = true := by decide
  have blank : ∀ c ∈ [' ', '\t'], isBlank c = true :=
    List.forall_mem_cons.mpr ⟨rfl, List.forall_mem_singleton.mpr rfl⟩
  have blank' : ∀ c ∈ [' '], isBlank c = true := List.forall_mem_singleton.mpr rfl
  obtain ⟨forms, respelled, surrounded, calls⟩ := classify_alike names
  have unnamed := forms "Def".toList [] (.inl ⟨.define, _, listed, spelled⟩)
  have quoted := (respelled .define _ listed "Def".toList "\"a b\"  c".toList spelled).1
  have hello := surrounded [' ', '\t'] " hello".toList [' '] blank blank'
  have greeted := calls "greet".toList " a ".toList rfl free
  exact ⟨unnamed, quoted, hello, greeted⟩

/-- On a line of blanks, those behind it count as well. -/
theorem indent_grows_behind : ¬ ∀ isMacro : Text → Bool,
    (∀ m, isMacro m = true → Text.isName m = true) → ∀ front line back : Text,
      (∀ c ∈ front, isBlank c = true) → (∀ c ∈ back, isBlank c = true) →
        Matches (fun s s' => s.Alike s' ∧ s.indent = front.length + s'.indent)
          (classify {} isMacro (front ++ (line ++ back))) (classify {} isMacro line) := by
  intro grows
  have grown := grows (fun _ => false) (fun _ => nofun) [] [] [' '] (fun _ => nofun)
    (List.forall_mem_singleton.mpr rfl)
  have blank : classify {} (fun _ => false) [' '] = .ok ⟨[' '], .literal⟩ := rfl
  have empty : classify {} (fun _ => false) [] = .ok ⟨[], .literal⟩ := rfl
  rw [List.nil_append, List.nil_append, blank, empty] at grown
  cases grown with
  | ok related => cases related.2

end Statement

end LineTemplate
