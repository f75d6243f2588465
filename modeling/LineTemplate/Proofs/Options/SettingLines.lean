import LineTemplate.Options.Profile
import LineTemplate.Proofs.Lines.BareWords
import LineTemplate.Proofs.Options.Validity
import Mathlib

/-!
# Lines that set a variable

A line of a settings file has three ways to set a variable: `/set name value`, `/set name=value` and
`name = value`. All of them agree on a value of one word. The first and the third take a value of
several words as it stands; the second takes the first word, and the others are lost.
-/

namespace LineTemplate

open Unicode

namespace Config

/-- The names of the options. -/
def optionNames : List Text :=
  ["meta_indicator".toList, "meta_command_indicator".toList, "cursor_open".toList,
    "cursor_close".toList, "cursor_query".toList, "cursor_select".toList, "strict".toList,
    "max_depth".toList, "include_path".toList]

theorem mem_optionNames (field : Field) : field.name ∈ optionNames := by
  cases field with
  | mark use => cases use <;> decide
  | strict => decide
  | maxDepth => decide
  | includeDirs => decide

/-- No other name is that of an option, whatever the value. -/
theorem run_update_of_not_mem {name : Text} (free : name ∉ optionNames) (config : Config)
    (value : Text) : (update name value).run config = .ok false config := by
  rcases named_or_run_update config name value with ⟨field, rfl⟩ | unset
  · exact absurd (mem_optionNames field) free
  · exact unset

end Config

namespace Profile

/-- The profile in which nothing but one variable is set. -/
def ofVariable (name value : Text) : Profile :=
  { settings := ({} : Settings).set name value }

/-- The line `/set name value`. -/
def setWords (name value : Text) : Text :=
  "/set".toList ++ ' ' :: (name ++ ' ' :: value)

/-- The line `/set name=value`. -/
def setEquals (name value : Text) : Text :=
  "/set".toList ++ ' ' :: (name ++ '=' :: value)

/-- The line `name = value`. -/
def assignment (name value : Text) : Text :=
  name ++ ' ' :: ('=' :: ' ' :: value)

section

variable {name value first : Text} {words rest : List Text}

theorem get?_ofVariable (name value : Text) :
    (ofVariable name value).settings.get? name = some value := by
  rw [ofVariable, Settings.get?, Settings.set, Bindings.get?_insert, if_pos rfl]

theorem ofVariable_inj {other : Text} :
    ofVariable name value = ofVariable name other ↔ value = other := by
  constructor
  · intro same
    have known := congrArg (fun p : Profile => p.settings.get? name) same
    rw [get?_ofVariable, get?_ofVariable] at known
    exact Option.some.inj known
  · rintro rfl
    rfl

/-! ## What stands in a line -/

theorem readSet_words (named : Text.isName name = true) (some : words ≠ [])
    (bare : ∀ s ∈ words, s.IsBare) :
    readSet (name ++ ' ' :: Text.join [' '] words) = .ok (name, Text.join [' '] words) := by
  obtain ⟨first, rest, rfl⟩ := List.exists_cons_of_ne_nil some
  have all : ∀ s ∈ name :: first :: rest, s.IsBare :=
    List.forall_mem_cons.mpr ⟨.of_isName named, bare⟩
  have noEquals : '=' ∉ name := Text.not_mem_of_isName named (by decide)
  rw [readSet, ← Text.join_cons_cons, Arguments.tokenize_join all]
  dsimp only
  rw [Text.splitOnce?_eq_none noEquals]
  dsimp only
  rw [if_neg (Bool.eq_false_iff.mp (Text.isEmpty_of_isName named))]

/-- The name, the equals sign and the first word of the value are one word. -/
theorem readSet_equals (named : Text.isName name = true) (bare : ∀ s ∈ first :: rest, s.IsBare) :
    readSet (name ++ '=' :: Text.join [' '] (first :: rest)) = .ok (name, first) := by
  obtain ⟨here, others⟩ := List.forall_mem_cons.mp bare
  have one : (name ++ '=' :: first).IsBare :=
    (Text.IsBare.of_isName named).append here (by decide) (by decide)
  have attached : name ++ '=' :: Text.join [' '] (first :: rest) =
      Text.join [' '] ((name ++ '=' :: first) :: rest) := by
    cases rest with
    | nil => rw [Text.join_singleton, Text.join_singleton]
    | cons t rest => simp [Text.join_cons_cons]
  have split : Text.splitOnce? '=' (name ++ '=' :: first) = some (name, first) :=
    Text.splitOnce?_eq_some_iff.mpr ⟨rfl, Text.not_mem_of_isName named (by decide)⟩
  rw [readSet, attached, Arguments.tokenize_join (List.forall_mem_cons.mpr ⟨one, others⟩)]
  dsimp only
  rw [split]
  dsimp only
  rw [if_neg (Bool.eq_false_iff.mp (Text.isEmpty_of_isName named))]

theorem readAssignment_assignment (named : Text.isName name = true) (tight : value.Tight) :
    readAssignment (assignment name value) = .ok (name, value) := by
  have noEquals : '=' ∉ name ++ [' '] := by
    rw [List.mem_append, not_or]
    exact ⟨Text.not_mem_of_isName named (by decide), by decide⟩
  have split : Text.splitOnce? '=' (assignment name value) = some (name ++ [' '], ' ' :: value) :=
    Text.splitOnce?_eq_some_iff.mpr ⟨by simp [assignment], noEquals⟩
  have before : (name ++ [' ']).trim = name :=
    Text.trim_append_gap (.of_isName named) Text.isGap_space
  have after : Text.trim (' ' :: value) = value := Text.isGap_space.trim_append tight
  rw [readAssignment, split]
  dsimp only
  rw [before, after, if_neg (Bool.eq_false_iff.mp (Text.isEmpty_of_isName named))]

/-- A line that is neither blank nor a comment. -/
theorem readLine_eq {line : Text} (tight : line.Tight)
    (code : ∀ c ∈ line.head?, c ≠ ';' ∧ c ≠ '#') :
    readLine line = match Text.stripPrefix? "/set".toList line with
      | some rest =>
        if rest.isEmpty || rest.head?.any isBlank then (readSet rest.trim).map some
        else (readAssignment line).map some
      | none => (readAssignment line).map some := by
  rw [readLine, tight.trim]
  split
  · exact absurd rfl tight.nonempty
  · exact absurd rfl (code ';' rfl).1
  · exact absurd rfl (code '#' rfl).2
  · rfl

theorem alone_set : Text.Alone "/set".toList := by
  have letters : "/set".toList = '/' :: ['s', 'e', 't'] := rfl
  have unbroken : ∀ c ∈ '/' :: ['s', 'e', 't'], isBlank c = false :=
    List.forall_mem_cons.mpr ⟨by decide, Text.isBlank_eq_false_of_isName rfl⟩
  rw [letters]
  exact ⟨.of_unbroken (by decide) unbroken, by decide⟩

theorem readLine_set {arguments : Text} (tight : arguments.Tight) :
    readLine ("/set".toList ++ ' ' :: arguments) = (readSet arguments).map some := by
  have rest : Text.stripPrefix? "/set".toList ("/set".toList ++ ' ' :: arguments) =
      some (' ' :: arguments) := Text.stripPrefix?_eq_some_iff.mpr rfl
  have code : ∀ c ∈ ("/set".toList ++ ' ' :: arguments).head?, c ≠ ';' ∧ c ≠ '#' := by
    rintro c ⟨⟩
    decide
  have blank : ((' ' :: arguments).isEmpty || (' ' :: arguments).head?.any isBlank) = true := rfl
  have after : Text.trim (' ' :: arguments) = arguments := Text.isGap_space.trim_append tight
  rw [readLine_eq (alone_set.tight.append tight ' ') code, rest]
  dsimp only
  rw [after, if_pos blank]

theorem readLine_assignment (named : Text.isName name = true) (tight : value.Tight) :
    readLine (assignment name value) = .ok (some (name, value)) := by
  have whole : (assignment name value).Tight :=
    (Text.Tight.of_isName named).around tight [' ', '=', ' ']
  have read := readAssignment_assignment named tight
  obtain ⟨c, after, rfl, -⟩ := Text.isName_iff.mp named
  have letter : Text.isNameChar c = true := Text.isNameChar_of_isName named c List.mem_cons_self
  have other {d : Char} (mark : Text.isNameChar d = false) : c ≠ d := by
    rintro rfl
    rw [letter] at mark
    cases mark
  have code : ∀ d ∈ (assignment (c :: after) value).head?, d ≠ ';' ∧ d ≠ '#' := by
    rintro d ⟨⟩
    exact ⟨other (by decide), other (by decide)⟩
  have noSet : Text.stripPrefix? "/set".toList (assignment (c :: after) value) = none :=
    if_neg (other (by decide)).symm
  rw [readLine_eq whole code, noSet]
  dsimp only
  rw [read]
  rfl

/-! ## Texts of one line -/

theorem load_of_readLine {line : Text} (alone : line.Alone) (free : name ∉ Config.optionNames)
    (read : readLine line = .ok (some (name, value))) :
    load line = (ofVariable name value, []) := by
  have sets : (update name value).run {} = .ok () (ofVariable name value) := by
    rw [update, EStateM.run_bind, run_onConfig, Config.run_update_of_not_mem free]
    rfl
  have applied : (applyLine line).run {} = .ok () (ofVariable name value) := by
    rw [applyLine, read]
    dsimp only
    rw [EStateM.run_adaptExcept, sets]
  rw [load, Text.lines_of_alone alone, loadLines, applied]
  rfl

theorem load_setWords (named : Text.isName name = true) (free : name ∉ Config.optionNames)
    (some : words ≠ []) (bare : ∀ s ∈ words, s.IsBare) :
    load (setWords name (Text.join [' '] words)) =
      (ofVariable name (Text.join [' '] words), []) := by
  have arguments : (name ++ ' ' :: Text.join [' '] words).Alone :=
    (Text.Alone.of_isName named).append (Text.alone_join some bare) (by decide)
  refine load_of_readLine (alone_set.append arguments (by decide)) free ?_
  rw [setWords, readLine_set arguments.tight, readSet_words named some bare]
  rfl

theorem load_setEquals (named : Text.isName name = true) (free : name ∉ Config.optionNames)
    (bare : ∀ s ∈ first :: rest, s.IsBare) :
    load (setEquals name (Text.join [' '] (first :: rest))) = (ofVariable name first, []) := by
  have value := Text.alone_join (List.cons_ne_nil first rest) bare
  have arguments : (name ++ '=' :: Text.join [' '] (first :: rest)).Alone :=
    (Text.Alone.of_isName named).append value (by decide)
  refine load_of_readLine (alone_set.append arguments (by decide)) free ?_
  rw [setEquals, readLine_set arguments.tight, readSet_equals named bare]
  rfl

theorem load_assignment (named : Text.isName name = true) (free : name ∉ Config.optionNames)
    (alone : value.Alone) : load (assignment name value) = (ofVariable name value, []) := by
  have visible : ∀ c ∈ ['='], isBlank c = false := List.forall_mem_singleton.mpr (by decide)
  have equals : Text.Alone ['='] := ⟨.of_unbroken (by decide) visible, by decide⟩
  have behind : Text.Alone (['='] ++ ' ' :: value) := equals.append alone (by decide)
  have line : (assignment name value).Alone :=
    (Text.Alone.of_isName named).append behind (by decide)
  exact load_of_readLine line free (readLine_assignment named alone.tight)

/-- A line can set a variable in three ways, and none of them is reported. Behind the equals sign of
`/set` the first word of the value counts and no other, so that the three agree just when the value
has no other. -/
theorem load_spelled (named : Text.isName name = true) (free : name ∉ Config.optionNames)
    (bare : ∀ s ∈ first :: rest, s.IsBare) :
    load (setWords name (Text.join [' '] (first :: rest))) =
      (ofVariable name (Text.join [' '] (first :: rest)), []) ∧
    load (assignment name (Text.join [' '] (first :: rest))) =
      (ofVariable name (Text.join [' '] (first :: rest)), []) ∧
    load (setEquals name (Text.join [' '] (first :: rest))) = (ofVariable name first, []) ∧
    (ofVariable name first = ofVariable name (Text.join [' '] (first :: rest)) ↔ rest = []) :=
  have some := List.cons_ne_nil first rest
  ⟨load_setWords named free some bare, load_assignment named free (Text.alone_join some bare),
    load_setEquals named free bare, ofVariable_inj.trans Text.eq_join_iff⟩

/-- A value of two words, with an equals sign in the first one. -/
def income : List Text :=
  ["profit=loss".toList, "account".toList]

theorem bare_income : ∀ s ∈ income, s.IsBare := by
  have profit : Text.IsBare "profit".toList := .of_isName (by decide)
  have loss : Text.IsBare "loss".toList := .of_isName (by decide)
  have account : Text.IsBare "account".toList := .of_isName (by decide)
  have whole : "profit=loss".toList = "profit".toList ++ '=' :: "loss".toList := by decide
  rw [income, whole]
  exact List.forall_mem_cons.mpr
    ⟨profit.append loss (by decide) (by decide), List.forall_mem_singleton.mpr account⟩

/-- The second word of the value is lost behind the equals sign of `/set`. -/
theorem load_spelled_income :
    load "/set title profit=loss account".toList =
        (ofVariable "title".toList "profit=loss account".toList, []) ∧
      load "title = profit=loss account".toList =
        (ofVariable "title".toList "profit=loss account".toList, []) ∧
      load "/set title=profit=loss account".toList =
        (ofVariable "title".toList "profit=loss".toList, []) := by
  have named : Text.isName "title".toList = true := by decide
  have value : Text.join [' '] income = "profit=loss account".toList := by decide
  have line : setWords "title".toList "profit=loss account".toList =
      "/set title profit=loss account".toList := by decide
  have line' : assignment "title".toList "profit=loss account".toList =
      "title = profit=loss account".toList := by decide
  have line'' : setEquals "title".toList "profit=loss account".toList =
      "/set title=profit=loss account".toList := by decide
  obtain ⟨words, assigned, equals, -⟩ := load_spelled named (by decide) bare_income
  rw [← income, value] at words assigned equals
  rw [← line, ← line', ← line'']
  exact ⟨words, assigned, equals⟩

/-- The three ways to set a variable do not always agree. -/
theorem spellings_differ :
    ¬ ∀ (name : Text) (words : List Text), Text.isName name = true → name ∉ Config.optionNames →
      words ≠ [] → (∀ s ∈ words, s.IsBare) →
        ∃ p : Profile, p.settings.get? name = some (Text.join [' '] words) ∧
          load (setEquals name (Text.join [' '] words)) = (p, []) ∧
          load (setWords name (Text.join [' '] words)) = (p, []) ∧
          load (assignment name (Text.join [' '] words)) = (p, []) := by
  intro agree
  have annual : Text.IsBare "Annual".toList := .of_isName (by decide)
  have report : Text.IsBare "Report".toList := .of_isName (by decide)
  have bare : ∀ s ∈ ["Annual".toList, "Report".toList], Text.IsBare s :=
    List.forall_mem_cons.mpr ⟨annual, List.forall_mem_singleton.mpr report⟩
  have named : Text.isName "title".toList = true := by decide
  have free : "title".toList ∉ Config.optionNames := by decide
  obtain ⟨p, known, equals, -⟩ := agree _ _ named free (List.cons_ne_nil _ _) bare
  cases (load_setEquals named free bare).symm.trans equals
  rw [get?_ofVariable] at known
  exact absurd known (by decide)

end

end Profile

end LineTemplate
