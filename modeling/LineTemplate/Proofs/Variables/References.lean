import LineTemplate.Proofs.Blocks.Branches
import LineTemplate.Proofs.Expressions.Parsing
import LineTemplate.Proofs.Expressions.Tokens
import LineTemplate.Proofs.Lines.Segments
import LineTemplate.Proofs.Lines.Verbatim
import LineTemplate.Proofs.Variables.Persistence

/-!
# References

A name is read in three ways: behind the mark in text, in an expression, and as the word behind a
directive. A dotted name that is the whole of a reference is also one token of an expression and one
word of a line, so all three of them ask for the same variable.

So a line that tests the variable guards the references to it. Where the branch behind such a line
is live, the variable has a value, and it keeps one at the lines that follow.

Main statement: `references_agree`.
-/

namespace LineTemplate

open Unicode

/-- The call that asks whether a variable has a value. -/
def Template.definedCall (name : Text) : Text :=
  "defined(\"".toList ++ (name ++ "\")".toList)

variable {mark name s : Text} {vars : Lookup}

/-! ## Names that are read as a whole -/

theorem Text.isNameTail_of_dottedTail (whole : (dottedTail isAlphabetic s).2 = []) :
    Token.IsNameTail s := by
  induction s with
  | nil => exact .nil
  | cons c rest ih =>
    rw [dottedTail] at whole
    split at whole
    · rename_i named
      have further := ih whole
      rcases Bool.or_eq_true_iff.mp named with named | dot
      · exact .char named further
      · obtain ⟨rfl, d, starts, letter⟩ :
            c = '.' ∧ ∃ d, rest.head? = some d ∧ isAlphabetic d = true := by
          simpa [Option.any_eq_true] using dot
        obtain ⟨rest, rfl⟩ := List.head?_eq_some_iff.mp starts
        exact .dot (Bool.or_eq_true_iff.mpr (.inl letter)) further
    · cases whole

/-- What a reference takes for a name is one for expressions, too. -/
theorem Segment.isDottedName_of_readName? (named : readName? name = some (name, [])) :
    Token.IsDottedName name := by
  cases name with
  | nil => cases named
  | cons c rest =>
    rw [readName?] at named
    split at named
    · rename_i letter
      rw [Option.some.injEq, Prod.mk.injEq] at named
      exact ⟨c, rest, rfl, Bool.or_eq_true_iff.mpr (.inl letter),
        Text.isNameTail_of_dottedTail named.2⟩
    · cases named

namespace Token

theorem ofText_definedCall (h : IsDottedName name) : ofText (Template.definedCall name) =
    [.ident "defined".toList, .lparen, .str name, .rparen] := by
  have plain : escapeString name = name :=
    escapeString_eq_self (h.not_mem rfl (by decide)) (h.not_mem rfl (by decide))
      (h.not_mem rfl (by decide))
  have string : startingWith '"' (name ++ '"' :: [')']) = (.str name, [')']) := by
    rw [← startingWith_quote, plain]
  have call : startingWith 'd' ("efined".toList ++ '(' :: '"' :: (name ++ '"' :: [')'])) =
      (.ident "defined".toList, '(' :: '"' :: (name ++ '"' :: [')'])) := by rfl
  rw [show Template.definedCall name =
      'd' :: ("efined".toList ++ '(' :: '"' :: (name ++ '"' :: [')'])) from rfl,
    ofText_of_first rfl call, ofText_of_first (t := .lparen) rfl rfl, ofText_of_first rfl string,
    ofText_of_first (t := .rparen) rfl rfl, ofText_nil]

end Token

/-! ## The three readers -/

theorem Text.not_prefix_shifted {a c : Char} (other : a ≠ c) (s rest : Text) :
    ¬ c :: s <+: s ++ a :: rest := by
  induction s generalizing c with
  | nil =>
    intro h
    exact other (List.cons_prefix_cons.mp h).1.symm
  | cons d s ih =>
    intro h
    obtain ⟨rfl, h⟩ := List.cons_prefix_cons.mp h
    exact ih other h

/-- The mark and a name are a reference and nothing else, even if the mark starts with a
backslash. -/
theorem Segment.listOf_reference (nonempty : mark ≠ [])
    (named : readName? name = some (name, [])) : listOf mark (mark ++ name) = [reference name] := by
  obtain ⟨c, after, rfl, letter, -⟩ := isDottedName_of_readName? named
  obtain ⟨m, ms, rfl⟩ := List.exists_cons_of_ne_nil nonempty
  have unescaped :
      (if m = '\\' then Text.stripPrefix? (m :: ms) (ms ++ c :: after) else none) = none := by
    split
    · rename_i backslash
      subst backslash
      have other : c ≠ '\\' := by
        rintro rfl
        cases letter
      exact Text.stripPrefix?_eq_none_iff.mpr (Text.not_prefix_shifted other ms after)
    · rfl
  have referred : readReference? (m :: ms) (m :: (ms ++ c :: after)) = some (c :: after, []) := by
    rw [readReference?, Text.stripPrefix?_eq_some_iff.mpr (List.cons_append ..).symm]
    exact named
  have found : first (m :: ms) none m (ms ++ c :: after) = (reference (c :: after), []) := by
    rw [first, unescaped]
    dsimp only
    rw [if_neg (by simp), referred]
  rw [listOf, if_neg (by simp), List.cons_append, listFrom, found, listFrom]

theorem Expr.ofText_name (h : Token.IsDottedName name) : ofText name = .ok (.var name) :=
  ofText_of_atom (Token.ofText_name h) (.var name)

theorem evalText_name (h : Token.IsDottedName name) (vars : Lookup) :
    evalText vars name = .ok (((vars name).map .text).getD .blank) := by
  rw [evalText, Expr.ofText_name h]
  rfl

theorem evalText_definedCall (h : Token.IsDottedName name) (vars : Lookup) :
    evalText vars (Template.definedCall name) = .ok (.ofBool (vars name).isSome) := by
  have derives : Expr.Derives .atom [.ident "defined".toList, .lparen, .str name, .rparen]
      (.call "defined".toList [.literal (.text name)]) :=
    .call _ [([.str name], _)] (List.forall_mem_singleton.mpr (Expr.Derives.str name).ternary)
  rw [evalText, Expr.ofText_of_atom (Token.ofText_definedCall h) derives]
  rfl

theorem Value.ofBool_eq_one_iff {b : Bool} : Value.ofBool b = .int 1 ↔ b = true := by
  cases b <;> simp [Value.ofBool]

/-- How a name is read behind the mark and in expressions. -/
structure Readings (mark : Text) (vars : Lookup) (name : Text) : Prop where
  parsed : Expr.ofText name = .ok (.var name)
  lenient : ∃ v, evalText vars name = .ok v ∧
    substitute mark false vars (mark ++ name) = .ok v.display
  defined : (∃ text, substitute mark true vars (mark ++ name) = .ok text) ↔
    evalText vars (Template.definedCall name) = .ok (.int 1)
  set : (∃ text, substitute mark true vars (mark ++ name) = .ok text) ↔ (vars name).isSome = true

theorem readings (nonempty : mark ≠ []) (named : Segment.readName? name = some (name, []))
    (vars : Lookup) : Readings mark vars name := by
  have h := Segment.isDottedName_of_readName? named
  have strict : (∃ text, substitute mark true vars (mark ++ name) = .ok text) ↔
      (vars name).isSome = true := by
    rw [substitute_eq, Segment.listOf_reference nonempty named, Segment.fillAll_strict,
      Segment.firstMissing?_reference]
    cases vars name <;> simp [Segment.firstMissing?]
  refine ⟨Expr.ofText_name h, ⟨_, evalText_name h vars, ?_⟩, ?_, strict⟩
  · rw [substitute_eq, Segment.listOf_reference nonempty named, Segment.fillAll_lenient]
    cases known : vars name <;> simp [Segment.value, known, Value.display, Value.blank]
  · rw [strict, evalText_definedCall h, Except.ok.injEq, Value.ofBool_eq_one_iff]

/-! ## Lines that test a name -/

/-- The lines that ask whether a name has a value: an `IF_SET`, and an `IF` with a condition of the
expression language. -/
inductive Guards (env : Environment) (name : Text) : Text → Prop where
  | ifSet {word keyword : Text} (unbroken : ∀ c ∈ word, isBlank c = false)
      (marks : Statement.Marks env.config.indicators word keyword)
      (known : Directive.ofWord? keyword = some .ifSet) : Guards env name (word ++ ' ' :: name)
  | ifDefined {word keyword : Text} (unbroken : ∀ c ∈ word, isBlank c = false)
      (marks : Statement.Marks env.config.indicators word keyword)
      (known : Directive.ofWord? keyword = some .ifHolds)
      (language : env.evaluator = evaluateCondition) :
    Guards env name (word ++ ' ' :: Template.definedCall name)

theorem Statement.Marks.ne_nil {ind : Indicators} {word keyword : Text} {kind : Directive}
    (marks : Statement.Marks ind word keyword) (known : Directive.ofWord? keyword = some kind) :
    word ≠ [] := by
  rintro rfl
  have some : keyword ≠ [] := by
    rintro rfl
    cases known
  obtain ⟨isLong, read⟩ := marks.form
  have empty : ∀ start rest : Text, Text.stripPrefix? start [] = .some rest → rest = [] := by
    intro start rest stripped
    exact (List.append_eq_nil_iff.mp (Text.stripPrefix?_eq_some_iff.mp stripped).symm).2
  unfold keyword? at read
  split at read
  · rename_i long
    cases read
    exact some (empty _ _ long)
  · obtain ⟨rest, stripped, same⟩ := Option.map_eq_some_iff.mp read
    cases same
    exact some (empty _ _ stripped)

theorem Statement.Marks.classify {ind : Indicators} {word keyword argument : Text}
    {kind : Directive} {content : Content} (marks : Statement.Marks ind word keyword)
    (known : Directive.ofWord? keyword = some kind) (unbroken : ∀ c ∈ word, isBlank c = false)
    (tight : argument.Tight) (meaning : directiveContent kind argument = .ok content)
    (isMacro : Text → Bool) : Statement.classify ind isMacro (word ++ ' ' :: argument) =
      .ok ⟨word ++ ' ' :: argument, content⟩ :=
  classify_words (marks.ne_nil known) unbroken tight ((marks.directive known).trans meaning)

theorem Statement.directiveContent_ifSet (h : Token.IsDottedName name) :
    directiveContent .ifSet name = .ok (.directive .ifSet (some name) none) := by
  have object : Directive.ifSet.description.hasObject = true := rfl
  have unquoted : name.head? ≠ some '"' := fun quoted =>
    h.not_mem rfl (by decide) (List.mem_of_mem_head? quoted)
  have nonempty : ¬ name.isEmpty = true := by simpa using h.ne_nil
  rw [directiveContent, if_pos object, splitObject_of_unquoted unquoted,
    Text.splitWord_word h.unbroken]
  dsimp only
  rw [if_neg nonempty]
  rfl

theorem Text.unbroken_of_all (h : s.all (isBlank · == false) = true) :
    ∀ c ∈ s, isBlank c = false :=
  fun c mem => beq_iff_eq.mp (List.all_eq_true.mp h c mem)

theorem Template.unbroken_definedCall (h : Token.IsDottedName name) :
    ∀ c ∈ definedCall name, isBlank c = false := by
  have front : ∀ c ∈ "defined(\"".toList, isBlank c = false := Text.unbroken_of_all (by rfl)
  have back : ∀ c ∈ "\")".toList, isBlank c = false := Text.unbroken_of_all (by rfl)
  exact List.forall_mem_append.mpr ⟨front, List.forall_mem_append.mpr ⟨h.unbroken, back⟩⟩

theorem ConditionalStack.open?_decided (s : ConditionalStack) (expression : Option Text)
    (holds : Bool) :
    s.open? expression (.ok holds) = .ok (s.push expression (s.isActive && holds)) := by
  rw [open?_eq]
  cases s.isActive <;> rfl

theorem ConditionalStack.isActive_push (s : ConditionalStack) (expression : Option Text)
    (holds : Bool) : (s.push expression holds).isActive = (s.isActive && holds) := by
  have taken : (s.push expression holds).isActive = ((s.isActive && holds) && s.isActive) := rfl
  rw [taken]
  cases s.isActive <;> simp

namespace Run

/-- The state behind a line that tests whether a name has a value. -/
structure Tested (env : Environment) (name : Text) (run run' : Run) : Prop where
  active : run'.conditionals.isActive =
    (run.conditionals.isActive && (run.visible env name).isSome)
  visible : run'.visible env = run.visible env
  captures : run'.captures = run.captures

variable {env : Environment} {run : Run} {line : Line}

theorem tested_push (env : Environment) (run : Run) (name : Text) (expression : Option Text)
    (decided : List Evaluation) : Tested env name run { run with
      conditionals := run.conditionals.push expression
        (run.conditionals.isActive && (run.visible env name).isSome)
      decided } where
  active := by
    rw [ConditionalStack.isActive_push]
    cases run.conditionals.isActive <;> rfl
  visible := rfl
  captures := rfl

theorem openTest_tested (env : Environment) (run : Run) (name : Text) :
    ∃ run', run.openTest (run.visible env name).isSome = .ok run' ∧ Tested env name run run' := by
  refine ⟨_, ?_, tested_push env run name none run.decided⟩
  rw [openTest, ConditionalStack.open?_decided]
  rfl

theorem openIf_tested (h : Token.IsDottedName name) (language : env.evaluator = evaluateCondition)
    (run : Run) (location : Location) :
    ∃ run', run.openIf env (Template.definedCall name) location = .ok run' ∧
      Tested env name run run' := by
  have truth : (Value.ofBool (run.visible env name).isSome).truth =
      (run.visible env name).isSome := by
    cases (run.visible env name).isSome <;> rfl
  have verdict : env.evaluator (Template.definedCall name) (run.visible env) =
      .ok (run.visible env name).isSome := by
    rw [language, evaluateCondition, evalText_definedCall h]
    exact congrArg Except.ok truth
  cases live : run.conditionals.isActive with
  | true =>
    refine ⟨_, ?_, tested_push env run name (some (Template.definedCall name))
      (⟨Template.definedCall name, .ok (run.visible env name).isSome⟩ :: run.decided)⟩
    rw [openIf, if_pos live, decide, verdict]
    dsimp only [Except.mapError]
    rw [ConditionalStack.open?_decided]
    rfl
  | false =>
    refine ⟨_, ?_, tested_push env run name (some (Template.definedCall name)) run.decided⟩
    rw [openIf, if_neg (by simp [live])]
    dsimp only
    rw [ConditionalStack.open?_decided, live]
    rfl

/-- A line that tests a name opens a branch, which is live if the name has a value. -/
theorem route_guard {line : Line} (guards : Guards env name line.text)
    (h : Token.IsDottedName name) (uncaptured : run.captures.captures = []) :
    ∃ run', run.route env line = .ok (run', .none) ∧ Tested env name run run' := by
  generalize spelled : line.text = text at guards
  cases guards with
  | ifSet unbroken marks known =>
    have tight : name.Tight := .of_unbroken h.ne_nil h.unbroken
    have content := Statement.directiveContent_ifSet h
    have meaning := marks.classify known unbroken tight content fun _ => false
    rw [← spelled] at meaning
    obtain ⟨run', opens, tested⟩ := openTest_tested env run name
    refine ⟨run', ?_, tested⟩
    rw [route_of_role uncaptured meaning (Option.some_ne_none _)]
    change (run.located line.location (run.openTest (run.visible env name).isSome)).map
      (·, Task.none) = _
    rw [opens]
    rfl
  | ifDefined unbroken marks known language =>
    have tight : (Template.definedCall name).Tight :=
      .of_unbroken (List.cons_ne_nil _ _) (Template.unbroken_definedCall h)
    have content : Statement.directiveContent .ifHolds (Template.definedCall name) =
        .ok (.directive .ifHolds none (some (Template.definedCall name))) := rfl
    have meaning := marks.classify known unbroken tight content fun _ => false
    rw [← spelled] at meaning
    obtain ⟨run', opens, tested⟩ := openIf_tested h language run line.location
    refine ⟨run', ?_, tested⟩
    rw [route_of_role uncaptured meaning (Option.some_ne_none _)]
    change (run.openIf env (Template.definedCall name) line.location).map (·, Task.none) = _
    rw [opens]
    rfl

end Run

/-- References to a name are replaced by its value in a strict substitution, too. -/
structure Resolves (mark : Text) (vars : Lookup) (name : Text) : Prop where
  alone : ∃ text, substitute mark true vars (mark ++ name) = .ok text
  anywhere : ∀ s, substitute mark true vars s ≠ .error (.undefinedVariable name)

theorem substitute_ne_undefined (known : (vars name).isSome = true) (mark s : Text) :
    substitute mark true vars s ≠ .error (.undefinedVariable name) := by
  intro failed
  rw [substitute_eq, Segment.fillAll_strict] at failed
  cases found : Segment.firstMissing? vars (Segment.listOf mark s) with
  | none =>
    rw [found] at failed
    cases failed
  | some missing =>
    rw [found] at failed
    cases failed
    have unknown : (vars name).isNone = true := by simpa using List.find?_some found
    rw [Option.isNone_iff_eq_none.mp unknown] at known
    cases known

/-- A dotted name is read alike in text, in expressions and by the directives that test it, for all
scopes and settings. Behind a live test of a name, at every line of the source that follows, a
reference to it does not fail. -/
theorem references_agree (nonempty : mark ≠ []) (named : Segment.readName? name = some (name, [])) :
    (∀ (scopes : Scopes) (settings : Settings),
      Readings mark (scopes.visible settings mark) name) ∧
    ∀ (env : Environment) (run : Run) (line : Line), env.config.indicators.mark = mark →
      Guards env name line.text → run.captures.captures = [] →
      ∃ run', run.route env line = .ok (run', .none) ∧ run'.conditionals.isActive =
          (run.conditionals.isActive && (run.visible env name).isSome) ∧
        (run'.conditionals.isActive = true → ∀ levels room source n lines final,
          Run.Passes (Run.stepWithin env levels room) source n run' lines final →
            Resolves mark (final.visible env) name) := by
  refine ⟨fun scopes settings => readings nonempty named _, ?_⟩
  intro env run line same guards uncaptured
  subst same
  have h := Segment.isDottedName_of_readName? named
  obtain ⟨run', routed, tested⟩ := Run.route_guard guards h uncaptured
  refine ⟨run', routed, tested.active, fun live levels room source n lines final passes => ?_⟩
  rw [tested.active, Bool.and_eq_true, ← tested.visible] at live
  have within : run'.captures.Within n :=
    CaptureStack.within_of_nil (tested.captures ▸ uncaptured) n
  have known := passes.isSome_visible within live.2
  exact ⟨(readings nonempty named _).set.mpr known, substitute_ne_undefined known _⟩

def strictEnv : Environment where
  config := { strict := true }
  loader := Loader.ofMemory ⟨[]⟩
  tables := fun _ => none
  evaluator := evaluateCondition

/-- A run in an iteration, with a field whose name is not ASCII. -/
def fieldRun : Run where
  settings := {}
  scopes := [Bindings.empty.insert "é.n_1".toList "7".toList]

def fieldTests : List Line :=
  [⟨"_#IF_SET é.n_1".toList, ⟨['t'], 1⟩⟩, ⟨"_if defined(\"é.n_1\")".toList, ⟨['t'], 2⟩⟩]

theorem references_agree_field :
    let name := "é.n_1".toList
    Segment.readName? name = some (name, []) ∧
      Readings ['_'] (fieldRun.visible strictEnv) name ∧
      ∀ test ∈ fieldTests, Guards strictEnv name test.text ∧
        ∃ run', fieldRun.route strictEnv test = .ok (run', .none) ∧
          run'.conditionals.isActive = true ∧ Resolves ['_'] (run'.visible strictEnv) name := by
  intro name
  have mark : ['_'] ≠ [] := nofun
  have named : Segment.readName? name = some (name, []) := by rfl
  have ifSet : Guards strictEnv name "_#IF_SET é.n_1".toList :=
    .ifSet (Text.unbroken_of_all (by rfl : "_#IF_SET".toList.all _ = true)) (.long _) (by rfl)
  have ifDefined : Guards strictEnv name "_if defined(\"é.n_1\")".toList :=
    .ifDefined (Text.unbroken_of_all (by rfl : "_if".toList.all _ = true)) (.short (by rfl))
      (by rfl) rfl
  obtain ⟨agree, behind⟩ := references_agree mark named
  refine ⟨named, agree _ _, fun test mem => ?_⟩
  have guards : Guards strictEnv name test.text := by
    simp only [fieldTests, List.mem_cons, List.not_mem_nil, or_false] at mem
    rcases mem with rfl | rfl
    · exact ifSet
    · exact ifDefined
  obtain ⟨run', routed, active, resolves⟩ := behind strictEnv fieldRun test rfl guards rfl
  have live : run'.conditionals.isActive = true := active.trans (by rfl)
  exact ⟨guards, run', routed, live,
    resolves live 0 0 (.replay ⟨[], {}, [], test.location⟩) 0 [] run' .nil⟩

end LineTemplate
