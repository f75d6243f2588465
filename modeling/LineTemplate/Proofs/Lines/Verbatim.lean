import LineTemplate.Proofs.Lines.Escaping
import LineTemplate.Proofs.Lines.Quoting
import LineTemplate.Proofs.Variables.Parameters
import LineTemplate.Run.Route
import Mathlib

/-!
# Lines that pass values

What becomes of a value in quotes on its way through a line: through a definition, through the
default of a parameter, through the argument of a call, and out again where a variable is used. The
marks are the default ones.
-/

namespace LineTemplate

open Unicode

/-! ## Lines under the default marks -/

/-- A line with a directive in its long form. -/
def Template.directive (keyword argument : Text) : Text :=
  '_' :: '#' :: (keyword ++ ' ' :: argument)

/-- The line that gives a variable a value in quotes. -/
def Template.define (x v : Text) : Text :=
  directive "DEFINE".toList (x ++ ' ' :: v.quote)

def Template.openMacro (m formals : Text) : Text :=
  directive "MACRO".toList (m ++ ' ' :: formals)

def Template.closeMacro : Text :=
  '_' :: '#' :: "END_MACRO".toList

/-- The line that calls a macro. -/
def Template.call (m : Text) : (argument : Option Text) → Text
  | none => '_' :: m
  | some argument => '_' :: (m ++ ' ' :: argument)

/-- The line that writes the value of a variable between brackets. -/
def Template.use (x : Text) : Text :=
  '[' :: '_' :: (x ++ [']'])

namespace Template

variable {keyword argument x m : Text}

theorem alone_directive (h : keyword.Alone) (h' : argument.Alone) :
    (directive keyword argument).Alone := by
  have mark : Text.Alone ['_'] := .of_isName rfl
  exact mark.append (h.append h' (by decide)) (by decide)

theorem alone_openMacro (named : Text.isName m = true) (h : argument.Alone) :
    (openMacro m argument).Alone :=
  alone_directive (.of_isName (by cbv)) ((Text.Alone.of_isName named).append h (by decide))

theorem alone_closeMacro : closeMacro.Alone := by
  have mark : Text.Alone ['_'] := .of_isName rfl
  exact mark.append (.of_isName (by cbv)) (by decide)

theorem alone_define (named : Text.isName x = true) {v : Text} (feed : '\n' ∉ v) :
    (define x v).Alone :=
  alone_directive (.of_isName (by cbv))
    ((Text.Alone.of_isName named).append (Text.alone_quote feed) (by decide))

theorem alone_call (named : Text.isName m = true) {argument : Option Text}
    (h : ∀ a ∈ argument, a.Alone) : (call m argument).Alone := by
  have word : Text.Alone ('_' :: m) :=
    .of_isName (Text.isName_iff.mpr ⟨'_', m, rfl, .inr rfl, Text.isNameChar_of_isName named⟩)
  cases argument with
  | none => exact word
  | some a => exact word.append (h a rfl) (by decide)

theorem unbroken_use (named : Text.isName x = true) : ∀ c ∈ use x, isBlank c = false := by
  intro c mem
  simp only [use, List.mem_cons, List.mem_append, List.not_mem_nil, or_false] at mem
  rcases mem with rfl | rfl | inName | rfl
  · decide
  · decide
  · exact Text.isBlank_eq_false_of_isName named c inName
  · decide

theorem alone_use (named : Text.isName x = true) : (use x).Alone where
  tight := .of_unbroken (List.cons_ne_nil _ _) (unbroken_use named)
  feed := by
    intro mem
    have visible := unbroken_use named _ mem
    cases visible

end Template

theorem Indicators.escapable_default : ({} : Indicators).Escapable := by
  have valid : ({} : Indicators).validated = .ok {} := by cbv
  have plain : '\\' ∉ ({} : Indicators).mark := by decide
  have leads : ∀ entry ∈ ({} : Indicators).named, ({} : Indicators).mark <+: entry.2 := by decide
  exact .of_validated valid plain fun option mark mem => leads (option, mark) mem

/-- Only four characters make a cursor mark with the mark in front of them. -/
theorem Indicators.cursorOp?_mark {c : Char} (h : c ∉ ['\x7b', '\x7d', '?', ':']) (rest : Text) :
    ({} : Indicators).cursorOp? ('_' :: c :: rest) = none := by
  have other : ∀ d ∈ ['\x7b', '\x7d', '?', ':'],
      Text.stripPrefix? ['_', d] ('_' :: c :: rest) = none := by
    rintro d mem
    rw [Text.stripPrefix?_eq_none_iff, List.cons_prefix_cons, List.cons_prefix_cons]
    rintro ⟨-, rfl, -⟩
    exact h mem
  rw [cursorOp?, List.findSome?_eq_none_iff]
  rintro ⟨mark, op⟩ mem
  have inList := mem_of_mem_sorted mem
  simp only [cursorMarks, List.mem_cons, Prod.mk.injEq, List.not_mem_nil, or_false] at inList
  rw [Option.map_eq_none_iff]
  rcases inList with ⟨rfl, -⟩ | ⟨rfl, -⟩ | ⟨rfl, -⟩ | ⟨rfl, -⟩
  · exact other '\x7b' (by simp)
  · exact other '\x7d' (by simp)
  · exact other '?' (by simp)
  · exact other ':' (by simp)

namespace Statement

variable {ind : Indicators} {isMacro : Text → Bool} {word argument m : Text} {content : Content}

theorem classify_word (nonempty : word ≠ []) (unbroken : ∀ c ∈ word, isBlank c = false)
    (meaning : contentOf ind isMacro word [] = .ok content) :
    classify ind isMacro word = .ok ⟨word, content⟩ := by
  have tight : word.Tight := .of_unbroken nonempty unbroken
  have some : ¬ word.isEmpty = true := by simpa using nonempty
  rw [classify, tight.trim]
  dsimp only
  rw [if_neg some, Text.splitWord_word unbroken, meaning]
  rfl

theorem classify_gap {gap : Text} (nonempty : word ≠ []) (unbroken : ∀ c ∈ word, isBlank c = false)
    (gapped : gap.IsGap) (h : argument.Tight)
    (meaning : contentOf ind isMacro word argument = .ok content) :
    classify ind isMacro (word ++ (gap ++ argument)) =
      .ok ⟨word ++ (gap ++ argument), content⟩ := by
  have word_tight : word.Tight := .of_unbroken nonempty unbroken
  have some : ¬ (word ++ (gap ++ argument)).isEmpty = true := by simp [nonempty]
  rw [classify, (word_tight.around h gap).trim]
  dsimp only
  rw [if_neg some, Text.splitWord_gap unbroken gapped h, meaning]
  rfl

theorem classify_words (nonempty : word ≠ []) (unbroken : ∀ c ∈ word, isBlank c = false)
    (h : argument.Tight) (meaning : contentOf ind isMacro word argument = .ok content) :
    classify ind isMacro (word ++ ' ' :: argument) = .ok ⟨word ++ ' ' :: argument, content⟩ :=
  classify_gap nonempty unbroken Text.isGap_space h meaning

theorem splitObject_of_unquoted (h : argument.head? ≠ some '"') :
    splitObject argument = .ok argument.splitWord := by
  rw [splitObject]
  rintro quoted rfl
  exact h rfl

theorem head?_ne_quote {name : Text} (named : Text.isName name = true) (rest : Text) :
    (name ++ rest).head? ≠ some '"' := by
  obtain ⟨c, after, rfl, -⟩ := Text.isName_iff.mp named
  rintro ⟨⟩
  exact Text.not_mem_of_isName named (by decide) List.mem_cons_self

theorem directiveContent_name {kind : Directive} {name : Text}
    (hasObject : kind.description.hasObject = true) (named : Text.isName name = true)
    (h : argument.Tight) : directiveContent kind (name ++ ' ' :: argument) =
      .ok (.directive kind (some name) (some argument)) := by
  have split : splitObject (name ++ ' ' :: argument) = .ok (name, argument) := by
    rw [splitObject_of_unquoted (head?_ne_quote named _),
      Text.splitWord_append (Text.isBlank_eq_false_of_isName named) h]
  have some : argument.nonempty? = some argument := if_neg (by simpa using h.nonempty)
  rw [directiveContent, if_pos hasObject, split]
  dsimp only
  rw [if_neg (Bool.eq_false_iff.mp (Text.isEmpty_of_isName named)), some]

/-- A word is a keyword behind the mark or behind the long mark. -/
structure Marks (ind : Indicators) (word keyword : Text) : Prop where
  noCursor : ind.cursorOp? word = none
  form : ∃ isLong, keyword? ind word = some (keyword, isLong)

namespace Marks

theorem long (m : Text) : Marks {} ('_' :: '#' :: m) m where
  noCursor := Indicators.cursorOp?_mark (by decide) m
  form := ⟨true, rfl⟩

theorem short (named : Text.isName m = true) : Marks {} ('_' :: m) m := by
  obtain ⟨c, after, rfl, -⟩ := Text.isName_iff.mp named
  have name : Text.isNameChar c = true := Text.isNameChar_of_isName named c List.mem_cons_self
  have cursor : c ∉ ['\x7b', '\x7d', '?', ':'] := by
    intro mem
    simp only [List.mem_cons, List.not_mem_nil, or_false] at mem
    rcases mem with rfl | rfl | rfl | rfl <;> cases name
  have hash : ¬ '#' = c := by
    rintro rfl
    cases name
  have long : Text.stripPrefix? ({} : Indicators).longMark ('_' :: c :: after) = none := by
    change (if '#' = c then _ else none) = none
    rw [if_neg hash]
  refine ⟨Indicators.cursorOp?_mark cursor after, false, ?_⟩
  rw [keyword?, long]
  rfl

variable {keyword : Text}

theorem directive {kind : Directive} (marks : Marks ind word keyword)
    (known : Directive.ofWord? keyword = some kind) :
    contentOf ind isMacro word argument = directiveContent kind argument := by
  obtain ⟨noCursor, isLong, read⟩ := marks
  rw [contentOf, noCursor]
  dsimp only
  rw [read]
  dsimp only
  rw [known]

theorem call (marks : Marks ind word keyword) (named : Text.isName keyword = true)
    (free : Directive.ofWord? keyword = none) (known : isMacro keyword = true) :
    contentOf ind isMacro word argument =
      .ok (.directive .call (some keyword) argument.nonempty?) := by
  obtain ⟨noCursor, isLong, read⟩ := marks
  rw [contentOf, noCursor]
  dsimp only
  rw [read]
  dsimp only
  rw [free]
  dsimp only
  rw [known, Text.isEmpty_of_isName named]
  rfl

end Marks

theorem classify_directive {keyword name : Text} {kind : Directive}
    (letters : Text.isName keyword = true) (known : Directive.ofWord? keyword = some kind)
    (hasObject : kind.description.hasObject = true) (named : Text.isName name = true)
    (h : argument.Tight) :
    classify {} isMacro (Template.directive keyword (name ++ ' ' :: argument)) =
      .ok ⟨Template.directive keyword (name ++ ' ' :: argument),
        .directive kind (some name) (some argument)⟩ := by
  have unbroken : ∀ c ∈ '_' :: '#' :: keyword, isBlank c = false :=
    List.forall_mem_cons.mpr ⟨by decide, List.forall_mem_cons.mpr
      ⟨by decide, Text.isBlank_eq_false_of_isName letters⟩⟩
  have meaning : contentOf {} isMacro ('_' :: '#' :: keyword) (name ++ ' ' :: argument) =
      .ok (.directive kind (some name) (some argument)) :=
    ((Marks.long keyword).directive known).trans (directiveContent_name hasObject named h)
  exact classify_words (List.cons_ne_nil _ _) unbroken ((Text.Tight.of_isName named).append h ' ')
    meaning

theorem classify_use {x : Text} (named : Text.isName x = true) :
    classify {} isMacro (Template.use x) = .ok ⟨Template.use x, .literal⟩ := by
  have starts : ¬ ({} : Indicators).mark <+: Template.use x := by
    rintro ⟨rest, same⟩
    cases same
  have meaning : contentOf {} isMacro (Template.use x) [] = .ok .literal := by
    rw [contentOf, Indicators.escapable_default.cursorOp?_eq_none starts]
    dsimp only
    rw [Indicators.escapable_default.keyword?_eq_none starts]
  exact classify_word (List.cons_ne_nil _ _) (Template.unbroken_use named) meaning

theorem classify_call (named : Text.isName m = true) (free : Directive.ofWord? m = none)
    (known : isMacro m = true) {argument : Option Text} (h : ∀ a ∈ argument, a.Tight) :
    classify {} isMacro (Template.call m argument) =
      .ok ⟨Template.call m argument, .directive .call (some m) argument⟩ := by
  have unbroken : ∀ c ∈ '_' :: m, isBlank c = false :=
    List.forall_mem_cons.mpr ⟨by decide, Text.isBlank_eq_false_of_isName named⟩
  cases argument with
  | none => exact classify_word (List.cons_ne_nil _ _) unbroken ((Marks.short named).call named free known)
  | some a =>
    have tight : a.Tight := h a rfl
    have some : a.nonempty? = some a := if_neg (by simpa using tight.nonempty)
    exact classify_words (List.cons_ne_nil _ _) unbroken tight
      (some ▸ (Marks.short named).call named free known)

end Statement

/-! ## Substitution -/

section

variable {x s : Text}

theorem Text.dottedTail_append_of_names {afterDot : Char → Bool} {c : Char} {after : Text}
    (named : ∀ d ∈ s, isNameChar d = true) (other : isNameChar c = false) (dot : c ≠ '.') :
    dottedTail afterDot (s ++ c :: after) = (s, c :: after) := by
  induction s with
  | nil => simp [dottedTail, other, dot]
  | cons d rest ih =>
    have first : isNameChar d = true := named d List.mem_cons_self
    rw [List.cons_append, dottedTail, first, Bool.true_or, if_pos rfl,
      ih fun e mem => named e (List.mem_cons_of_mem d mem)]

theorem Segment.listFrom_use (named : Text.isName x = true)
    (letter : x.head?.any isAlphabetic = true) :
    listFrom ['_'] none (Template.use x) = [char '[', reference x, char ']'] := by
  obtain ⟨c, rest, rfl, -⟩ := Text.isName_iff.mp named
  replace letter : isAlphabetic c = true := letter
  have further : ∀ d ∈ rest, Text.isNameChar d = true := fun d mem =>
    Text.isNameChar_of_isName named d (List.mem_cons_of_mem c mem)
  have tail : Text.dottedTail isAlphabetic (rest ++ [']']) = (rest, [']']) :=
    Text.dottedTail_append_of_names further (by decide) (by decide)
  have read : readReference? ['_'] ('_' :: (c :: rest ++ [']'])) = some (c :: rest, [']']) := by
    change readName? (c :: (rest ++ [']'])) = _
    rw [readName?, if_pos letter, tail]
  have opens : first ['_'] none '[' ('_' :: (c :: rest ++ [']'])) =
      (char '[', '_' :: (c :: rest ++ [']'])) := rfl
  have refers : first ['_'] (some '[') '_' (c :: rest ++ [']']) =
      (reference (c :: rest), [']']) := by
    have unnamed : ¬ (some '[').any Text.isNameChar = true := by decide
    rw [first, if_neg (by decide)]
    dsimp only
    rw [if_neg unnamed, read]
  have closes : ∀ before, first ['_'] before ']' [] = (char ']', []) := by
    intro before
    have none : (if before.any Text.isNameChar then none else readReference? ['_'] [']']) = none :=
      ite_self none
    rw [first, if_neg (by decide)]
    dsimp only
    rw [none]
  simp only [Template.use, listFrom, opens, spelling, List.getLast?_singleton, refers, closes]

/-- The value stands where the reference was, whatever is in it. -/
theorem substitute_use {v : Text} {vars : Lookup} (named : Text.isName x = true)
    (letter : x.head?.any isAlphabetic = true) (value : vars x = some v) (strict : Bool) :
    substitute ['_'] strict vars (Template.use x) = .ok ('[' :: (v ++ [']'])) := by
  have segments : Segment.listOf ['_'] (Template.use x) = _ := Segment.listFrom_use named letter
  rw [substitute_eq, segments]
  simp only [Segment.fillAll, Segment.fill, value]
  rfl

end

/-! ## Parameters -/

namespace MacroDefinition

variable {d : MacroDefinition} {args : Arguments} {p : Parameter} {before after : List Parameter}
  {x v : Text}

/-- The value of a parameter whose name no later one has. -/
theorem get?_bind_of_split (parameters : d.parameters = before ++ p :: after)
    (single : ∀ q ∈ after, q.name ≠ p.name) (value : d.valueAt args before.length p = some v) :
    (d.bind args).get? p.name = some v := by
  have here : d.parameters[before.length]? = some p := by
    rw [parameters, List.getElem?_append_right (Nat.le_refl _), Nat.sub_self]
    rfl
  refine get?_bind_of_last here value fun j q later there same => absurd same (single q ?_)
  rw [parameters, List.getElem?_append_right (Nat.le_of_lt later)] at there
  obtain ⟨k, rest⟩ := Nat.exists_eq_add_of_lt later
  rw [rest, show before.length + k + 1 - before.length = k + 1 by omega,
    List.getElem?_cons_succ] at there
  exact List.mem_of_getElem? there

theorem isFirst_of_split (parameters : d.parameters = before ++ p :: after)
    (single : ∀ q ∈ before, q.name ≠ p.name) : d.IsFirst p.name before.length := by
  have earlier : before.findIdx? (·.name = p.name) = none := by simpa using single
  rw [IsFirst, parameters, List.findIdx?_append, earlier, List.findIdx?_cons,
    if_pos (decide_eq_true rfl)]
  simp

/-- How the argument of a call gives a parameter a value: in quotes and with the marks in it
escaped, as the first one or by the name of the parameter, or as the default if there is no
argument. No parameter after it has the same name, and none before it when it is named. -/
inductive Obtains (d : MacroDefinition) (x v : Text) : (argument : Option Text) → Prop where
  | positional {p : Parameter} {after : List Parameter} (parameters : d.parameters = p :: after)
      (name : p.name = x) (single : ∀ q ∈ after, q.name ≠ x) :
    Obtains d x v (some (Text.escape ['_'] v).quote)
  | named {p : Parameter} {before after : List Parameter}
      (parameters : d.parameters = before ++ p :: after) (name : p.name = x)
      (single : ∀ q ∈ before ++ after, q.name ≠ x) :
    Obtains d x v (some (x ++ '=' :: (Text.escape ['_'] v).quote))
  | default {p : Parameter} {before after : List Parameter}
      (parameters : d.parameters = before ++ p :: after) (name : p.name = x)
      (single : ∀ q ∈ after, q.name ≠ x) (default : p.default? = some v) :
    Obtains d x v none

theorem Obtains.tight {argument : Option Text} (h : d.Obtains x v argument)
    (named : Text.isName x = true) : ∀ a ∈ argument, a.Tight := by
  intro a mem
  cases h with
  | positional =>
    cases mem
    exact Text.tight_quote _
  | named =>
    cases mem
    exact (Text.Tight.of_isName named).append (Text.tight_quote _) '='
  | default => cases mem

end MacroDefinition

/-! ## Arguments of a call -/

namespace Run

variable {env : Environment} {d : MacroDefinition} {x v : Text} {argument : Option Text}

theorem readArguments_of_items {items : List Item} {arguments : Text}
    (h : Arguments.items arguments = .ok items) (run : Run) :
    run.readArguments env arguments = run.substituteArguments env (.ofItems items) := by
  rw [readArguments, Arguments.ofText, h]
  rfl

/-- A call that gives a parameter a value does so in every state. -/
theorem obtains_bind (marks : env.config.indicators = {}) (named : Text.isName x = true)
    (h : d.Obtains x v argument) (run : Run) :
    ∃ args, run.readArguments env (argument.getD []) = .ok args ∧
      (d.bind args).get? x = some v := by
  have value : run.substitute env (Text.escape ['_'] v) = .ok v := by
    rw [substitute, marks]
    exact substitute_escape (List.cons_ne_nil _ _) (by decide) _ _ v
  cases h with
  | positional parameters name single =>
    refine ⟨{ positional := [v] }, ?_, ?_⟩
    · rw [Option.getD_some, readArguments_of_items (Arguments.items_quote _)]
      simp [substituteArguments, Arguments.ofItems, substituteAll, value]
    · subst name
      have first : d.parameters = [] ++ _ := parameters
      refine MacroDefinition.get?_bind_of_split first single ?_
      simp [MacroDefinition.valueAt, Arguments.named?]
  | named parameters name single =>
    refine ⟨{ named := [(x, v)] }, ?_, ?_⟩
    · rw [Option.getD_some, readArguments_of_items (Arguments.items_named named _)]
      simp [substituteArguments, Arguments.ofItems, substituteAll, value]
    · subst name
      have first := MacroDefinition.isFirst_of_split parameters fun q mem =>
        single q (List.mem_append_left _ mem)
      refine MacroDefinition.get?_bind_of_split parameters
        (fun q mem => single q (List.mem_append_right _ mem)) ?_
      simp [MacroDefinition.valueAt, Arguments.named?, first]
  | default parameters name single default =>
    refine ⟨{}, ?_, ?_⟩
    · rw [Option.getD_none, readArguments_of_items rfl]
      rfl
    · subst name
      refine MacroDefinition.get?_bind_of_split parameters single ?_
      simp [MacroDefinition.valueAt, Arguments.named?, default]

end Run

end LineTemplate
