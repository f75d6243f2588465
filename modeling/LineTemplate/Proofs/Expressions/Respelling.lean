import LineTemplate.Expression.Eval
import LineTemplate.Proofs.Expressions.Parsing
import LineTemplate.Proofs.Expressions.Tokens

/-!
# Numbers as text

A template knows its variables as text, so an expression computes with the text of a number as with
the number. To write integers of an expression as texts changes no result but for that: the values
are the same, or one is an integer and the other its decimal text, which show alike and are true
alike.

Operators look at a value only through the number it spells and the text it shows
(`Value.Respells.numeral?_eq`, `Value.Respells.display_eq`), and conditions through its truth.
-/

namespace LineTemplate

/-- Two values are the same, or the second one is the decimal text of the first. -/
inductive Value.Respells : Value → Value → Prop
  | same (v : Value) : Respells v v
  | numeral (n : Int64) : Respells (.int n) (.text (Text.ofInt n.toInt))

/-- Two expressions are the same but for some integers, which the second one has as texts. -/
inductive Expr.Respells : Expr → Expr → Prop
  | literal {v v' : Value} (value : v.Respells v') : Respells (.literal v) (.literal v')
  | var (name : Text) : Respells (.var name) (.var name)
  | neg {e e' : Expr} (operand : Respells e e') : Respells (.neg e) (.neg e')
  | not {e e' : Expr} (operand : Respells e e') : Respells (.not e) (.not e')
  | binary (op : BinaryOp) {l l' r r' : Expr} (left : Respells l l') (right : Respells r r') :
    Respells (.binary op l r) (.binary op l' r')
  | and {l l' r r' : Expr} (left : Respells l l') (right : Respells r r') :
    Respells (.and l r) (.and l' r')
  | or {l l' r r' : Expr} (left : Respells l l') (right : Respells r r') :
    Respells (.or l r) (.or l' r')
  | ternary {cond cond' yes yes' no no' : Expr} (condition : Respells cond cond')
      (first : Respells yes yes') (second : Respells no no') :
    Respells (.ternary cond yes no) (.ternary cond' yes' no')
  | call (name : Text) (args : List (Expr × Expr)) (each : ∀ arg ∈ args, Respells arg.1 arg.2) :
    Respells (.call name (args.map Prod.fst)) (.call name (args.map Prod.snd))

/-! ## Operators -/

namespace Value

variable {a a' b b' : Value}

namespace Respells

theorem display_eq (h : a.Respells a') : a.display = a'.display := by
  cases h <;> rfl

theorem numeral?_eq (h : a.Respells a') : a.numeral? = a'.numeral? := by
  cases h with
  | same => rfl
  | numeral n =>
    have trimmed : (Text.ofInt n.toInt).trim = Text.ofInt n.toInt := (Text.tight_ofInt _).trim
    rw [numeral?, numeral?, trimmed, Number.readInt?_ofInt]

/-- Of the decimal texts only `0` is false, and it is that of zero. -/
theorem truth_eq (h : a.Respells a') : a.truth = a'.truth := by
  cases h with
  | same => rfl
  | numeral n =>
    have nonempty : Text.ofInt n.toInt ≠ [] := (Text.tight_ofInt _).nonempty
    rw [truth, truth]
    by_cases zero : n = 0
    · subst zero
      rfl
    · have other : Text.ofInt n.toInt ≠ ['0'] := fun h =>
        zero (Number.ofInt_injective (n := 0) h)
      simp [zero, nonempty, other]

theorem numeral_eq (h : a.Respells a') : a.numeral = a'.numeral := by
  rw [Value.numeral, Value.numeral, h.numeral?_eq]

theorem isZero_eq (h : a.Respells a') : a.isZero = a'.isZero := by
  rw [isZero, isZero, h.numeral?_eq]

theorem neg_eq (h : a.Respells a') : a.neg = a'.neg := by
  rw [neg, neg, h.numeral?_eq]

theorem arithmetic_eq (h : a.Respells a') (h' : b.Respells b')
    (ints : Int64 → Int64 → Int64) (floats : Float → Float → Float) :
    arithmetic ints floats a b = arithmetic ints floats a' b' := by
  rw [arithmetic, arithmetic, h.numeral_eq, h'.numeral_eq]

theorem add_eq (h : a.Respells a') (h' : b.Respells b') : a.add b = a'.add b' := by
  rw [add, add, h.numeral?_eq, h'.numeral?_eq, h.display_eq, h'.display_eq, h.arithmetic_eq h']

theorem div_eq (h : a.Respells a') (h' : b.Respells b') : a.div b = a'.div b' := by
  rw [div, div, h'.isZero_eq, h.arithmetic_eq h']

theorem rem_eq (h : a.Respells a') (h' : b.Respells b') : a.rem b = a'.rem b' := by
  rw [rem, rem, h'.isZero_eq, h.arithmetic_eq h']

theorem compare_eq (h : a.Respells a') (h' : b.Respells b') : a.compare b = a'.compare b' := by
  rw [compare, compare, h.numeral?_eq, h'.numeral?_eq, h.display_eq, h'.display_eq]

/-- No operator can tell an integer from its decimal text. -/
theorem apply_eq (h : a.Respells a') (h' : b.Respells b') (op : BinaryOp) :
    op.apply a b = op.apply a' b' := by
  cases op with
  | add => rw [BinaryOp.apply, BinaryOp.apply, h.add_eq h']
  | sub => rw [BinaryOp.apply, BinaryOp.apply, sub, sub, h.arithmetic_eq h']
  | mul => rw [BinaryOp.apply, BinaryOp.apply, mul, mul, h.arithmetic_eq h']
  | div => rw [BinaryOp.apply, BinaryOp.apply, h.div_eq h']
  | rem => rw [BinaryOp.apply, BinaryOp.apply, h.rem_eq h']
  | eq | ne | lt | le | gt | ge => rw [BinaryOp.apply, BinaryOp.apply, h.compare_eq h']
  | globMatch | notGlobMatch | regexMatch | notRegexMatch =>
    rw [BinaryOp.apply, BinaryOp.apply, h.display_eq, h'.display_eq]

theorem callFunction_eq {values values' : List Value} (h : List.Forall₂ Respells values values')
    (name : Text) (vars : Lookup) :
    callFunction name values vars = callFunction name values' vars := by
  have argument : values.head?.map display = values'.head?.map display := by
    cases h with
    | nil => rfl
    | cons first _ => exact congrArg some first.display_eq
  rw [callFunction, callFunction, argument]

end Respells

end Value

/-! ## Expressions -/

namespace Expr

theorem evalAll_matches {vars : Lookup} {args : List (Expr × Expr)}
    (each : ∀ arg ∈ args, Matches Value.Respells (arg.1.eval vars) (arg.2.eval vars)) :
    Matches (List.Forall₂ Value.Respells) (evalAll vars (args.map Prod.fst))
      (evalAll vars (args.map Prod.snd)) := by
  induction args with
  | nil => exact .ok .nil
  | cons arg args ih =>
    obtain ⟨first, further⟩ := List.forall_mem_cons.mp each
    rw [List.map_cons, List.map_cons, evalAll, evalAll]
    exact first.bind fun v v' alike => (ih further).bind fun values values' rest =>
      .ok (.cons alike rest)

/-- Expressions that differ in the spelling of integers have values that do, or fail alike. -/
theorem eval_matches {e e' : Expr} (h : e.Respells e') (vars : Lookup) :
    Matches Value.Respells (e.eval vars) (e'.eval vars) := by
  induction h with
  | literal value =>
    rw [eval, eval]
    exact .ok value
  | var name =>
    rw [eval]
    exact .ok (.same _)
  | neg operand ih =>
    rw [eval, eval]
    refine ih.bind fun v v' alike => ?_
    rw [alike.neg_eq]
    exact .ok (.same _)
  | not operand ih =>
    rw [eval, eval]
    refine ih.bind fun v v' alike => ?_
    rw [alike.truth_eq]
    exact .ok (.same _)
  | binary op left right ihl ihr =>
    rw [eval, eval]
    refine ihl.bind fun v v' alike => ihr.bind fun w w' alike' => ?_
    rw [alike.apply_eq alike' op]
    exact .refl .same _
  | and left right ihl ihr =>
    rw [eval, eval]
    refine ihl.bind fun v v' alike => ?_
    rw [alike.truth_eq]
    split
    · refine ihr.bind fun w w' alike' => ?_
      rw [alike'.truth_eq]
      exact .ok (.same _)
    · exact .ok (.same _)
  | or left right ihl ihr =>
    rw [eval, eval]
    refine ihl.bind fun v v' alike => ?_
    rw [alike.truth_eq]
    split
    · exact .ok (.same _)
    · refine ihr.bind fun w w' alike' => ?_
      rw [alike'.truth_eq]
      exact .ok (.same _)
  | ternary condition first second ihc ihy ihn =>
    rw [eval, eval]
    refine ihc.bind fun v v' alike => ?_
    rw [alike.truth_eq]
    split
    · exact ihy
    · exact ihn
  | call name args each ih =>
    rw [eval, eval]
    refine (evalAll_matches ih).bind fun values values' alike => ?_
    rw [Value.Respells.callFunction_eq alike]
    exact .refl .same _

theorem evaluateCondition_of_ofText {source : Text} {e : Expr} (parsed : ofText source = .ok e)
    (vars : Lookup) :
    evaluateCondition source vars =
      match e.eval vars with
      | .ok v => .ok v.truth
      | .error error => .error error.message := by
  rw [evaluateCondition, evalText, parsed]
  dsimp only
  cases e.eval vars <;> rfl

/--
An expression in which some integers are written as texts has the value that it had, or the text of
that value if this is an integer; it fails where it failed. So what is shown is the same, and so is
what is true, and conditions are decided alike.
-/
theorem eval_respelled {e e' : Expr} (h : e.Respells e') (vars : Lookup) :
    ((∃ error, e.eval vars = .error error ∧ e'.eval vars = .error error) ∨
      ∃ v v', e.eval vars = .ok v ∧ e'.eval vars = .ok v' ∧ v.Respells v' ∧
        v.display = v'.display ∧ v.truth = v'.truth) ∧
    ∀ source source', ofText source = .ok e → ofText source' = .ok e' →
      evaluateCondition source vars = evaluateCondition source' vars := by
  rcases Matches.iff_exists.mp (eval_matches h vars) with
    ⟨error, fails, fails'⟩ | ⟨v, v', value, value', related⟩
  · refine ⟨.inl ⟨error, fails, fails'⟩, fun source source' parsed parsed' => ?_⟩
    rw [evaluateCondition_of_ofText parsed, evaluateCondition_of_ofText parsed', fails, fails']
  · have same : v.truth = v'.truth := related.truth_eq
    refine ⟨.inr ⟨v, v', value, value', related, related.display_eq, same⟩,
      fun source source' parsed parsed' => ?_⟩
    rw [evaluateCondition_of_ofText parsed, evaluateCondition_of_ofText parsed', value, value']
    exact congrArg Except.ok same

/-- Whether the variable `n` is above a bound. -/
def above (bound : Value) : Expr :=
  .binary .gt (.var ['n']) (.literal bound)

def allTen : Lookup := fun _ => some ['1', '0']

/-- As texts, ten would not be above two. -/
theorem eval_respelled_above :
    (above (.int 2)).Respells (above (.text ['2'])) ∧
      ((∃ error, (above (.int 2)).eval allTen = .error error ∧
          (above (.text ['2'])).eval allTen = .error error) ∨
        ∃ v v', (above (.int 2)).eval allTen = .ok v ∧ (above (.text ['2'])).eval allTen = .ok v' ∧
          v.Respells v' ∧ v.display = v'.display ∧ v.truth = v'.truth) ∧
      evaluateCondition "n>2".toList allTen = evaluateCondition "n>'2'".toList allTen := by
  have spells : (above (.int 2)).Respells (above (.text ['2'])) :=
    .binary .gt (.var ['n']) (.literal (.numeral 2))
  have parsed (source : Text) (t : Token) (v : Value)
      (tokens : Token.ofText source = [.ident ['n'], .gt, t])
      (bound : Derives .atom [t] (.literal v)) : ofText source = .ok (above v) := by
    have left : Derives (.level 3) [.ident ['n']] (.var ['n']) :=
      .tighter (by decide) (.tighter (by decide) (.tighter (by decide) (.atom (.var ['n']))))
    have right : Derives (.level 4) [t] (.literal v) :=
      .tighter (by decide) (.tighter (by decide) (.atom bound))
    have operator : (Token.gt, Expr.binary .gt) ∈ operatorsOf 3 := by simp [operatorsOf]
    rw [ofText_eq_ok_iff, tokens]
    exact .plain (.tighter (by decide) (.tighter (by decide) (.operation operator left right)))
  have number : ofText "n>2".toList = .ok (above (.int 2)) := by
    refine parsed _ (.int 2) (.int 2) ?_ (.int 2)
    have last : Token.ofText ['2'] = [.int 2] :=
      Token.ofText_singleton (show Text.trimStart ['2'] = ['2'] from rfl) (by cbv)
    have further : Token.ofText ['>', '2'] = [.gt, .int 2] :=
      last ▸ Token.ofText_eq_cons (show Text.trimStart ['>', '2'] = ['>', '2'] from rfl) rfl
    exact further ▸
      Token.ofText_eq_cons (show Text.trimStart ['n', '>', '2'] = ['n', '>', '2'] from rfl) rfl
  have text : ofText "n>'2'".toList = .ok (above (.text ['2'])) := by
    refine parsed _ (.str ['2']) (.text ['2']) ?_ (.str ['2'])
    have last : Token.ofText "'2'".toList = [.str ['2']] :=
      Token.ofText_singleton (show Text.trimStart "'2'".toList = '\'' :: "2'".toList from rfl) rfl
    have further : Token.ofText ">'2'".toList = [.gt, .str ['2']] :=
      last ▸ Token.ofText_eq_cons (show Text.trimStart ">'2'".toList = '>' :: "'2'".toList from rfl)
        rfl
    exact further ▸
      Token.ofText_eq_cons (show Text.trimStart "n>'2'".toList = 'n' :: ">'2'".toList from rfl) rfl
  obtain ⟨values, conditions⟩ := eval_respelled spells allTen
  exact ⟨spells, values, conditions _ _ number text⟩

end Expr

end LineTemplate
