import LineTemplate.Expression.Parser
import Mathlib.Data.List.Chain

/-!
# The grammar of expressions

The tokens that spell an expression, by the symbols of a stratified grammar. Level 1 holds the
weakest operator between two expressions, `||`, and level 5 the strongest ones. An operator stands
between an expression of its own level and one of the next level, so it associates to the left.
Level 6 is that of the prefix operators.

Two facts about what the grammar derives are proved here: no parenthesis is closed directly after a
comma, and what stands after a `?` is an expression of level 1 and a `:`.
-/

namespace LineTemplate.Expr

/-- The operators of a level, and what each of them makes of two expressions. -/
def operatorsOf : Nat → List (Token × (Expr → Expr → Expr))
  | 1 => [(.or, .or)]
  | 2 => [(.and, .and)]
  | 3 =>
    [(.eq, .binary .eq), (.ne, .binary .ne), (.lt, .binary .lt), (.le, .binary .le),
      (.gt, .binary .gt), (.ge, .binary .ge), (.globMatch, .binary .globMatch),
      (.regexMatch, .binary .regexMatch), (.notGlobMatch, .binary .notGlobMatch),
      (.notRegexMatch, .binary .notRegexMatch)]
  | 4 => [(.plus, .binary .add), (.minus, .binary .sub)]
  | 5 => [(.star, .binary .mul), (.slash, .binary .div), (.percent, .binary .rem)]
  | _ => []

inductive Symbol where
  | ternary
  | level (k : Nat)
  | atom

/-- Some lists of tokens with commas between them. -/
def separated (lists : List (List Token)) : List Token :=
  [Token.comma].intercalate lists

/-- The tokens spell an expression, as an instance of a symbol of the grammar. -/
inductive Derives : Symbol → List Token → Expr → Prop where
  | plain {ts : List Token} {e : Expr} (only : Derives (.level 1) ts e) : Derives .ternary ts e
  | choice {ts us vs : List Token} {cond yes no : Expr} (condition : Derives (.level 1) ts cond)
      (first : Derives (.level 1) us yes) (second : Derives .ternary vs no) :
    Derives .ternary (ts ++ .question :: (us ++ .colon :: vs)) (.ternary cond yes no)
  | tighter {k : Nat} {ts : List Token} {e : Expr} (inner : k ≤ 5)
      (only : Derives (.level (k + 1)) ts e) : Derives (.level k) ts e
  | operation {k : Nat} {ts us : List Token} {t : Token} {make : Expr → Expr → Expr} {l r : Expr}
      (operator : (t, make) ∈ operatorsOf k) (left : Derives (.level k) ts l)
      (right : Derives (.level (k + 1)) us r) : Derives (.level k) (ts ++ t :: us) (make l r)
  | neg {ts : List Token} {e : Expr} (operand : Derives (.level 6) ts e) :
    Derives (.level 6) (.minus :: ts) (.neg e)
  | not {ts : List Token} {e : Expr} (operand : Derives (.level 6) ts e) :
    Derives (.level 6) (.bang :: ts) (.not e)
  | atom {ts : List Token} {e : Expr} (only : Derives .atom ts e) : Derives (.level 6) ts e
  | int (n : Int64) : Derives .atom [.int n] (.literal (.int n))
  | float (x : Float) : Derives .atom [.float x] (.literal (.float x))
  | str (s : Text) : Derives .atom [.str s] (.literal (.text s))
  | var (name : Text) : Derives .atom [.ident name] (.var name)
  | call (name : Text) (args : List (List Token × Expr))
      (each : ∀ arg ∈ args, Derives .ternary arg.1 arg.2) :
    Derives .atom (.ident name :: .lparen :: (separated (args.map Prod.fst) ++ [.rparen]))
      (.call name (args.map Prod.snd))
  | parens {ts : List Token} {e : Expr} (inner : Derives .ternary ts e) :
    Derives .atom (.lparen :: (ts ++ [.rparen])) e

/-- What binds tighter can stand for what binds weaker. -/
theorem Derives.looser {k low : Nat} {ts : List Token} {e : Expr} (h : Derives (.level k) ts e)
    (inner : k ≤ 6) (le : low ≤ k) : Derives (.level low) ts e := by
  induction le using Nat.decreasingInduction with
  | self => exact h
  | of_succ low le ih => exact .tighter (by omega) ih

theorem Derives.ternary {ts : List Token} {e : Expr} (h : Derives .atom ts e) :
    Derives .ternary ts e :=
  .plain ((Derives.atom h).looser (Nat.le_refl 6) (by decide))

theorem separated_cons (ts : List Token) {lists : List (List Token)} (h : lists ≠ []) :
    separated (ts :: lists) = ts ++ .comma :: separated lists := by
  cases lists with
  | nil => exact absurd rfl h
  | cons us lists => simp [separated, List.intercalate, List.intersperse]

@[simp] theorem separated_nil : separated [] = [] := rfl

@[simp] theorem separated_singleton (ts : List Token) : separated [ts] = ts := by
  simp [separated, List.intercalate]

theorem separated_induction {P : List Token → Prop} {lists : List (List Token)}
    (join : ∀ {ts us}, P ts → P us → P (ts ++ .comma :: us)) (some_list : lists ≠ [])
    (each : ∀ ts ∈ lists, P ts) : P (separated lists) := by
  induction lists with
  | nil => exact absurd rfl some_list
  | cons ts lists ih =>
    rw [List.forall_mem_cons] at each
    by_cases single : lists = []
    · subst single
      rw [separated_singleton]
      exact each.1
    · rw [separated_cons ts single]
      exact join each.1 (ih single each.2)

/-! ## Operators -/

theorem mem_operatorsOf {t : Token} {op : Operator} (h : t.operator? = some op) :
    (t, op.apply) ∈ operatorsOf op.power := by
  cases t <;> cases h <;> simp [operatorsOf, Operator.power, Operator.apply]

theorem operator_of_mem {k : Nat} {t : Token} {make : Expr → Expr → Expr}
    (h : (t, make) ∈ operatorsOf k) :
    ∃ op, t.operator? = some op ∧ op.power = k ∧ op.apply = make := by
  suffices all : ∀ p ∈ operatorsOf k,
      ∃ op, p.1.operator? = some op ∧ op.power = k ∧ op.apply = p.2 from all _ h
  unfold operatorsOf
  split <;> simp [Token.operator?, Operator.power, Operator.apply]

/-- An operator is neither a mark of the ternary operator nor a parenthesis or a comma. -/
theorem token_of_mem {k : Nat} {t : Token} {make : Expr → Expr → Expr}
    (h : (t, make) ∈ operatorsOf k) : t ≠ .question ∧ t ≠ .rparen := by
  obtain ⟨op, h, -⟩ := operator_of_mem h
  constructor <;> (rintro rfl; cases h)

/-! ## Commas -/

/-- The tokens are not closed directly after a comma, whatever stands around them. -/
structure Tidy (ts : List Token) : Prop where
  some_token : ts ≠ []
  first : ts.head? ≠ some .rparen
  last : ts.getLast? ≠ some .comma
  inside : ts.IsChain fun t u => ¬(t = .comma ∧ u = .rparen)

namespace Tidy

variable {ts us : List Token} {t : Token}

theorem singleton (opens : t ≠ .rparen) (further : t ≠ .comma) : Tidy [t] := by
  constructor <;> simp [opens, further]

theorem append (h : Tidy ts) (h' : Tidy us) : Tidy (ts ++ us) where
  some_token := by simp [h.some_token]
  first := by simpa [List.head?_append_of_ne_nil _ h.some_token] using h.first
  last := by simpa [List.getLast?_append_of_ne_nil _ h'.some_token] using h'.last
  inside := by
    refine List.isChain_append.mpr ⟨h.inside, h'.inside, fun x hx y hy => ?_⟩
    rintro ⟨rfl, -⟩
    exact h.last hx

/-- After a token that closes nothing, tidy tokens can go on. -/
theorem cons (h : Tidy ts) (opens : t ≠ .rparen) : Tidy (t :: ts) where
  some_token := by simp
  first := by simp [opens]
  last := by simpa [List.getLast?_cons, List.getLast?_eq_some_getLast h.some_token] using h.last
  inside := by
    refine List.isChain_cons.mpr ⟨fun y hy => ?_, h.inside⟩
    rintro ⟨-, rfl⟩
    exact h.first hy

theorem close (h : Tidy ts) : Tidy (ts ++ [.rparen]) where
  some_token := by simp
  first := by simpa [List.head?_append_of_ne_nil _ h.some_token] using h.first
  last := by simp
  inside := by
    refine List.isChain_append.mpr ⟨h.inside, by simp, fun x hx y _ => ?_⟩
    rintro ⟨rfl, -⟩
    exact h.last hx

theorem separated {args : List (List Token × Expr)} (some_arg : args ≠ [])
    (each : ∀ arg ∈ args, Tidy arg.1) : Tidy (separated (args.map Prod.fst)) := by
  refine separated_induction (fun h h' => h.append (h'.cons (by simp))) (by simpa) ?_
  simpa using fun ts e h => each (ts, e) h

end Tidy

theorem Derives.tidy {s : Symbol} {ts : List Token} {e : Expr} (h : Derives s ts e) : Tidy ts := by
  induction h with
  | plain _ ih | tighter _ _ ih | atom _ ih => exact ih
  | choice _ _ _ condition first second =>
    exact condition.append ((first.append (second.cons (by simp))).cons (by simp))
  | operation operator _ _ left right =>
    exact left.append (right.cons (token_of_mem operator).2)
  | neg _ ih | not _ ih => exact ih.cons nofun
  | int | float | str | var => exact .singleton nofun nofun
  | call name args each ih =>
    by_cases none : args = []
    · subst none
      constructor <;> simp
    · exact ((Tidy.separated none ih).close.cons (by simp)).cons (by simp)
  | parens _ ih => exact ih.close.cons (by simp)

/-- No parenthesis is closed directly after a comma. -/
theorem Derives.no_trailing_comma {s : Symbol} {before after : List Token} {e : Expr} :
    ¬ Derives s (before ++ .comma :: .rparen :: after) e := by
  intro h
  have inside := (List.isChain_append.mp h.tidy.inside).2.1
  simp at inside

/-! ## Ternaries -/

/-- After every `?` stands an expression of level 1, and a `:` after that. -/
def MarksMatch (ts : List Token) : Prop :=
  ∀ before after, ts = before ++ .question :: after →
    ∃ us vs e, after = us ++ .colon :: vs ∧ Derives (.level 1) us e

namespace MarksMatch

variable {ts us : List Token} {t : Token}

theorem nil : MarksMatch [] := by
  intro before after h
  simp at h

theorem cons (h : MarksMatch ts) (other : t ≠ .question) : MarksMatch (t :: ts) := by
  intro before after split
  cases before with
  | nil =>
    cases split
    exact absurd rfl other
  | cons _ before =>
    cases split
    exact h before after rfl

theorem append (h : MarksMatch ts) (h' : MarksMatch us) : MarksMatch (ts ++ us) := by
  intro before after split
  rcases List.append_eq_append_iff.mp split with ⟨mid, -, second⟩ | ⟨mid, first, rest⟩
  · exact h' mid after second
  · cases mid with
    | nil => exact h' [] after rest.symm
    | cons _ mid =>
      rw [List.cons_append, List.cons.injEq] at rest
      obtain ⟨rfl, rfl⟩ := rest
      obtain ⟨yes, others, e, rfl, derives⟩ := h before mid first
      exact ⟨yes, others ++ us, e, by simp, derives⟩

theorem mark {vs : List Token} {e : Expr} (derives : Derives (.level 1) us e)
    (first : MarksMatch us) (second : MarksMatch vs) :
    MarksMatch (.question :: (us ++ .colon :: vs)) := by
  intro before after split
  cases before with
  | nil =>
    cases split
    exact ⟨us, vs, e, rfl, derives⟩
  | cons _ before =>
    rw [List.cons_append, List.cons.injEq] at split
    exact first.append (second.cons (by simp)) before after split.2

end MarksMatch

theorem Derives.marksMatch {s : Symbol} {ts : List Token} {e : Expr} (h : Derives s ts e) :
    MarksMatch ts := by
  induction h with
  | plain _ ih | tighter _ _ ih | atom _ ih => exact ih
  | choice _ derives _ condition first second => exact condition.append (.mark derives first second)
  | operation operator _ _ left right =>
    exact left.append (right.cons (token_of_mem operator).1)
  | neg _ ih | not _ ih => exact ih.cons nofun
  | int | float | str | var => exact .cons .nil nofun
  | call name args each ih =>
    have close : MarksMatch [.rparen] := .cons .nil nofun
    have inside : MarksMatch (separated (args.map Prod.fst)) := by
      by_cases none : args = []
      · subst none
        exact .nil
      · refine separated_induction (fun h h' => h.append (h'.cons nofun)) (by simpa) ?_
        simpa using fun ts e h => ih (ts, e) h
    exact ((inside.append close).cons (by simp)).cons (by simp)
  | parens _ ih =>
    have close : MarksMatch [.rparen] := .cons .nil nofun
    exact (ih.append close).cons nofun

end LineTemplate.Expr
