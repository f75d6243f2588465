import LineTemplate.Proofs.Expressions.Grammar
import LineTemplate.Proofs.Expressions.Reading

/-!
# What the parser accepts

The parser climbs precedences and reads exactly the expressions of the grammar, whose symbols are
levels. By induction on the number of tokens, what is read is derived (`ternary_derives`), and by
induction on the derivation, what is derived is read (`Derives.complete`).

Both inductions have to say more about the loop that reads operators. In the first one, the
expression in hand is of some level, and no operator that binds tighter than this level follows on
it: an operator of power `p` leaves its right side only at an operator of at most power `p`. In the
second one, what the grammar derives is in hand at some turn of the loop, whatever the loop then
makes of it.

Main statement: `ofText_accepts_grammar`.
-/

namespace LineTemplate.Expr

/-! ## What is read is derived -/

/-- The first tokens spell an expression, and the others are left. -/
def Spells (s : Symbol) (ts : List Token) (e : Expr) (rest : List Token) : Prop :=
  ∃ used, ts = used ++ rest ∧ Derives s used e

/-- What is read from fewer than `n` tokens is derived, and operators are read up to one whose power
is too low. -/
structure SoundBelow (n : Nat) : Prop where
  ternary : ∀ {ts e rest}, ts.length < n → Gives (readTernary ts) e rest → Spells .ternary ts e rest
  operation : ∀ {least ts e rest}, ts.length < n → least ≤ prefixPower →
    Gives (readOperation least ts) e rest → Spells (.level least) ts e rest ∧ Stops least rest

section

variable {n : Nat} (inner : SoundBelow n)

include inner

theorem arguments_derives {name : Text} {ts rest : List Token} {values : List Expr}
    (short : ts.length < n) (h : Gives (readArguments name ts) values rest) :
    ∃ args : List (List Token × Expr), (∀ arg ∈ args, Derives .ternary arg.1 arg.2) ∧
      args ≠ [] ∧ args.map Prod.snd = values ∧
      ts = separated (args.map Prod.fst) ++ .rparen :: rest := by
  induction values generalizing ts with
  | nil =>
    rcases gives_readArguments.mp h with ⟨_, _, _, -, -, none⟩ | ⟨_, -, none⟩ <;> cases none
  | cons value values ih =>
    rcases gives_readArguments.mp h with ⟨arg, others, mid, ha, ho, same⟩ | ⟨arg, ha, same⟩
    · cases same
      obtain ⟨used, rfl, derives⟩ := inner.ternary short ha
      simp only [List.length_append, List.length_cons] at short
      obtain ⟨args, each, some_arg, rfl, rfl⟩ := ih (by omega) ho
      refine ⟨(used, value) :: args, List.forall_mem_cons.mpr ⟨derives, each⟩, by simp, rfl, ?_⟩
      rw [List.map_cons, separated_cons used (by simpa using some_arg)]
      simp
    · cases same
      obtain ⟨used, rfl, derives⟩ := inner.ternary short ha
      exact ⟨[(used, value)], by simpa using derives, by simp, rfl, by simp⟩

theorem atom_derives {ts rest : List Token} {e : Expr} (short : ts.length ≤ n)
    (h : Gives (readAtom ts) e rest) : Spells .atom ts e rest := by
  rw [readAtom.eq_def] at h
  split at h
  · obtain ⟨rfl, rfl⟩ := gives_ok.mp h
    exact ⟨_, rfl, .int _⟩
  · obtain ⟨rfl, rfl⟩ := gives_ok.mp h
    exact ⟨_, rfl, .float _⟩
  · obtain ⟨rfl, rfl⟩ := gives_ok.mp h
    exact ⟨_, rfl, .str _⟩
  · rename_i name tail
    obtain ⟨rfl, rfl⟩ := gives_ok.mp h
    exact ⟨_, rfl, .call name [] (by simp)⟩
  · rename_i name us some_arg
    obtain ⟨read, h, rfl, rfl⟩ := h
    split at h
    · cases h
    · rename_i values hv
      cases h
      simp only [List.length_cons] at short
      obtain ⟨args, each, -, same, spelled⟩ :=
        arguments_derives inner (by omega) ⟨values, hv, rfl, rfl⟩
      have derives := Derives.call name args each
      rw [same] at derives
      exact ⟨_, by simp [spelled], derives⟩
  · obtain ⟨rfl, rfl⟩ := gives_ok.mp h
    exact ⟨_, rfl, .var _⟩
  · rename_i us
    obtain ⟨read, h, rfl, rfl⟩ := h
    split at h
    · cases h
    · rename_i e he
      split at h
      · rename_i tail close
        cases h
        simp only [List.length_cons] at short
        obtain ⟨used, rfl, derives⟩ := inner.ternary (by omega) ⟨e, he, rfl, close⟩
        exact ⟨_, by simp, .parens derives⟩
      · cases h
  · exact absurd h not_gives_error

theorem prefixed_derives {ts rest : List Token} {e : Expr} (short : ts.length ≤ n)
    (h : Gives (readPrefixed ts) e rest) : Spells (.level 6) ts e rest := by
  rcases gives_readPrefixed.mp h with ⟨us, operand, rfl, ho, rfl⟩ | ⟨us, operand, rfl, ho, rfl⟩ | h
  · obtain ⟨⟨used, rfl, derives⟩, -⟩ := inner.operation short (Nat.le_refl _) ho
    exact ⟨.minus :: used, rfl, .neg derives⟩
  · obtain ⟨⟨used, rfl, derives⟩, -⟩ := inner.operation short (Nat.le_refl _) ho
    exact ⟨.bang :: used, rfl, .not derives⟩
  · obtain ⟨used, same, derives⟩ := atom_derives inner short h
    exact ⟨used, same, .atom derives⟩

theorem operators_derive {least high : Nat} (low : least ≤ high) (tight : high ≤ 6)
    {used ts rest : List Token} {l e : Expr} (short : ts.length ≤ n)
    (left : Derives (.level high) used l) (stops : Stops (high + 1) ts)
    (h : Gives (readOperators least l ts) e rest) :
    Spells (.level least) (used ++ ts) e rest ∧ Stops least rest := by
  induction hn : ts.length using Nat.strong_induction_on generalizing high used ts l with
  | _ m ih =>
    rcases gives_readOperators.mp h with ⟨rfl, rfl, stopped⟩ |
      ⟨t, us, op, r, mid, rfl, operator, enough, hr, further⟩
    · exact ⟨⟨used, rfl, left.looser tight low⟩, stopped⟩
    · have power : op.power ≤ high := Nat.le_of_lt_succ (stops t rfl op operator)
      obtain ⟨⟨right, rfl, derives⟩, stopped⟩ :=
        inner.operation short op.power_lt_prefixPower hr
      have joined : Derives (.level op.power) (used ++ t :: right) (op.apply l r) :=
        .operation (mem_operatorsOf operator) (left.looser tight power) derives
      simp only [List.length_cons, List.length_append] at short hn
      obtain ⟨⟨all, same, derives⟩, last⟩ := ih mid.length (by omega) enough (by omega) (by omega)
        joined stopped further rfl
      exact ⟨⟨all, by simpa using same, derives⟩, last⟩

theorem operation_derives {least : Nat} {ts rest : List Token} {e : Expr} (short : ts.length ≤ n)
    (low : least ≤ prefixPower) (h : Gives (readOperation least ts) e rest) :
    Spells (.level least) ts e rest ∧ Stops least rest := by
  obtain ⟨l, mid, hl, operators⟩ := gives_readOperation.mp h
  obtain ⟨used, rfl, derives⟩ := prefixed_derives inner short hl
  have stops : Stops 7 mid := fun _ _ op _ => Nat.lt_succ_of_lt op.power_lt_prefixPower
  rw [List.length_append] at short
  exact operators_derive inner low (Nat.le_refl 6) (by omega) derives stops operators

theorem ternary_derives_of_below {ts rest : List Token} {e : Expr} (short : ts.length ≤ n)
    (h : Gives (readTernary ts) e rest) : Spells .ternary ts e rest := by
  rcases gives_readTernary.mp h with ⟨h, -⟩ | ⟨cond, us, yes, vs, no, hc, hy, hn, rfl⟩
  · obtain ⟨⟨used, rfl, derives⟩, -⟩ := operation_derives inner short (by decide) h
    exact ⟨used, rfl, .plain derives⟩
  · obtain ⟨⟨ts, rfl, condition⟩, -⟩ := operation_derives inner short (by decide) hc
    simp only [List.length_append, List.length_cons] at short
    obtain ⟨⟨us, rfl, first⟩, -⟩ := operation_derives inner (by omega) (by decide) hy
    simp only [List.length_append, List.length_cons] at short
    obtain ⟨vs, rfl, second⟩ := inner.ternary (by omega) hn
    exact ⟨ts ++ .question :: (us ++ .colon :: vs), by simp, .choice condition first second⟩

end

theorem soundBelow (n : Nat) : SoundBelow n := by
  induction n with
  | zero =>
    exact ⟨fun short => absurd short (Nat.not_lt_zero _),
      fun short => absurd short (Nat.not_lt_zero _)⟩
  | succ n ih =>
    exact ⟨fun short => ternary_derives_of_below ih (Nat.le_of_lt_succ short),
      fun short => operation_derives ih (Nat.le_of_lt_succ short)⟩

theorem ternary_derives {ts rest : List Token} {e : Expr} (h : Gives (readTernary ts) e rest) :
    Spells .ternary ts e rest :=
  (soundBelow _).ternary (Nat.lt_succ_self _) h

/-! ## What is derived is read -/

/-- No operator of at least some power opens directly, and no parenthesis. -/
structure Loose (least : Nat) (rest : List Token) : Prop where
  closed : rest.head? ≠ some .lparen
  stops : Stops least rest

theorem Loose.mono {least high : Nat} {rest : List Token} (h : Loose least rest)
    (le : least ≤ high) : Loose high rest :=
  ⟨h.closed, h.stops.mono le⟩

theorem loose_nil (least : Nat) : Loose least [] := ⟨nofun, nofun⟩

theorem loose_of_mark {t : Token} {rest : List Token} (least : Nat) (closed : t ≠ .lparen)
    (mark : t.operator? = none) : Loose least (t :: rest) := by
  refine ⟨by simpa using closed, fun u hu => ?_⟩
  cases hu
  simp [mark]

theorem readOperators_stops {least : Nat} {rest : List Token} (e : Expr) (h : Stops least rest) :
    Gives (readOperators least e rest) e rest :=
  gives_readOperators.mpr (.inl ⟨rfl, rfl, h⟩)

/-- What the parser does with tokens that an instance of a symbol starts. An expression of a level
comes to be the left operand `e` of the loop that reads operators. -/
def Symbol.ReadsAs : Symbol → List Token → Expr → Prop
  | ternary, ts, e => ∀ rest, Loose 1 rest → rest.head? ≠ some .question →
      Gives (readTernary (ts ++ rest)) e rest
  | level k, ts, e => ∀ least, least ≤ k → ∀ rest value left, Loose (k + 1) rest →
      Gives (readOperators least e rest) value left →
        Gives (readOperation least (ts ++ rest)) value left
  | atom, ts, e => ∀ rest, rest.head? ≠ some .lparen → Gives (readAtom (ts ++ rest)) e rest

section

variable {ts us vs rest : List Token} {e l r cond yes no : Expr} {k : Nat}

/-- An expression that is read with the operators of its own level alone ends where these do. -/
theorem readOperation_of_level (h : (Symbol.level k).ReadsAs ts e) (loose : Loose k rest) :
    Gives (readOperation k (ts ++ rest)) e rest :=
  h k (Nat.le_refl k) rest e rest (loose.mono (Nat.le_succ k)) (readOperators_stops e loose.stops)

theorem readsAs_plain (only : (Symbol.level 1).ReadsAs ts e) : Symbol.ternary.ReadsAs ts e :=
  fun _ loose unmarked => gives_readTernary.mpr (.inl ⟨readOperation_of_level only loose, unmarked⟩)

theorem readsAs_choice (condition : (Symbol.level 1).ReadsAs ts cond)
    (first : (Symbol.level 1).ReadsAs us yes) (second : Symbol.ternary.ReadsAs vs no) :
    Symbol.ternary.ReadsAs (ts ++ .question :: (us ++ .colon :: vs)) (.ternary cond yes no) := by
  intro rest loose unmarked
  have marked : Loose 1 (.question :: (us ++ .colon :: (vs ++ rest))) :=
    loose_of_mark 1 (by simp) rfl
  have separated : Loose 1 (.colon :: (vs ++ rest)) := loose_of_mark 1 (by simp) rfl
  have hc := readOperation_of_level condition marked
  have hy := readOperation_of_level first separated
  have hn := second rest loose unmarked
  rw [List.append_assoc, List.cons_append, List.append_assoc, List.cons_append]
  exact gives_readTernary.mpr (.inr ⟨cond, _, yes, _, no, hc, hy, hn, rfl⟩)

theorem readsAs_tighter (only : (Symbol.level (k + 1)).ReadsAs ts e) :
    (Symbol.level k).ReadsAs ts e :=
  fun least low rest value left loose further =>
    only least (Nat.le_succ_of_le low) rest value left (loose.mono (Nat.le_succ _)) further

theorem readsAs_operation {t : Token} {make : Expr → Expr → Expr}
    (operator : (t, make) ∈ operatorsOf k) (left : (Symbol.level k).ReadsAs ts l)
    (right : (Symbol.level (k + 1)).ReadsAs us r) :
    (Symbol.level k).ReadsAs (ts ++ t :: us) (make l r) := by
  intro least low rest value left' loose further
  obtain ⟨op, isOperator, rfl, rfl⟩ := operator_of_mem operator
  have operand : Gives (readOperation (op.power + 1) (us ++ rest)) r rest :=
    readOperation_of_level right loose
  -- The operator and its right side are the next turn of the loop that reads the left side.
  have turn : Gives (readOperators least l (t :: (us ++ rest))) value left' :=
    gives_readOperators.mpr (.inr ⟨t, _, op, r, rest, rfl, isOperator, low, operand, further⟩)
  have openOperator : Loose (op.power + 1) (t :: (us ++ rest)) := by
    constructor
    · intro opens
      cases opens
      cases isOperator
    · intro u hu op' isOperator'
      cases hu
      cases isOperator.symm.trans isOperator'
      exact Nat.lt_succ_self _
  rw [List.append_assoc, List.cons_append]
  exact left least low _ value left' openOperator turn

theorem readsAs_prefixed
    (h : ∀ rest, rest.head? ≠ some .lparen → Gives (readPrefixed (ts ++ rest)) e rest) :
    (Symbol.level 6).ReadsAs ts e :=
  fun _ _ rest _ _ loose further => gives_readOperation.mpr ⟨e, rest, h rest loose.closed, further⟩

/-- After the operand of a prefix operator no operator can be read. -/
theorem readOperand_of_level (h : (Symbol.level 6).ReadsAs ts e)
    (closed : rest.head? ≠ some .lparen) :
    Gives (readOperation prefixPower (ts ++ rest)) e rest :=
  readOperation_of_level h ⟨closed, fun _ _ op _ => op.power_lt_prefixPower⟩

theorem readArguments_complete (name : Text) {args : List (List Token × Expr)}
    (some_arg : args ≠ [])
    (each : ∀ arg ∈ args, Symbol.ternary.ReadsAs arg.1 arg.2) (rest : List Token) :
    Gives (readArguments name (separated (args.map Prod.fst) ++ .rparen :: rest))
      (args.map Prod.snd) rest := by
  induction args with
  | nil => exact absurd rfl some_arg
  | cons arg args ih =>
    rw [List.forall_mem_cons] at each
    by_cases single : args = []
    · subst single
      have reads := each.1 (.rparen :: rest) (loose_of_mark 1 (by simp) rfl) (by simp)
      rw [List.map_singleton, separated_singleton]
      exact gives_readArguments.mpr (.inr ⟨arg.2, reads, rfl⟩)
    · have reads := each.1 (.comma :: (separated (args.map Prod.fst) ++ .rparen :: rest))
        (loose_of_mark 1 (by simp) rfl) (by simp)
      rw [List.map_cons, separated_cons _ (by simpa using single), List.append_assoc,
        List.cons_append]
      exact gives_readArguments.mpr (.inl ⟨arg.2, _, _, reads, ih single each.2, rfl⟩)

theorem readsAs_call (name : Text) {args : List (List Token × Expr)}
    (derives : ∀ arg ∈ args, Derives .ternary arg.1 arg.2)
    (each : ∀ arg ∈ args, Symbol.ternary.ReadsAs arg.1 arg.2) :
    Symbol.atom.ReadsAs (.ident name :: .lparen :: (separated (args.map Prod.fst) ++ [.rparen]))
      (.call name (args.map Prod.snd)) := by
  intro rest loose
  rw [List.cons_append, List.cons_append, List.append_assoc, List.singleton_append]
  by_cases none : args = []
  · subst none
    rw [List.map_nil, separated_nil, List.nil_append, readAtom]
    exact ⟨_, rfl, rfl, rfl⟩
  · have tidy : Tidy (separated (args.map Prod.fst)) :=
      .separated none fun arg h => (derives arg h).tidy
    refine gives_call ?_ (readArguments_complete name none each rest)
    rw [List.head?_append_of_ne_nil _ tidy.some_token]
    exact tidy.first

theorem readsAs_parens (inner : Symbol.ternary.ReadsAs ts e) :
    Symbol.atom.ReadsAs (.lparen :: (ts ++ [.rparen])) e := by
  intro rest loose
  rw [List.cons_append, List.append_assoc, List.singleton_append]
  exact gives_parens (inner (.rparen :: rest) (loose_of_mark 1 (by simp) rfl) (by simp))

end

/-- What the grammar derives is read, whatever follows, as long as that could not belong to it. -/
theorem Derives.complete {s : Symbol} {ts : List Token} {e : Expr} (h : Derives s ts e) :
    s.ReadsAs ts e := by
  induction h with
  | plain _ ih => exact readsAs_plain ih
  | choice _ _ _ condition first second => exact readsAs_choice condition first second
  | tighter _ _ ih => exact readsAs_tighter ih
  | operation operator _ _ left right => exact readsAs_operation operator left right
  | neg _ ih =>
    refine readsAs_prefixed fun rest closed => gives_readPrefixed.mpr (.inl ?_)
    exact ⟨_, _, rfl, readOperand_of_level ih closed, rfl⟩
  | not _ ih =>
    refine readsAs_prefixed fun rest closed => gives_readPrefixed.mpr (.inr (.inl ?_))
    exact ⟨_, _, rfl, readOperand_of_level ih closed, rfl⟩
  | atom _ ih =>
    exact readsAs_prefixed fun rest closed => gives_readPrefixed.mpr (.inr (.inr (ih rest closed)))
  | int | float | str =>
    intro rest _
    rw [List.singleton_append, readAtom]
    exact ⟨_, rfl, rfl, rfl⟩
  | var name => exact fun rest closed => gives_var closed
  | call name args derives ih => exact readsAs_call name derives ih
  | parens _ ih => exact readsAs_parens ih

/-! ## Texts -/

theorem ofText_eq_ok_iff (source : Text) (e : Expr) :
    ofText source = .ok e ↔ Derives .ternary (Token.ofText source) e := by
  unfold ofText
  constructor
  · intro h
    split at h
    · cases h
    · rename_i read hr
      split at h
      · rename_i none
        cases h
        obtain ⟨used, same, derives⟩ := ternary_derives ⟨read, hr, rfl, rfl⟩
        rw [List.isEmpty_iff.mp none, List.append_nil] at same
        exact same ▸ derives
      · cases h
  · intro derives
    have reads := derives.complete [] (loose_nil 1) (by simp)
    rw [List.append_nil] at reads
    obtain ⟨read, hr, rfl, none⟩ := reads
    rw [hr]
    dsimp only
    rw [none]
    rfl

theorem ofText_of_atom {s : Text} {ts : List Token} {e : Expr} (tokens : Token.ofText s = ts)
    (derives : Derives .atom ts e) : ofText s = .ok e :=
  (ofText_eq_ok_iff s e).mpr (tokens ▸ derives.ternary)

theorem Derives.unique {ts : List Token} {e e' : Expr} (h : Derives .ternary ts e)
    (h' : Derives .ternary ts e') : e = e' :=
  ((h.complete [] (loose_nil 1) (by simp)).unique (h'.complete [] (loose_nil 1) (by simp))).1

theorem ofText_rejects {source : Text} (h : ∀ e, ¬ Derives .ternary (Token.ofText source) e) :
    ∃ cause, ofText source = .error cause := by
  cases answer : ofText source with
  | error cause => exact ⟨cause, rfl⟩
  | ok e => exact absurd ((ofText_eq_ok_iff source e).mp answer) (h e)

/-- An expression, and then a token with which it cannot go on. -/
theorem ofText_trailing {source : Text} {ts us : List Token} {t : Token} {e : Expr}
    (tokens : Token.ofText source = ts ++ t :: us) (derives : Derives .ternary ts e)
    (noOperator : t.operator? = none) (noCall : t ≠ .lparen) (noMark : t ≠ .question) :
    ofText source = .error (.trailing (t :: us) source) := by
  have loose : Loose 1 (t :: us) := loose_of_mark 1 noCall noOperator
  have reads := derives.complete (t :: us) loose (by simpa using noMark)
  rw [← tokens] at reads
  obtain ⟨read, hr, rfl, left⟩ := reads
  unfold ofText
  rw [hr]
  dsimp only
  rw [left]
  rfl

/-- What is read between `?` and `:` goes on to the `:`, so no other `?` can stand there. -/
theorem Derives.no_inner_ternary {s : Symbol} {before yes after : List Token} {e e' : Expr}
    (inner : Derives (.level 1) yes e) :
    ¬ Derives s (before ++ .question :: (yes ++ .question :: after)) e' := by
  intro h
  obtain ⟨us, vs, e, same, derives⟩ := h.marksMatch before _ rfl
  have marked : Loose 1 (.question :: after) := loose_of_mark 1 (by simp) rfl
  have separated : Loose 1 (.colon :: vs) := loose_of_mark 1 (by simp) rfl
  have first := readOperation_of_level inner.complete marked
  have second := readOperation_of_level derives.complete separated
  rw [same] at first
  cases (first.unique second).2

/-- A text is an expression exactly if the grammar derives it from the tokens of the text, and then
it is the only one. Rejected are, among others, tokens after an expression, a comma before a closing
parenthesis, and a ternary without parentheses between `?` and `:`. -/
theorem ofText_accepts_grammar (source : Text) :
    (∀ e, ofText source = .ok e ↔ Derives .ternary (Token.ofText source) e) ∧
    (∀ e e', Derives .ternary (Token.ofText source) e →
      Derives .ternary (Token.ofText source) e' → e = e') ∧
    ((∀ e, ¬ Derives .ternary (Token.ofText source) e) → ∃ cause, ofText source = .error cause) ∧
    (∀ ts t us e, Token.ofText source = ts ++ t :: us → Derives .ternary ts e →
      t.operator? = none → t ≠ .lparen → t ≠ .question →
        ofText source = .error (.trailing (t :: us) source)) ∧
    (∀ before after, Token.ofText source = before ++ .comma :: .rparen :: after →
      ∃ cause, ofText source = .error cause) ∧
    (∀ before yes after e,
      Token.ofText source = before ++ .question :: (yes ++ .question :: after) →
      Derives (.level 1) yes e → ∃ cause, ofText source = .error cause) := by
  refine ⟨ofText_eq_ok_iff source, fun _ _ h h' => h.unique h', ofText_rejects, ?_, ?_, ?_⟩
  · intro ts t us e tokens derives noOperator noCall noMark
    exact ofText_trailing tokens derives noOperator noCall noMark
  · intro before after tokens
    refine ofText_rejects fun e derives => ?_
    rw [tokens] at derives
    exact derives.no_trailing_comma
  · intro before yes after e tokens inner
    refine ofText_rejects fun e derives => ?_
    rw [tokens] at derives
    exact inner.no_inner_ternary derives

end LineTemplate.Expr
