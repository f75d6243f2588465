import LineTemplate.Expression.Parser
import Mathlib.Tactic.Simproc.ExistsAndEq

/-!
# What the parsing functions read

Each parsing function has a lemma that says when it reads what, in terms of the functions that it
calls. The lemmas forget why a text is no expression, and that the tokens that are left are fewer.
-/

namespace LineTemplate.Expr

/-- A parsing function has read a value and left some tokens. -/
def Gives {α : Type} {limit : Nat} (result : Except ParseError (Read α limit)) (value : α)
    (rest : List Token) : Prop :=
  ∃ read, result = .ok read ∧ read.value = value ∧ read.rest = rest

section

variable {α : Type} {limit : Nat} {result : Except ParseError (Read α limit)} {v v' : α}
  {rest rest' : List Token}

theorem Gives.unique (h : Gives result v rest) (h' : Gives result v' rest') :
    v = v' ∧ rest = rest' := by
  obtain ⟨read, rfl, rfl, rfl⟩ := h
  obtain ⟨read', same, rfl, rfl⟩ := h'
  cases same
  exact ⟨rfl, rfl⟩

theorem gives_ok {read : Read α limit} :
    Gives (.ok read) v rest ↔ read.value = v ∧ read.rest = rest := by
  simp [Gives]

theorem not_gives_error {cause : ParseError} :
    ¬ Gives (.error cause : Except ParseError (Read α limit)) v rest := by
  simp [Gives]

end

/-- No operator of at least some power opens the tokens. -/
def Stops (least : Nat) (ts : List Token) : Prop :=
  ∀ t ∈ ts.head?, ∀ op, t.operator? = some op → op.power < least

theorem Stops.mono {least high : Nat} {ts : List Token} (h : Stops least ts) (le : least ≤ high) :
    Stops high ts :=
  fun t ht op operator => Nat.lt_of_lt_of_le (h t ht op operator) le

/-! ## The parsing functions -/

section

variable {ts us rest : List Token} {t : Token} {e l r v cond yes no : Expr} {name : Text}
  {args : List Expr} {least : Nat} {op : Operator}

theorem gives_readTernary : Gives (readTernary ts) e rest ↔
    (Gives (readOperation 1 ts) e rest ∧ rest.head? ≠ some .question) ∨
    ∃ cond us yes vs no, Gives (readOperation 1 ts) cond (.question :: us) ∧
      Gives (readOperation 1 us) yes (.colon :: vs) ∧ Gives (readTernary vs) no rest ∧
      e = .ternary cond yes no := by
  constructor
  · rintro ⟨read, h, rfl, rfl⟩
    rw [readTernary] at h
    split at h
    · cases h
    · rename_i cond hc
      split at h
      · rename_i us mark
        split at h
        · cases h
        · rename_i yes hy
          split at h
          · rename_i vs colon
            split at h
            · cases h
            · rename_i no hn
              cases h
              exact .inr ⟨_, us, _, vs, _, ⟨cond, hc, rfl, mark⟩, ⟨yes, hy, rfl, colon⟩,
                ⟨no, hn, rfl, rfl⟩, rfl⟩
          · cases h
      · rename_i other
        cases h
        refine .inl ⟨⟨read, hc, rfl, rfl⟩, fun mark => ?_⟩
        obtain ⟨us, mark⟩ := List.head?_eq_some_iff.mp mark
        exact other us mark
  · rintro (⟨⟨cond, hc, rfl, rfl⟩, unmarked⟩ | ⟨_, us, _, vs, _, ⟨cond, hc, rfl, mark⟩,
      ⟨yes, hy, rfl, colon⟩, ⟨no, hn, rfl, rfl⟩, rfl⟩)
    · rw [readTernary, hc]
      dsimp only
      split
      · rename_i us mark
        simp [mark] at unmarked
      · exact ⟨cond, rfl, rfl, rfl⟩
    · rw [readTernary, hc]
      dsimp only
      split
      · rename_i us' mark'
        cases mark.symm.trans mark'
        rw [hy]
        dsimp only
        split
        · rename_i vs' colon'
          cases colon.symm.trans colon'
          rw [hn]
          exact ⟨_, rfl, rfl, rfl⟩
        · rename_i other
          exact absurd colon (other vs)
      · rename_i other
        exact absurd mark (other us)

theorem gives_readOperation : Gives (readOperation least ts) e rest ↔
    ∃ l mid, Gives (readPrefixed ts) l mid ∧ Gives (readOperators least l mid) e rest := by
  constructor
  · rintro ⟨read, h, rfl, rfl⟩
    rw [readOperation] at h
    split at h
    · cases h
    · rename_i l hl
      split at h
      · cases h
      · rename_i r hr
        cases h
        exact ⟨_, _, ⟨l, hl, rfl, rfl⟩, r, hr, rfl, rfl⟩
  · rintro ⟨_, _, ⟨l, hl, rfl, rfl⟩, r, hr, rfl, rfl⟩
    rw [readOperation, hl]
    dsimp only
    rw [hr]
    exact ⟨_, rfl, rfl, rfl⟩

theorem gives_readOperators : Gives (readOperators least l ts) e rest ↔
    (e = l ∧ rest = ts ∧ Stops least ts) ∨
    ∃ t us op r mid, ts = t :: us ∧ t.operator? = some op ∧ least ≤ op.power ∧
      Gives (readOperation (op.power + 1) us) r mid ∧
      Gives (readOperators least (op.apply l r) mid) e rest := by
  rw [readOperators.eq_def]
  split
  · simp [gives_ok, Stops, eq_comm]
  · rename_i t us
    cases operator : t.operator? with
    | none => simp [gives_ok, Stops, operator, eq_comm]
    | some op =>
      by_cases low : op.power < least
      · have other : ¬ least ≤ op.power := Nat.not_le.mpr low
        simp [gives_ok, Stops, operator, low, other, eq_comm]
      · dsimp only
        rw [if_neg low]
        constructor
        · rintro ⟨read, h, rfl, rfl⟩
          split at h
          · cases h
          · rename_i r hr
            split at h
            · cases h
            · rename_i e he
              cases h
              exact .inr ⟨t, us, op, _, _, rfl, operator, Nat.not_lt.mp low, ⟨r, hr, rfl, rfl⟩,
                e, he, rfl, rfl⟩
        · rintro (⟨-, -, stops⟩ |
            ⟨_, _, op', _, _, ⟨⟩, operator', -, ⟨r, hr, rfl, rfl⟩, e, he, rfl, rfl⟩)
          · exact absurd (stops t rfl op operator) low
          · cases operator.symm.trans operator'
            rw [hr]
            dsimp only
            rw [he]
            exact ⟨_, rfl, rfl, rfl⟩

theorem gives_readPrefixed : Gives (readPrefixed ts) e rest ↔
    (∃ us operand, ts = .minus :: us ∧ Gives (readOperation prefixPower us) operand rest ∧
      e = .neg operand) ∨
    (∃ us operand, ts = .bang :: us ∧ Gives (readOperation prefixPower us) operand rest ∧
      e = .not operand) ∨
    Gives (readAtom ts) e rest := by
  rw [readPrefixed.eq_def]
  split
  · rename_i us
    have closed : ¬ Gives (readAtom (.minus :: us)) e rest := by simp [readAtom, not_gives_error]
    cases h : readOperation prefixPower us with
    | error => simp [h, closed, not_gives_error]
    | ok read => simp [h, closed, gives_ok, eq_comm, and_comm]
  · rename_i us
    have closed : ¬ Gives (readAtom (.bang :: us)) e rest := by simp [readAtom, not_gives_error]
    cases h : readOperation prefixPower us with
    | error => simp [h, closed, not_gives_error]
    | ok read => simp [h, closed, gives_ok, eq_comm, and_comm]
  · rename_i other other'
    refine ⟨fun h => .inr (.inr h), ?_⟩
    rintro (⟨us, -, rfl, -⟩ | ⟨us, -, rfl, -⟩ | h)
    · exact absurd rfl (other us)
    · exact absurd rfl (other' us)
    · exact h

theorem gives_readArguments : Gives (readArguments name ts) args rest ↔
    (∃ arg others mid, Gives (readTernary ts) arg (.comma :: mid) ∧
      Gives (readArguments name mid) others rest ∧ args = arg :: others) ∨
    ∃ arg, Gives (readTernary ts) arg (.rparen :: rest) ∧ args = [arg] := by
  constructor
  · rintro ⟨read, h, rfl, rfl⟩
    rw [readArguments] at h
    split at h
    · cases h
    · rename_i arg ha
      split at h
      · rename_i mid comma
        split at h
        · cases h
        · rename_i others ho
          cases h
          exact .inl ⟨_, _, mid, ⟨arg, ha, rfl, comma⟩, ⟨others, ho, rfl, rfl⟩, rfl⟩
      · rename_i rest close
        cases h
        exact .inr ⟨_, ⟨arg, ha, rfl, close⟩, rfl⟩
      · cases h
  · rintro (⟨_, _, mid, ⟨arg, ha, rfl, comma⟩, ⟨others, ho, rfl, rfl⟩, rfl⟩ |
      ⟨_, ⟨arg, ha, rfl, close⟩, rfl⟩)
    · rw [readArguments, ha]
      dsimp only
      split
      · rename_i mid' comma'
        cases comma.symm.trans comma'
        rw [ho]
        exact ⟨_, rfl, rfl, rfl⟩
      · rename_i close
        cases comma.symm.trans close
      · rename_i other _
        exact absurd comma (other mid)
    · rw [readArguments, ha]
      dsimp only
      split
      · rename_i comma
        cases close.symm.trans comma
      · rename_i rest' close'
        cases close.symm.trans close'
        exact ⟨_, rfl, rfl, rfl⟩
      · rename_i other
        exact absurd close (other rest)

theorem gives_var {name : Text} (closed : rest.head? ≠ some .lparen) :
    Gives (readAtom (.ident name :: rest)) (.var name) rest := by
  rw [readAtom]
  · exact ⟨_, rfl, rfl, rfl⟩
  all_goals
    rintro tail rfl
    simp at closed

theorem gives_call {name : Text} {ts : List Token} {args : List Expr}
    (some_arg : ts.head? ≠ some .rparen) (h : Gives (readArguments name ts) args rest) :
    Gives (readAtom (.ident name :: .lparen :: ts)) (.call name args) rest := by
  obtain ⟨read, h, rfl, rfl⟩ := h
  rw [readAtom, h]
  · exact ⟨_, rfl, rfl, rfl⟩
  · rintro tail rfl
    simp at some_arg

theorem gives_parens {ts : List Token} (h : Gives (readTernary ts) e (.rparen :: rest)) :
    Gives (readAtom (.lparen :: ts)) e rest := by
  obtain ⟨read, h, rfl, close⟩ := h
  rw [readAtom, h]
  dsimp only
  split
  · rename_i rest' close'
    cases close.symm.trans close'
    exact ⟨_, rfl, rfl, rfl⟩
  · rename_i other
    exact absurd close (other rest)

end

end LineTemplate.Expr
