import Mathlib.Data.List.Basic

/-!
# Stacks over time

A stack that is given one operation after the other, each of which moves at most its top. An entry
is told from others by the time at which it was put there: it stands as long as the stack is higher
than it was then, and it is on top as long as nothing lies above it. Heights alone say so, whatever
the operations make of the entry in the meantime.

What holds of an entry is proved by `Stands.induction`: while other entries lie above it, the entry
is left alone.
-/

namespace LineTemplate

section

variable {σ ο : Type} {obey : σ → ο → σ} {start : σ} {operations : List ο} {n : Nat}

/-- The state before the operation with a number is given. -/
def stateAt (obey : σ → ο → σ) (start : σ) (operations : List ο) (n : Nat) : σ :=
  (operations.take n).foldl obey start

theorem stateAt_succ {operation : ο} (given : operations[n]? = some operation) :
    stateAt obey start operations (n + 1) =
      obey (stateAt obey start operations n) operation := by
  rw [stateAt, List.take_add_one, given, List.foldl_append]
  rfl

/-- After the last operation nothing happens. -/
theorem stateAt_succ_of_none (given : operations[n]? = none) :
    stateAt obey start operations (n + 1) = stateAt obey start operations n := by
  rw [stateAt, List.take_add_one, given]
  simp [stateAt]

/-- What holds at the start and is preserved by the operations holds at all times. -/
theorem stateAt_preserves {P : σ → Prop} (preserves : ∀ s operation, P s → P (obey s operation))
    (initial : P start) : P (stateAt obey start operations n) := by
  induction n with
  | zero => exact initial
  | succ n ih =>
    cases given : operations[n]? with
    | none => exact stateAt_succ_of_none given ▸ ih
    | some operation => exact stateAt_succ given ▸ preserves _ operation ih

end

/-- Where the rest below an entry is known, so is the entry. -/
theorem entry_unique {α : Type} (above above' : List α) {rest : List α} {a b : α}
    (h : above ++ a :: rest = above' ++ b :: rest) : a = b :=
  (List.cons.inj (List.append_inj' h rfl).2).1

/-- What one operation may do to a stack, the top of which comes first. -/
inductive Turn {α : Type} : List α → List α → Prop where
  | kept (s : List α) : Turn s s
  | pushed (a : α) (s : List α) : Turn s (a :: s)
  | replaced (a b : α) (s : List α) : Turn (a :: s) (b :: s)
  | popped (a : α) (s : List α) : Turn (a :: s) s

/-- Operations of which each moves at most the top of a stack do so at all times. -/
theorem turns_of_obey {σ ο α : Type} {obey : σ → ο → σ} (view : σ → List α)
    (obeys : ∀ s operation, Turn (view s) (view (obey s operation))) (start : σ)
    (operations : List ο) (n : Nat) :
    Turn (view (stateAt obey start operations n))
      (view (stateAt obey start operations (n + 1))) := by
  cases given : operations[n]? with
  | none =>
    rw [stateAt_succ_of_none given]
    exact .kept _
  | some operation =>
    rw [stateAt_succ given]
    exact obeys _ operation

/-- The entry that was put on a stack at time `m` is still there at time `n`. -/
def Stands {α : Type} (stack : Nat → List α) (m n : Nat) : Prop :=
  m < n ∧ ∀ k ≤ n, m < k → (stack m).length < (stack k).length

/-- The entry that was put on a stack at time `m` is the top of it at time `n`. -/
def OnTop {α : Type} (stack : Nat → List α) (m n : Nat) : Prop :=
  Stands stack m n ∧ (stack n).length = (stack m).length + 1

instance {α : Type} (stack : Nat → List α) (m n : Nat) : Decidable (Stands stack m n) :=
  inferInstanceAs (Decidable (_ ∧ _))

instance {α : Type} (stack : Nat → List α) (m n : Nat) : Decidable (OnTop stack m n) :=
  inferInstanceAs (Decidable (_ ∧ _))

section

variable {α : Type} {stack : Nat → List α} {m n : Nat} {a : α} {above rest s s' : List α}

namespace Turn

theorem length_le (h : Turn s s') : s'.length ≤ s.length + 1 := by
  cases h <;> simp +arith

theorem of_higher (h : Turn s s') (higher : s.length < s'.length) : ∃ a, s' = a :: s := by
  cases h with
  | kept | replaced => exact absurd higher (Nat.lt_irrefl _)
  | pushed a => exact ⟨a, rfl⟩
  | popped => exact absurd higher (Nat.not_lt_of_le (Nat.le_succ _))

/-- What lies under the top is left alone. -/
theorem suffix (h : Turn (a :: s) s') : s <:+ s' := by
  cases h with
  | kept => exact List.suffix_cons a s
  | pushed b => exact (List.suffix_cons a s).trans (List.suffix_cons b _)
  | replaced _ b => exact List.suffix_cons b s
  | popped => exact List.suffix_refl s

end Turn

/-- What is on top lies on the stack as it was before. -/
theorem OnTop.above_eq_nil (h : OnTop stack m n) (hs : stack n = above ++ a :: stack m) :
    above = [] := by
  have height := h.2
  rw [hs, List.length_append, List.length_cons] at height
  exact List.eq_nil_of_length_eq_zero (by omega)

namespace Stands

theorem lt (h : Stands stack m n) : m < n := h.1

theorem earlier {k : Nat} (h : Stands stack m n) (after : m < k) (before : k ≤ n) :
    Stands stack m k :=
  ⟨after, fun l hl => h.2 l (Nat.le_trans hl before)⟩

theorem higher (h : Stands stack m n) : (stack m).length < (stack n).length :=
  h.2 n (Nat.le_refl n) h.lt

/-- To prove something of an entry, it is enough to look at the times when it is on top. -/
theorem induction (turns : ∀ n, Turn (stack n) (stack (n + 1))) {P : Nat → α → Prop}
    (pushed : ∀ a, stack (m + 1) = a :: stack m → P (m + 1) a)
    (covered : ∀ n a, Stands stack m n → ¬ OnTop stack m n → P n a → P (n + 1) a)
    (turned : ∀ n a b above, OnTop stack m n → stack n = a :: stack m →
      stack (n + 1) = above ++ b :: stack m → P n a → P (n + 1) b)
    (h : Stands stack m n) : ∃ above a, stack n = above ++ a :: stack m ∧ P n a := by
  induction n with
  | zero => exact absurd h.lt (Nat.not_lt_zero m)
  | succ n ih =>
    have turn := turns n
    rcases Nat.lt_or_eq_of_le (Nat.le_of_lt_succ h.lt) with after | rfl
    · have stands := h.earlier after (Nat.le_succ n)
      obtain ⟨above, a, hs, known⟩ := ih stands
      cases above with
      | nil =>
        have top : OnTop stack m n := ⟨stands, by simp [hs]⟩
        obtain ⟨above, now⟩ := (hs ▸ turn).suffix
        -- The stack is still higher than before the entry, so something takes its place.
        obtain rfl | ⟨above, b, rfl⟩ := List.eq_nil_or_concat above
        · exact absurd h.higher (by simp [← now])
        · have now : stack (n + 1) = above ++ b :: stack m := by simp [← now]
          exact ⟨above, b, now, turned n a b above top hs now known⟩
      | cons c above =>
        have under : ¬ OnTop stack m n := fun top => List.cons_ne_nil c above (top.above_eq_nil hs)
        obtain ⟨above', now⟩ := (hs ▸ turn).suffix
        exact ⟨above' ++ above, a, by rw [← now, List.append_assoc]; rfl,
          covered n a stands under known⟩
    · obtain ⟨a, now⟩ := turn.of_higher h.higher
      exact ⟨[], a, now, pushed a now⟩

end Stands

theorem OnTop.lt (h : OnTop stack m n) : m < n := h.1.lt

/-- What was on top is on top again when all that was put on it is gone. -/
theorem OnTop.resume {k : Nat} (h : OnTop stack k m) (stands : Stands stack m n)
    (gone : stack (n + 1) = stack m) : OnTop stack k (n + 1) := by
  have after := stands.lt
  refine ⟨⟨by have := h.lt; omega, fun l hl later => ?_⟩, gone ▸ h.2⟩
  rcases Nat.lt_or_ge m l with during | before
  · rcases Nat.lt_or_eq_of_le hl with early | rfl
    · exact Nat.lt_trans h.1.higher (stands.2 l (Nat.le_of_lt_succ early) during)
    · exact gone ▸ h.1.higher
  · exact h.1.2 l before later

/-- An entry is never below one that was put there before it. -/
theorem OnTop.unique {m' : Nat} (h : OnTop stack m n) (h' : OnTop stack m' n) : m = m' := by
  obtain ⟨stands, height⟩ := h
  obtain ⟨stands', height'⟩ := h'
  rcases Nat.lt_trichotomy m m' with earlier | same | later
  · have higher := stands.2 m' (Nat.le_of_lt stands'.lt) earlier
    omega
  · exact same
  · have higher := stands'.2 m (Nat.le_of_lt stands.lt) later
    omega

/-- On a stack that was empty at first, what makes it higher than some height was put there when
the stack had that height. -/
theorem exists_stands (turns : ∀ n, Turn (stack n) (stack (n + 1))) (empty : stack 0 = [])
    {height : Nat} (higher : height < (stack n).length) :
    ∃ m, (stack m).length = height ∧ Stands stack m n := by
  induction n with
  | zero => simp [empty] at higher
  | succ n ih =>
    by_cases before : height < (stack n).length
    · obtain ⟨m, low, stands⟩ := ih before
      refine ⟨m, low, Nat.lt_succ_of_lt stands.lt, fun k hk after => ?_⟩
      rcases Nat.lt_or_eq_of_le hk with earlier | rfl
      · exact stands.2 k (Nat.le_of_lt_succ earlier) after
      · exact low ▸ higher
    · have low := (turns n).length_le
      refine ⟨n, by omega, Nat.lt_succ_self n, fun k hk after => ?_⟩
      obtain rfl : k = n + 1 := Nat.le_antisymm hk after
      omega

theorem exists_onTop (turns : ∀ n, Turn (stack n) (stack (n + 1))) (empty : stack 0 = [])
    (h : stack n = a :: rest) : ∃ m, OnTop stack m n := by
  have higher : rest.length < (stack n).length := by simp [h]
  obtain ⟨m, low, stands⟩ := exists_stands turns empty higher
  exact ⟨m, stands, by simp [h, low]⟩

end

end LineTemplate
