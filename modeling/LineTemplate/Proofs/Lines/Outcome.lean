import LineTemplate.Run.State

/-!
# Results of steps

How a result of several steps comes about: each step succeeds in turn, or the first one that does
not is the result.
-/

namespace LineTemplate.Outcome

variable {ε α β : Type}

@[simp] theorem ok_bind (a : α) (f : α → Except ε β) : (Except.ok a >>= f) = f a := rfl

@[simp] theorem error_bind (e : ε) (f : α → Except ε β) :
    ((Except.error e : Except ε α) >>= f) = .error e := rfl

@[simp] theorem pure_eq_ok (a : α) : (pure a : Except ε α) = .ok a := rfl

theorem bind_eq_ok {x : Except ε α} {f : α → Except ε β} {b : β} :
    x >>= f = .ok b ↔ ∃ a, x = .ok a ∧ f a = .ok b := by
  cases x <;> simp

theorem bind_eq_error {x : Except ε α} {f : α → Except ε β} {e : ε} :
    x >>= f = .error e ↔ x = .error e ∨ ∃ a, x = .ok a ∧ f a = .error e := by
  cases x <;> simp

theorem map_eq_ok {x : Except ε α} {f : α → β} {b : β} :
    x.map f = .ok b ↔ ∃ a, x = .ok a ∧ f a = b := by
  cases x <;> simp [Except.map]

theorem map_eq_error {x : Except ε α} {f : α → β} {e : ε} :
    x.map f = .error e ↔ x = .error e := by
  cases x <;> simp [Except.map]

theorem map_eq_bind (x : Except ε α) (f : α → β) : x.map f = x >>= fun a => .ok (f a) := by
  cases x <;> rfl

theorem map_map {γ : Type} (x : Except ε α) (f : α → β) (g : β → γ) :
    (x.map f).map g = x.map fun a => g (f a) := by
  cases x <;> rfl

theorem map_bind {γ : Type} (x : Except ε α) (f : α → Except ε β) (g : β → γ) :
    (x >>= f).map g = x >>= fun a => (f a).map g := by
  cases x <;> rfl

theorem mapError_eq_ok {ε' : Type} {x : Except ε α} {f : ε → ε'} {a : α} :
    x.mapError f = .ok a ↔ x = .ok a := by
  cases x with
  | ok b =>
    have same : (Except.ok b : Except ε α).mapError f = .ok b := rfl
    rw [same, Except.ok.injEq, Except.ok.injEq]
  | error => exact ⟨nofun, nofun⟩

/-- What every step preserves is preserved by steps that all succeed. -/
theorem foldlM_preserves {P : α → Prop} {step : α → β → Except ε α} {items : List β} {a last : α}
    (preserves : ∀ a b next, P a → step a b = .ok next → P next) (initial : P a)
    (h : items.foldlM step a = .ok last) : P last := by
  induction items generalizing a with
  | nil =>
    cases h
    exact initial
  | cons b rest ih =>
    rw [List.foldlM_cons] at h
    obtain ⟨next, hs, h⟩ := bind_eq_ok.mp h
    exact ih (preserves a b next initial hs) h

@[simp] theorem map_ok (a : α) (f : α → β) : (Except.ok a : Except ε α).map f = .ok (f a) := rfl

@[simp] theorem map_error (e : ε) (f : α → β) : (Except.error e).map f = .error e := rfl

end LineTemplate.Outcome

namespace LineTemplate

/-- Two results: the same error, or two successes that are related. -/
inductive Matches {ε α β : Type} (R : α → β → Prop) : Except ε α → Except ε β → Prop where
  | error (e : ε) : Matches R (.error e) (.error e)
  | ok {a : α} {b : β} (related : R a b) : Matches R (.ok a) (.ok b)

namespace Matches

variable {ε α β γ α' β' : Type} {R : α → β → Prop} {S : α' → β' → Prop} {x : Except ε α}
  {y : Except ε β}

theorem iff_exists : Matches R x y ↔
    (∃ e, x = .error e ∧ y = .error e) ∨ ∃ a b, x = .ok a ∧ y = .ok b ∧ R a b := by
  constructor
  · rintro (_ | related)
    · exact .inl ⟨_, rfl, rfl⟩
    · exact .inr ⟨_, _, rfl, rfl, related⟩
  · rintro (⟨e, rfl, rfl⟩ | ⟨a, b, rfl, rfl, related⟩)
    · exact .error e
    · exact .ok related

theorem refl {R : α → α → Prop} (h : ∀ a, R a a) (x : Except ε α) : Matches R x x := by
  cases x with
  | error e => exact .error e
  | ok a => exact .ok (h a)

theorem maps (z : Except ε γ) {f : γ → α} {g : γ → β} (h : ∀ c, R (f c) (g c)) :
    Matches R (z.map f) (z.map g) := by
  cases z with
  | error e => exact .error e
  | ok c => exact .ok (h c)

theorem mono {R' : α → β → Prop} (h : Matches R x y) (hR : ∀ a b, R a b → R' a b) :
    Matches R' x y := by
  cases h with
  | error e => exact .error e
  | ok related => exact .ok (hR _ _ related)

theorem map (h : Matches R x y) {f : α → α'} {g : β → β'} (hf : ∀ a b, R a b → S (f a) (g b)) :
    Matches S (x.map f) (y.map g) := by
  cases h with
  | error e => exact .error e
  | ok related => exact .ok (hf _ _ related)

theorem bind (h : Matches R x y) {f : α → Except ε α'} {g : β → Except ε β'}
    (hf : ∀ a b, R a b → Matches S (f a) (g b)) : Matches S (x >>= f) (y >>= g) := by
  cases h with
  | error e => exact .error e
  | ok related => exact hf _ _ related

/-- The same steps in both, one after the other. -/
theorem bind_same (z : Except ε γ) {f : γ → Except ε α} {g : γ → Except ε β}
    (h : ∀ c, Matches R (f c) (g c)) : Matches R (z >>= f) (z >>= g) := by
  cases z with
  | error e => exact .error e
  | ok c => exact h c

end Matches

end LineTemplate

namespace LineTemplate.Run

variable {α : Type}

@[simp] theorem located_ok (run : Run) (location : Location) (a : α) :
    run.located location (.ok a) = .ok a := rfl

@[simp] theorem located_error (run : Run) (location : Location) (fault : Fault) :
    run.located location (.error fault : Except Fault α) =
      .error (.fault (fault.at location) run.evaluations) := rfl

theorem located_eq_ok {run : Run} {location : Location} {x : Except Fault α} {a : α} :
    run.located location x = .ok a ↔ x = .ok a := by
  cases x <;> simp [located]

theorem located_map {β : Type} (run : Run) (location : Location) (x : Except Fault α) (f : α → β) :
    run.located location (x.map f) = (run.located location x).map f := by
  cases x <;> rfl

/-- A fault is not a bound that was too low. -/
theorem located_ne_exhausted (run : Run) (location : Location) (x : Except Fault α) :
    run.located location x ≠ .error .exhausted := by
  cases x <;> simp [located]

end LineTemplate.Run
