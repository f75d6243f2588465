import LineTemplate.Proofs.Blocks.Branches
import LineTemplate.Proofs.Blocks.Form

/-!
# Outlines

What a run knows of the structure of the lines that it has read of a source: for each open chain
whether its last branch has begun, and what it captures. The outline follows from the forms of the
lines alone (`next`), and a line that succeeds leaves the run with the outline that follows
(`route_outlines`).

Lines through which the outline can be followed to the end are nested well where bodies are passed
over (`Skeleton`). Through lines that are nested well, it can be followed, and the bodies that are
captured on the way are nested well in turn (`Sound`).
-/

namespace LineTemplate

structure Outline where
  /-- The open chains, innermost first: the last branch has begun. -/
  chains : List Bool := []
  /-- The block whose body is captured, and how many blocks of that kind are open inside of it. -/
  skipped : Option (Captured × Nat) := none
  deriving DecidableEq

namespace Outline

/-- The outline after a line of some form, if the line is possible there. -/
def next (s : Outline) (form : Form) : Option Outline :=
  match s.skipped with
  | some (k, inner) =>
    some { s with
      skipped := (Nesting.skip k.kind inner form.role).map fun (_, inner) => (k, inner) }
  | none =>
    match form, s.chains with
    | .plain, _ => some s
    | .opener, chains => some { s with chains := false :: chains }
    | .elseIf, false :: _ => some s
    | .otherwise, false :: chains => some { s with chains := true :: chains }
    | .endIf, _ :: chains => some { s with chains }
    | .starts k, _ => some { s with skipped := some (k, 0) }
    | _, _ => none

/-- The rest of the lines, where loops and macros are passed over, closes what is open and is nested
well otherwise. -/
def Skeleton (s : Outline) (forms : List Form) : Prop :=
  match s.skipped with
  | none => ∃ rest, Skims forms rest ∧ Accepts s.chains rest
  | some (k, inner) =>
    ∃ body after rest, forms = body ++ .stops k :: after ∧
      Nesting.within k.kind inner (body.map Form.role) = some 0 ∧ Skims after rest ∧
      Accepts s.chains rest

/-- The rest of the lines closes what is open and is nested well otherwise, and so is the body that
is captured, of which the forms in `done` have been read. -/
def Sound (s : Outline) (done forms : List Form) : Prop :=
  match s.skipped with
  | none => Accepts s.chains forms
  | some (k, inner) =>
    ∃ body after, forms = body ++ .stops k :: after ∧
      Nesting.within k.kind inner (body.map Form.role) = some 0 ∧ Nested .block (done ++ body) ∧
      Accepts s.chains after

variable {s s' : Outline} {form : Form} {done forms : List Form} {k : Captured} {inner : Nat}

theorem skeleton_nil : Skeleton {} [] :=
  ⟨[], .nil, .nil⟩

theorem nested_of_skeleton (h : Skeleton {} forms) :
    ∃ rest, Skims forms rest ∧ Nested .block rest := by
  obtain ⟨rest, skims, accepts⟩ := h
  exact ⟨rest, skims, accepts_iff.mp accepts⟩

theorem sound_of_nested (h : Nested .block forms) : Sound {} [] forms :=
  accepts_iff.mpr h

theorem eq_of_sound_nil (h : Sound s done []) : s = {} := by
  obtain ⟨chains, skipped⟩ := s
  cases skipped with
  | none =>
    cases h
    rfl
  | some block =>
    obtain ⟨body, after, impossible, -⟩ := h
    simp at impossible

/-- A line of a body: it ends the body or leaves a number of inner blocks open. -/
theorem skip_cases (k : Captured) (inner : Nat) (form : Form) :
    (form = .stops k ∧ inner = 0 ∧ Nesting.skip k.kind inner form.role = none) ∨
      ∃ inner', Nesting.skip k.kind inner form.role = some (k.kind, inner') := by
  cases hs : Nesting.skip k.kind inner form.role with
  | some block =>
    obtain ⟨kind, inner'⟩ := block
    cases Nesting.skip_kind hs
    exact .inr ⟨inner', rfl⟩
  | none =>
    refine .inl ?_
    unfold Nesting.skip at hs
    split at hs
    · rename_i closes
      cases inner with
      | zero => exact ⟨Form.role_eq_stops.mp closes, rfl, rfl⟩
      | succ inner => cases hs
    · split at hs <;> cases hs

theorem next_of_skipped (h : s.skipped = some (k, inner)) :
    s.next form = some { s with
      skipped := (Nesting.skip k.kind inner form.role).map fun (_, inner) => (k, inner) } := by
  simp [next, h]

theorem Skeleton.cons_skipped {chains : List Bool}
    (h : Skeleton ⟨chains, (Nesting.skip k.kind inner form.role).map fun (_, inner) => (k, inner)⟩
      forms) :
    Skeleton ⟨chains, some (k, inner)⟩ (form :: forms) := by
  rcases skip_cases k inner form with ⟨rfl, rfl, hs⟩ | ⟨inner', hs⟩
  · rw [hs] at h
    obtain ⟨rest, skims, accepts⟩ := h
    exact ⟨[], forms, rest, rfl, rfl, skims, accepts⟩
  · rw [hs] at h
    obtain ⟨body, after, rest, rfl, within, skims, accepts⟩ := h
    refine ⟨form :: body, after, rest, rfl, ?_, skims, accepts⟩
    exact Nesting.within_cons_eq_some.mpr ⟨inner', hs, within⟩

theorem Skeleton.cons_kept {before after : List Bool}
    (own : ∀ k, form ≠ .starts k ∧ form ≠ .stops k)
    (accepts : ∀ {rest}, Accepts after rest → Accepts before (form :: rest))
    (h : Skeleton ⟨after, none⟩ forms) : Skeleton ⟨before, none⟩ (form :: forms) := by
  obtain ⟨rest, skims, further⟩ := h
  exact ⟨form :: rest, .kept own skims, accepts further⟩

/-- What is known of the rest of the lines is known before the line that was read. -/
theorem Skeleton.cons (next : s.next form = some s') (h : Skeleton s' forms) :
    Skeleton s (form :: forms) := by
  obtain ⟨chains, skipped⟩ := s
  cases skipped with
  | some block =>
    cases (next_of_skipped rfl).symm.trans next
    exact h.cons_skipped
  | none =>
    cases form with
    | plain =>
      cases next
      exact h.cons_kept (by simp) .plain
    | opener =>
      cases next
      exact h.cons_kept (by simp) .opener
    | elseIf =>
      match chains with
      | false :: chains =>
        cases next
        exact h.cons_kept (by simp) .elseIf
      | true :: chains | [] => cases next
    | otherwise =>
      match chains with
      | false :: chains =>
        cases next
        exact h.cons_kept (by simp) .otherwise
      | true :: chains | [] => cases next
    | endIf =>
      match chains with
      | last :: chains =>
        cases next
        exact h.cons_kept (by simp) .endIf
      | [] => cases next
    | starts k =>
      cases next
      obtain ⟨body, after, rest, rfl, matched, skims, accepts⟩ := h
      exact ⟨rest, .skipped k matched skims, accepts⟩
    | stops k => cases next

/-- Lines that are nested well are possible where they stand. -/
theorem Sound.line (h : Sound s done (form :: forms)) (unskipped : s.skipped = none) :
    ∃ s', s.next form = some s' ∧ Sound s' [] forms := by
  obtain ⟨chains, skipped⟩ := s
  subst unskipped
  cases h with
  | captured k inner further =>
    exact ⟨⟨chains, some (k, 0)⟩, rfl, _, _, rfl, inner.matched k, inner, further⟩
  | plain further | opener further | elseIf further | otherwise further | endIf further =>
    exact ⟨_, rfl, further⟩

theorem Sound.inside {chains : List Bool} {inner' : Nat}
    (h : Sound ⟨chains, some (k, inner)⟩ done (form :: forms))
    (hs : Nesting.skip k.kind inner form.role = some (k.kind, inner')) :
    Sound ⟨chains, some (k, inner')⟩ (done ++ [form]) forms := by
  obtain ⟨body, after, split, within, nested, accepts⟩ := h
  cases body with
  | nil =>
    cases split
    cases within
    rw [Form.role_eq_stops.mpr rfl] at hs
    simp [Nesting.skip] at hs
  | cons first body =>
    cases split
    obtain ⟨inner'', hs', within⟩ := Nesting.within_cons_eq_some.mp within
    cases hs.symm.trans hs'
    refine ⟨body, after, rfl, within, ?_, accepts⟩
    rwa [List.append_assoc]

/-- The body that was captured is nested well. -/
theorem Sound.ended {chains : List Bool}
    (h : Sound ⟨chains, some (k, inner)⟩ done (form :: forms))
    (hs : Nesting.skip k.kind inner form.role = none) :
    Nested .block done ∧ Sound ⟨chains, none⟩ [] forms := by
  obtain ⟨body, after, split, within, nested, accepts⟩ := h
  cases body with
  | nil =>
    cases split
    rw [List.append_nil] at nested
    exact ⟨nested, accepts⟩
  | cons first body =>
    cases split
    obtain ⟨inner', hs', -⟩ := Nesting.within_cons_eq_some.mp within
    cases hs.symm.trans hs'

end Outline

/-! ## Outlines of runs -/

def CaptureHead.captured : CaptureHead → Captured
  | loop .. => .loop
  | macroBody .. => .macroBody

@[simp] theorem CaptureHead.captured_kind (head : CaptureHead) :
    head.captured.kind = head.kind := by
  cases head <;> rfl

/-- What an outline knows of a body that is captured. -/
def Capture.scanned (c : Capture) : Captured × Nat :=
  (c.head.captured, c.depth)

/-- The last branch of the chain has begun. -/
def Chain.isLast (c : Chain) : Bool :=
  c.branch = .otherwise

namespace Run

/-- On top of the chains `base`, which the source has not opened, the run has the given outline. -/
structure Outlined (base : List Chain) (s : Outline) (run : Run) : Prop where
  chains : ∃ own, run.conditionals.chains = own ++ base ∧ own.map Chain.isLast = s.chains
  floor : run.floors.conditionals = base.length
  captures : run.captures.captures.map Capture.scanned = s.skipped.toList

section

variable {env : Environment} {run run' : Run} {line : Line} {task : Task} {base : List Chain}
  {s : Outline} {location : Location}

theorem Outlined.uncaptured_iff (h : Outlined base s run) :
    run.captures.captures = [] ↔ s.skipped = none := by
  rw [← List.map_eq_nil_iff, h.captures, Option.toList_eq_nil_iff]

theorem Outlined.of_eq (h : Outlined base s run)
    (conditionals : run'.conditionals = run.conditionals) (floors : run'.floors = run.floors)
    (captures : run'.captures = run.captures) : Outlined base s run' where
  chains := conditionals ▸ h.chains
  floor := floors ▸ h.floor
  captures := captures ▸ h.captures

theorem Outlined.depth (h : Outlined base s run) :
    run.conditionals.depth = s.chains.length + run.floors.conditionals := by
  obtain ⟨own, split, flags⟩ := h.chains
  rw [ConditionalStack.depth, split, List.length_append, h.floor, ← flags, List.length_map]

theorem content_of_form (notPlain : env.config.indicators.form line.text ≠ .plain) :
    ∃ statement, Statement.classify env.config.indicators (fun _ => false) line.text =
        .ok statement ∧
      statement.content.form = env.config.indicators.form line.text := by
  unfold Indicators.form at notPlain ⊢
  cases meaning : Statement.classify env.config.indicators (fun _ => false) line.text with
  | error e => exact absurd (by rw [meaning]; rfl) notPlain
  | ok statement => exact ⟨statement, rfl, rfl⟩

/-- A line that is not plain does what its form says, whatever macros are known. -/
theorem route_of_form (uncaptured : run.captures.captures = [])
    (notPlain : env.config.indicators.form line.text ≠ .plain) :
    ∃ statement, statement.content.form = env.config.indicators.form line.text ∧
      run.route env line = run.execute env statement line.location := by
  obtain ⟨statement, meaning, form⟩ := content_of_form notPlain
  refine ⟨statement, form, route_of_role uncaptured meaning ?_⟩
  rw [← form] at notPlain
  rw [← Content.form_role]
  exact mt Form.role_eq_none.mp notPlain

theorem elseIf_branch {condition : Text} (h : run.elseIf env condition location = .ok run') :
    ∃ next rest, run'.conditionals.chains = next :: rest ∧ next.isLast = false := by
  unfold elseIf at h
  obtain ⟨stack, hs, rfl⟩ := Outcome.map_eq_ok.mp h
  obtain ⟨chain, rest, next, -, rfl, branch, -⟩ := elseIf?_ok (located_eq_ok.mp hs)
  exact ⟨next, rest, rfl, by simp [Chain.isLast, branch]⟩

/-- Whether the last branch of a chain has begun is up to the line that has continued the chain. -/
theorem route_branch (uncaptured : run.captures.captures = [])
    (continues : env.config.indicators.form line.text = .elseIf ∨
      env.config.indicators.form line.text = .otherwise)
    (hr : run.route env line = .ok (run', task)) :
    ∃ next rest, run'.conditionals.chains = next :: rest ∧
      next.isLast = Decidable.decide (env.config.indicators.form line.text = .otherwise) := by
  have notPlain : env.config.indicators.form line.text ≠ .plain := by
    rcases continues with h | h <;> simp [h]
  obtain ⟨⟨raw, content⟩, form, routed⟩ := route_of_form uncaptured notPlain
  rw [routed] at hr
  rw [← form] at continues ⊢
  match content with
  | .literal => simp [Content.form] at continues
  | .cursor op name rest => cases op <;> simp [Content.form] at continues
  | .directive kind name expression =>
    cases kind with
    | elseIf =>
      obtain ⟨next, hn, he⟩ := Outcome.map_eq_ok.mp hr
      cases he
      exact elseIf_branch hn
    | otherwise =>
      obtain ⟨next, hn, he⟩ := Outcome.map_eq_ok.mp hr
      cases he
      obtain ⟨stack, hs, rfl⟩ := Outcome.map_eq_ok.mp (located_eq_ok.mp hn)
      obtain ⟨chain, rest, next, -, rfl, branch, -⟩ := otherwise?_ok hs
      exact ⟨next, rest, rfl, by simp [Chain.isLast, branch, Content.form, Directive.form]⟩
    | _ => simp [Content.form, Directive.form] at continues

end

section

variable {env : Environment} {run run' : Run} {line : Line} {task : Task} {base : List Chain}
  {s s' : Outline} {form : Form} {location : Location}

/-- The chain that a source reaches first, if it is one of its own. -/
theorem Outlined.top {chain : Chain} {rest : List Chain} (h : Outlined base s run)
    (top : run.conditionals.chains = chain :: rest)
    (own : run.floors.conditionals ≤ rest.length) :
    ∃ outer, rest = outer ++ base ∧ s.chains = chain.isLast :: outer.map Chain.isLast := by
  obtain ⟨own', split, flags⟩ := h.chains
  rw [top] at split
  cases own' with
  | nil =>
    have short := congrArg List.length split
    rw [List.nil_append, List.length_cons, ← h.floor] at short
    omega
  | cons first outer =>
    cases split
    exact ⟨outer, rfl, flags.symm⟩

theorem Outlined.capturing {c : Capture} {rest : List Capture} (h : Outlined base s run)
    (capturing : run.captures.captures = c :: rest) :
    s.skipped = some c.scanned ∧ rest = [] := by
  have captures := h.captures
  rw [capturing, List.map_cons] at captures
  cases skipped : s.skipped with
  | none => simp [skipped] at captures
  | some block =>
    rw [skipped, Option.toList_some, List.cons.injEq] at captures
    exact ⟨congrArg some captures.1.symm, List.map_eq_nil_iff.mp captures.2⟩

theorem Outlined.action (h : Outlined base s run) (uncaptured : run.captures.captures = [])
    (branch : form = .elseIf ∨ form = .otherwise → ∃ next rest,
      run'.conditionals.chains = next :: rest ∧ next.isLast = Decidable.decide (form = .otherwise))
    (action : Action env run location form.role run' task) :
    ∃ s', s.next form = some s' ∧ Outlined base s' run' := by
  obtain ⟨chains, skipped⟩ := s
  cases h.uncaptured_iff.mp uncaptured
  generalize hrole : form.role = role at action
  cases action with
  | idle | emitted | entered | switched | left | assigned | called | included =>
    cases Form.role_eq_none.mp hrole
    exact ⟨_, rfl, h.of_eq rfl rfl rfl⟩
  | opened =>
    cases Form.role_eq_opener.mp hrole
    obtain ⟨own, split, flags⟩ := h.chains
    refine ⟨_, rfl, ⟨_ :: own, congrArg (List.cons _) split, ?_⟩, h.floor, h.captures⟩
    rw [List.map_cons, flags]
    rfl
  | @continued chain next rest asked top own further =>
    obtain ⟨outer, rfl, flags⟩ := h.top top own
    obtain ⟨next', rest', top', last⟩ := branch (Form.role_eq_continues.mp hrole)
    cases top'
    -- A chain only goes on before its last branch, which the flag on top of the outline says.
    have open_branch : chain.isLast = false := by simpa [Chain.isLast] using further
    rw [open_branch] at flags
    cases flags
    rcases Form.role_eq_continues.mp hrole with rfl | rfl
    · exact ⟨_, rfl, ⟨next :: outer, rfl, by rw [List.map_cons, last]; rfl⟩, h.floor, h.captures⟩
    · exact ⟨_, rfl, ⟨next :: outer, rfl, by rw [List.map_cons, last]; rfl⟩, h.floor, h.captures⟩
  | @ended chain rest top own =>
    cases Form.role_eq_endIf.mp hrole
    obtain ⟨outer, rfl, flags⟩ := h.top top own
    cases flags
    exact ⟨_, rfl, ⟨outer, rfl, rfl⟩, h.floor, h.captures⟩
  | captureStarted head =>
    rw [← head.captured_kind] at hrole
    cases Form.role_eq_starts.mp hrole
    refine ⟨_, rfl, h.chains, h.floor, ?_⟩
    simp [startCapture, CaptureStack.push, uncaptured, Capture.scanned]

/-- A line that succeeds leaves the outline that follows from its form. -/
theorem route_outlines (h : Outlined base s run)
    (hr : run.route env line = .ok (run', task)) :
    ∃ s', s.next (env.config.indicators.form line.text) = some s' ∧ Outlined base s' run' := by
  have role := env.config.indicators.form_role line.text
  cases effect_of_route hr with
  | executed uncaptured action =>
    rw [← role] at action
    exact h.action uncaptured (fun continues => route_branch uncaptured continues hr) action
  | @captured c rest capturing inside =>
    obtain ⟨skipped, rfl⟩ := h.capturing capturing
    refine ⟨_, Outline.next_of_skipped skipped, h.chains, h.floor, ?_⟩
    have grown : some (c.grow line (env.config.indicators.role line.text)).outline =
        Nesting.skip c.head.kind c.depth (env.config.indicators.role line.text) :=
      Capture.outline_grow inside
    rw [role, c.head.captured_kind, ← grown]
    rfl
  | @completed c rest run' task capturing ends completes =>
    obtain ⟨skipped, rfl⟩ := h.capturing capturing
    obtain ⟨-, macros, rfl⟩ := complete_task completes
    refine ⟨_, Outline.next_of_skipped skipped, h.chains, h.floor, ?_⟩
    rw [role, c.head.captured_kind, Capture.skip_of_endsAt ends]
    rfl

end

end Run

end LineTemplate
