import LineTemplate.Proofs.Sources.Isolation

/-!
# Balanced lines

Lines are balanced if they close all blocks that they open, and no others. This is a matter of the
text alone: a scan of the lines counts the open conditional chains, and passes over the body of a
loop or macro up to the directive that closes it.

A run that carries out the lines has the blocks open that the scan counts (`process_tracks`),
whatever the conditions turn out to be.
-/

namespace LineTemplate

/-- The blocks that are open between some lines. -/
structure Nesting where
  /-- The number of conditional chains. -/
  chains : Nat := 0
  /-- The kind of the loop or macro whose body is passed over, and how many blocks of that kind are
  open inside of it. -/
  skipped : Option (BlockKind × Nat) := none
  deriving DecidableEq

namespace Nesting

/-- A line of the body of a block of some kind, with so many blocks of the kind open inside. -/
def skip (kind : BlockKind) (inner : Nat) (role : Role) : Option (BlockKind × Nat) :=
  if role = some (kind, .closes) then
    match inner with
    | 0 => none
    | inner + 1 => some (kind, inner)
  else if role = some (kind, .opens) then some (kind, inner + 1)
  else some (kind, inner)

/-- The open blocks after a line of some role. A chain cannot be continued or closed if it is not
open. -/
def next (s : Nesting) (role : Role) : Option Nesting :=
  match s.skipped, role with
  | some (kind, inner), role => some { s with skipped := skip kind inner role }
  | none, some (.conditional, .opens) => some { s with chains := s.chains + 1 }
  | none, some (.conditional, .continues) => if s.chains = 0 then none else some s
  | none, some (.conditional, .closes) =>
    if s.chains = 0 then none else some { s with chains := s.chains - 1 }
  | none, some (kind, .opens) => some { s with skipped := some (kind, 0) }
  | none, _ => some s

def scan (ind : Indicators) (s : Nesting) (lines : List Line) : Option Nesting :=
  lines.foldlM (fun s line => s.next (ind.role line.text)) s

end Nesting

/-- The lines close all blocks that they open, and no others. -/
def Balanced (ind : Indicators) (lines : List Line) : Prop :=
  Nesting.scan ind {} lines = some {}

instance (ind : Indicators) (lines : List Line) : Decidable (Balanced ind lines) :=
  inferInstanceAs (Decidable (_ = _))

namespace Nesting

variable {ind : Indicators} {s s' : Nesting} {line : Line} {lines : List Line} {role : Role}

@[simp] theorem scan_nil : s.scan ind [] = some s := rfl

theorem scan_cons_eq_some {s'' : Nesting} : s.scan ind (line :: lines) = some s'' ↔
    ∃ s', s.next (ind.role line.text) = some s' ∧ s'.scan ind lines = some s'' := by
  simp [scan, List.foldlM_cons, Option.bind_eq_some_iff]

theorem next_of_skipped {kind : BlockKind} {inner : Nat} (h : s.skipped = some (kind, inner)) :
    s.next role = some { s with skipped := skip kind inner role } := by
  simp [next, h]

theorem next_opens (h : s.skipped = none) :
    s.next (some (.conditional, .opens)) = some { s with chains := s.chains + 1 } := by
  simp [next, h]

theorem next_continues (h : s.skipped = none)
    (next : s.next (some (.conditional, .continues)) = some s') :
    s' = s ∧ 0 < s.chains := by
  simp only [Nesting.next, h] at next
  split at next
  · cases next
  · rename_i some_chain
    cases next
    exact ⟨rfl, Nat.pos_of_ne_zero some_chain⟩

theorem next_closes (h : s.skipped = none)
    (next : s.next (some (.conditional, .closes)) = some s') :
    s' = { s with chains := s.chains - 1 } ∧ 0 < s.chains := by
  simp only [Nesting.next, h] at next
  split at next
  · cases next
  · rename_i some_chain
    cases next
    exact ⟨by rw [h], Nat.pos_of_ne_zero some_chain⟩

theorem next_starts {kind : BlockKind} (h : s.skipped = none) (captured : kind ≠ .conditional) :
    s.next (some (kind, .opens)) = some { s with skipped := some (kind, 0) } := by
  cases kind <;> simp_all [next]

theorem next_none (h : s.skipped = none) : s.next none = some s := by
  simp [next, h]

end Nesting

/-- What a scan knows of a block that is being captured. -/
def Capture.outline (c : Capture) : BlockKind × Nat :=
  (c.head.kind, c.depth)

theorem Capture.outline_grow {c : Capture} {line : Line} {role : Role}
    (inside : c.endsAt role = false) :
    some (c.grow line role).outline = Nesting.skip c.head.kind c.depth role := by
  unfold Capture.outline Capture.grow Nesting.skip
  by_cases closes : role = some (c.head.kind, .closes)
  · simp only [Capture.endsAt, closes, decide_true, Bool.true_and,
      decide_eq_false_iff_not] at inside
    obtain ⟨inner, hi⟩ := Nat.exists_eq_succ_of_ne_zero inside
    simp [closes, hi]
  · by_cases opens : role = some (c.head.kind, .opens) <;> simp [closes, opens]

theorem Capture.skip_of_endsAt {c : Capture} {role : Role} (ends : c.endsAt role = true) :
    Nesting.skip c.head.kind c.depth role = none := by
  obtain ⟨closes, depth⟩ : role = some (c.head.kind, .closes) ∧ c.depth = 0 := by
    simpa [Capture.endsAt] using ends
  simp [Nesting.skip, closes, depth]

namespace Run

/-- On top of the chains `base`, the run has the blocks open that a scan counts. -/
structure Tracks (base : List Chain) (s : Nesting) (run : Run) : Prop where
  suffix : base <:+ run.conditionals.chains
  depth : run.conditionals.depth = s.chains + base.length
  captures : run.captures.captures.map Capture.outline = s.skipped.toList

namespace Tracks

variable {env : Environment} {base : List Chain} {s s' : Nesting} {run run' : Run} {line : Line}
  {location : Location} {role : Role} {task : Task}

theorem refl (uncaptured : run.captures.captures = []) :
    Tracks run.conditionals.chains {} run where
  suffix := List.suffix_refl _
  depth := (Nat.zero_add _).symm
  captures := by simp [uncaptured]

/-- After lines that are balanced, the chains are back. -/
theorem eq_base (h : Tracks base {} run) :
    run.conditionals.chains = base ∧ run.captures.captures = [] := by
  constructor
  · have depth : run.conditionals.chains.length = 0 + base.length := h.depth
    exact (h.suffix.eq_of_length (by omega)).symm
  · simpa using h.captures

theorem uncaptured_iff (h : Tracks base s run) :
    run.captures.captures = [] ↔ s.skipped = none := by
  rw [← List.map_eq_nil_iff, h.captures, Option.toList_eq_nil_iff]

/-- At most one body is captured. -/
theorem single (h : Tracks base s run) : run.captures.captures.length ≤ 1 := by
  rw [← List.length_map Capture.outline, h.captures]
  cases s.skipped <;> simp

theorem of_eq (h : Tracks base s run) (conditionals : run'.conditionals = run.conditionals)
    (captures : run'.captures = run.captures) : Tracks base s run' where
  suffix := conditionals ▸ h.suffix
  depth := conditionals ▸ h.depth
  captures := captures ▸ h.captures

theorem action (h : Tracks base s run) (next : s.next role = some s')
    (uncaptured : run.captures.captures = [])
    (action : Action env run location role run' task) : Tracks base s' run' := by
  have unskipped := h.uncaptured_iff.mp uncaptured
  cases action with
  | idle | emitted | entered | switched | left | assigned | called | included =>
    cases (Nesting.next_none unskipped).symm.trans next
    exact h.of_eq rfl rfl
  | opened =>
    cases (Nesting.next_opens unskipped).symm.trans next
    have depth : run.conditionals.chains.length = s.chains + base.length := h.depth
    exact
      { suffix := h.suffix.trans (List.suffix_cons _ _)
        depth := show run.conditionals.chains.length + 1 = s.chains + 1 + base.length by omega
        captures := h.captures }
  | @continued chain next' rest asked top =>
    obtain ⟨rfl, some_chain⟩ := Nesting.next_continues unskipped next
    have depth : run.conditionals.chains.length = s'.chains + base.length := h.depth
    have hb : base <:+ chain :: rest := top ▸ h.suffix
    rw [top, List.length_cons] at depth
    exact
      { suffix := Shelters.replace (by omega) _ hb (Nat.le_refl _)
        depth := depth
        captures := h.captures }
  | @ended chain rest top =>
    obtain ⟨rfl, some_chain⟩ := Nesting.next_closes unskipped next
    have depth : run.conditionals.chains.length = s.chains + base.length := h.depth
    -- The scan counts the innermost chain, so it is not one of `base`.
    have hb : base <:+ chain :: rest := top ▸ h.suffix
    rw [top, List.length_cons] at depth
    have kept : base <:+ rest := Shelters.pop (by omega) _ hb (Nat.le_refl _)
    exact
      { suffix := kept
        depth := show rest.length = s.chains - 1 + base.length by omega
        captures := h.captures }
  | captureStarted head =>
    cases (Nesting.next_starts unskipped head.kind_ne_conditional).symm.trans next
    exact
      { suffix := h.suffix, depth := h.depth
        captures := by simp [startCapture, CaptureStack.push, uncaptured, Capture.outline] }

theorem effect (h : Tracks base s run)
    (next : s.next (env.config.indicators.role line.text) = some s')
    (effect : Effect env run line run' task) : Tracks base s' run' := by
  cases effect with
  | @captured c rest capturing inside =>
    have captures := h.captures
    rw [capturing, List.map_cons] at captures
    cases skipped : s.skipped with
    | none => simp [skipped] at captures
    | some block =>
      rw [skipped, Option.toList_some, List.cons.injEq] at captures
      obtain ⟨rfl, others⟩ := captures
      cases (Nesting.next_of_skipped skipped).symm.trans next
      refine ⟨h.suffix, h.depth, ?_⟩
      rw [List.map_cons, others, ← Capture.outline_grow inside, Option.toList_some]
  | @completed c rest run' task capturing ends completes =>
    obtain ⟨-, macros, rfl⟩ := complete_task completes
    have captures := h.captures
    rw [capturing, List.map_cons] at captures
    cases skipped : s.skipped with
    | none => simp [skipped] at captures
    | some block =>
      rw [skipped, Option.toList_some, List.cons.injEq] at captures
      obtain ⟨rfl, others⟩ := captures
      cases (Nesting.next_of_skipped skipped).symm.trans next
      refine ⟨h.suffix, h.depth, ?_⟩
      rw [Capture.skip_of_endsAt ends]
      exact others
  | executed uncaptured action => exact h.action next uncaptured action

end Tracks

section

variable {env : Environment} {loops deeper : Run → Visit → Outcome} {base : List Chain}
  {s s' : Nesting} {run run' : Run} {line : Line} {lines : List Line}

/-- A line that succeeds leaves the blocks open that the scan counts, with all that it starts. -/
theorem process_tracks (hl : Isolates loops) (hd : Isolates deeper) (h : Tracks base s run)
    (next : s.next (env.config.indicators.role line.text) = some s')
    (done : process env loops deeper run line = .ok run') : Tracks base s' run' := by
  obtain ⟨⟨routed, task⟩, hr, hp⟩ := Outcome.bind_eq_ok.mp done
  have effect := effect_of_route hr
  have same := perform_surroundings hl hd (effect.uncaptured h.single) hp
  exact (h.effect next effect).of_eq (congrArg Surroundings.conditionals same)
    (congrArg Surroundings.captures same)

theorem lines_tracks (hl : Isolates loops) (hd : Isolates deeper) (h : Tracks base s run)
    (scan : s.scan env.config.indicators lines = some s')
    (done : lines.foldlM (process env loops deeper) run = .ok run') : Tracks base s' run' := by
  induction lines generalizing s run with
  | nil =>
    cases scan
    cases done
    exact h
  | cons line lines ih =>
    obtain ⟨between, next, scan⟩ := Nesting.scan_cons_eq_some.mp scan
    rw [List.foldlM_cons] at done
    obtain ⟨run'', hp, done⟩ := Outcome.bind_eq_ok.mp done
    exact ih (process_tracks hl hd h next hp) scan done

end

end Run

end LineTemplate
