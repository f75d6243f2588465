import LineTemplate.Proofs.Lines.Effect

/-!
# What a line leaves alone

The floors of a source shelter what was open when it began: no line takes anything from below them.
A line also reads no further line, starts no layer and moves no floor. It captures at most one body,
which has fewer lines than the source that holds it. All of this is read off the effects of lines.
-/

namespace LineTemplate

/-- Of a stack, what lies below a floor is still there. -/
def Shelters {α : Type} (floor : Nat) (stack stack' : List α) : Prop :=
  ∀ base, base <:+ stack → base.length ≤ floor → base <:+ stack'

namespace Shelters

variable {α : Type} {floor : Nat} {s s' s'' rest : List α} {a b : α}

theorem refl : Shelters floor s s := fun _ h _ => h

theorem trans (h : Shelters floor s s') (h' : Shelters floor s' s'') : Shelters floor s s'' :=
  fun base hb low => h' base (h base hb low) low

theorem push : Shelters floor s (a :: s) :=
  fun _ hb _ => hb.trans (List.suffix_cons a s)

/-- What is taken from the top of a stack was no part of what lies below the floor. -/
theorem pop (own : floor ≤ rest.length) : Shelters floor (a :: rest) rest := by
  intro base hb low
  rcases List.suffix_cons_iff.mp hb with rfl | hb
  · simp only [List.length_cons] at low
    omega
  · exact hb

theorem replace (own : floor ≤ rest.length) : Shelters floor (a :: rest) (b :: rest) :=
  (pop own).trans push

end Shelters

theorem CaptureStack.isCapturing_eq_false_iff (s : CaptureStack) :
    s.isCapturing = false ↔ s.captures = [] := by
  simp [isCapturing]

/-- At most one body is captured, and it has fewer than `n` lines so far. -/
structure CaptureStack.Within (s : CaptureStack) (n : Nat) : Prop where
  single : s.captures.length ≤ 1
  short : ∀ c ∈ s.captures, c.newestFirst.length < n

theorem CaptureStack.within_of_nil {s : CaptureStack} (h : s.captures = []) (n : Nat) :
    s.Within n := by
  constructor <;> simp [h]

theorem CaptureStack.Within.of_cons {s : CaptureStack} {n : Nat} {c : Capture}
    {rest : List Capture} (within : s.Within n) (h : s.captures = c :: rest) :
    rest = [] ∧ c.newestFirst.length < n := by
  have single := within.single
  have short := within.short c (by simp [h])
  rw [h, List.length_cons] at single
  exact ⟨List.eq_nil_of_length_eq_zero (by omega), short⟩

/-- How many levels of calls and includes a task goes down. -/
def Task.levels : Task → Nat
  | .call _ => 1
  | .includeFile _ => 1
  | _ => 0

namespace Run

/-- What a line leaves as it was, in the source that holds it. -/
structure Keeps (run run' : Run) : Prop where
  conditionals :
    Shelters run.floors.conditionals run.conditionals.chains run'.conditionals.chains
  selections : Shelters run.floors.selections run.cursors.selected run'.cursors.selected
  files : run'.files = run.files
  scopes : run'.scopes = run.scopes
  floors : run'.floors = run.floors
  margin : run'.margin = run.margin

theorem Keeps.trans {run run' run'' : Run} (h : Keeps run run') (h' : Keeps run' run'') :
    Keeps run run'' where
  conditionals := h.conditionals.trans (h.floors ▸ h'.conditionals)
  selections := h.selections.trans (h.floors ▸ h'.selections)
  files := h'.files.trans h.files
  scopes := h'.scopes.trans h.scopes
  floors := h'.floors.trans h.floors
  margin := h'.margin.trans h.margin

theorem keeps_of_stacks_eq {run run' : Run}
    (conditionals : run'.conditionals = run.conditionals)
    (selections : run'.cursors.selected = run.cursors.selected) (files : run'.files = run.files)
    (scopes : run'.scopes = run.scopes) (floors : run'.floors = run.floors)
    (margin : run'.margin = run.margin) : Keeps run run' where
  conditionals := conditionals ▸ Shelters.refl
  selections := selections ▸ Shelters.refl
  files := files
  scopes := scopes
  floors := floors
  margin := margin

end Run

namespace CursorDirectory

@[simp] theorem selected_write (d : CursorDirectory) (piece : Piece) :
    (d.write piece).selected = d.selected := by
  unfold write
  split <;> rfl

@[simp] theorem selected_emit (d : CursorDirectory) (line : Text) :
    (d.emit line).selected = d.selected :=
  selected_write d _

@[simp] theorem selected_target (d : CursorDirectory) (name : Text) :
    (d.target name).2.selected = d.selected := by
  unfold target
  split
  · rfl
  · exact selected_write d _

theorem selected_enter (d : CursorDirectory) (name : Text) :
    (d.enter name).selected = (d.target name).1 :: d.selected := by
  simp [enter]

theorem selected_switch (d : CursorDirectory) (name : Text) :
    (d.switch name).selected = (d.target name).1 :: d.selected.tail := by
  simp [switch]

/-- Leaving out what was selected above a floor restores the selection that lies below it. -/
theorem selected_truncate {d : CursorDirectory} {base : List Nat} (h : base <:+ d.selected) :
    (d.truncate base.length).selected = base := by
  obtain ⟨top, h⟩ := h
  simp [truncate, ← h]

end CursorDirectory

namespace Run

variable {env : Environment} {run run' : Run} {location : Location} {line : Line} {role : Role}
  {task : Task} {n : Nat}

theorem Action.keeps (h : Action env run location role run' task) : Keeps run run' := by
  cases h with
  | idle | assigned | captureStarted | called | included =>
    exact keeps_of_stacks_eq rfl rfl rfl rfl rfl rfl
  | emitted => exact keeps_of_stacks_eq rfl (CursorDirectory.selected_emit ..) rfl rfl rfl rfl
  | entered live name =>
    exact
      { conditionals := .refl
        selections := CursorDirectory.selected_enter run.cursors name ▸ .push
        files := rfl, scopes := rfl, floors := rfl, margin := rfl }
  | switched live own name =>
    have selections : Shelters run.floors.selections run.cursors.selected
        (run.cursors.switch name).selected := by
      rw [CursorDirectory.selected_switch]
      cases hs : run.cursors.selected with
      | nil => exact .push
      | cons i rest =>
        simp only [CursorDirectory.selectionDepth, hs, List.length_cons] at own
        exact .replace (by omega)
    exact
      { conditionals := .refl, selections
        files := rfl, scopes := rfl, floors := rfl, margin := rfl }
  | left live own selected =>
    simp only [CursorDirectory.selectionDepth, selected, List.length_cons] at own
    exact
      { conditionals := .refl
        selections := selected ▸ .pop (by omega)
        files := rfl, scopes := rfl, floors := rfl, margin := rfl }
  | opened =>
    exact
      { conditionals := .push, selections := .refl
        files := rfl, scopes := rfl, floors := rfl, margin := rfl }
  | continued _ top own =>
    exact
      { conditionals := top ▸ .replace own, selections := .refl
        files := rfl, scopes := rfl, floors := rfl, margin := rfl }
  | ended top own =>
    exact
      { conditionals := top ▸ .pop own, selections := .refl
        files := rfl, scopes := rfl, floors := rfl, margin := rfl }

theorem Action.depth (h : Action env run location role run' task) :
    run'.depth = run.depth + task.levels := by
  cases h <;> rfl

theorem Action.macros (h : Action env run location role run' task) : run'.macros = run.macros := by
  cases h <;> rfl

theorem Action.captures (h : Action env run location role run' task)
    (uncaptured : run.captures.captures = []) : run'.captures.Within (n + 1) := by
  cases h with
  | captureStarted head =>
    constructor <;> simp [startCapture, CaptureStack.push, uncaptured]
  | _ => exact CaptureStack.within_of_nil uncaptured _

theorem Action.shallow (h : Action env run location role run' task) (deeper : task.levels ≠ 0) :
    run.depth < env.config.maxDepth := by
  cases h <;> first | assumption | exact absurd rfl deeper

/-- Outside of a body that is captured, no loop is complete. -/
theorem Action.ne_iterate {iterations : List Replay} :
    ¬ Action env run location role run' (.iterate iterations) := by
  intro h
  cases h

theorem Action.uncaptured (h : Action env run location role run' task)
    (uncaptured : run.captures.captures = []) (hasTask : task ≠ .none) :
    run'.captures.captures = [] := by
  cases h <;> first | exact uncaptured | exact absurd rfl hasTask

/-- A line that closes a chain takes away the innermost one, which its source has opened. -/
theorem Action.of_closes (h : Action env run location role run' task)
    (closes : role = some (.conditional, .closes)) :
    task = .none ∧ ∃ chain rest, run.conditionals.chains = chain :: rest ∧
      run.floors.conditionals ≤ rest.length ∧ run' = { run with conditionals := ⟨rest⟩ } := by
  cases h with
  | ended top own => exact ⟨rfl, _, _, top, own, rfl⟩
  | captureStarted head => cases head <;> cases closes
  | _ => cases closes

/-- A line that continues or closes a chain finds one that its source has opened. -/
theorem Action.own (h : Action env run location role run' task) {block : BlockRole}
    (reaches : block ≠ .opens) (isRole : role = some (.conditional, block)) :
    ∃ chain rest, run.conditionals.chains = chain :: rest ∧
      run.floors.conditionals ≤ rest.length := by
  cases h with
  | continued _ top own => exact ⟨_, _, top, own⟩
  | ended top own => exact ⟨_, _, top, own⟩
  | opened =>
    cases isRole
    exact absurd rfl reaches
  | captureStarted head => cases head <;> cases isRole
  | _ => cases isRole

/-! ## Completed bodies -/

/-- What a complete body leaves to do, if it leaves anything, is to repeat that body. -/
theorem complete_iterate {c : Capture} {iterations : List Replay}
    (h : run.complete c location = (run', .iterate iterations)) :
    run' = run ∧ ∀ r ∈ iterations,
      r.body = c.body ∧ r.margin = run.margin ∧ r.origin = location := by
  unfold complete at h
  split at h
  · cases h
  · split at h
    · cases h
      refine ⟨rfl, fun r hr => ?_⟩
      obtain ⟨i, hi, rfl⟩ := List.mem_iff_getElem.mp hr
      simp
    · cases h

theorem complete_task {c : Capture} (h : run.complete c location = (run', task)) :
    task.levels = 0 ∧ ∃ macros, run' = { run with macros } := by
  unfold complete at h
  split at h
  · cases h
    exact ⟨rfl, _, rfl⟩
  · split at h <;> cases h <;> exact ⟨rfl, _, rfl⟩

/-! ## Effects -/

theorem Effect.keeps (h : Effect env run line run' task) : Keeps run run' := by
  cases h with
  | captured => exact keeps_of_stacks_eq rfl rfl rfl rfl rfl rfl
  | completed _ _ completes =>
    obtain ⟨-, macros, rfl⟩ := complete_task completes
    exact keeps_of_stacks_eq rfl rfl rfl rfl rfl rfl
  | executed _ action => exact action.keeps

theorem Effect.depth (h : Effect env run line run' task) :
    run'.depth = run.depth + task.levels := by
  cases h with
  | captured => rfl
  | completed _ _ completes =>
    obtain ⟨levels, macros, rfl⟩ := complete_task completes
    rw [levels]
    rfl
  | executed _ action => exact action.depth

theorem Effect.shallow (h : Effect env run line run' task) (deeper : task.levels ≠ 0) :
    run.depth < env.config.maxDepth := by
  cases h with
  | captured => exact absurd rfl deeper
  | completed _ _ completes => exact absurd (complete_task completes).1 deeper
  | executed _ action => exact action.shallow deeper

/-- A body grows by one line at most. -/
theorem Effect.captures (h : Effect env run line run' task) (within : run.captures.Within n) :
    run'.captures.Within (n + 1) := by
  cases h with
  | captured capturing =>
    obtain ⟨rfl, short⟩ := within.of_cons capturing
    constructor
    · simp
    · intro c hc
      rw [List.mem_singleton.mp hc, Capture.grow_newestFirst, List.length_cons]
      omega
  | completed capturing _ completes =>
    obtain ⟨rfl, -⟩ := within.of_cons capturing
    obtain ⟨-, macros, rfl⟩ := complete_task completes
    exact CaptureStack.within_of_nil rfl _
  | executed uncaptured action => exact action.captures uncaptured

/-- Where at most one body is captured, a task starts where nothing is captured. -/
theorem Effect.uncaptured (h : Effect env run line run' task)
    (single : run.captures.captures.length ≤ 1) (hasTask : task ≠ .none) :
    run'.captures.captures = [] := by
  cases h with
  | captured => exact absurd rfl hasTask
  | @completed c rest run' task capturing _ completes =>
    obtain ⟨-, macros, rfl⟩ := complete_task completes
    rw [capturing, List.length_cons] at single
    have alone : rest = [] := List.eq_nil_of_length_eq_zero (by omega)
    exact alone
  | executed uncaptured action => exact action.uncaptured uncaptured hasTask

/-- The body of a loop has fewer lines than were read of the source that holds it. -/
theorem Effect.iterate_short {iterations : List Replay}
    (h : Effect env run line run' (.iterate iterations)) (within : run.captures.Within n) :
    ∀ r ∈ iterations, r.body.length < n := by
  cases h with
  | completed capturing _ completes =>
    intro r hr
    obtain ⟨-, short⟩ := within.of_cons capturing
    rw [((complete_iterate completes).2 r hr).1, Capture.body, List.length_reverse]
    exact short
  | executed _ action => exact absurd action Action.ne_iterate

end Run

end LineTemplate
