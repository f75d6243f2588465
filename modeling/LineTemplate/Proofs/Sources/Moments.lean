import LineTemplate.Proofs.Sources.Isolation
import Mathlib

/-!
# The moments of a run

Which states a run goes through, and where sources start in it. `Between` relates a source that was
entered to the states between its lines, `Enters` to the sources that one of its lines starts.
Together they make up all that happens in a run, also in one that fails later.

Main statement: `nested_source_isolated`. A source that ends leaves its surroundings as they were,
and until then it has them beneath it, untouched.
-/

namespace LineTemplate

/-- A source, and the state of the run in which it is started. -/
structure Entry where
  outer : Run
  source : Visit

namespace Run

/-- A line is carried out with all that it starts. -/
def Completes (env : Environment) (run : Run) (line : Line) (run' : Run) : Prop :=
  ∃ levels room, stepWithin env levels room run line = .ok run'

/-- The states between the lines of a source, by the number of lines before them. -/
def Between (env : Environment) (entry : Entry) (n : Nat) (run : Run) : Prop :=
  ∃ started, entry.outer.start entry.source = .ok started ∧
    Reads (Completes env) entry.source started n run

/-- The sources that a task starts. Each iteration of a loop starts where those before it ended. -/
inductive Begins (env : Environment) (run : Run) : Task → Entry → Prop where
  | iteration {before after : List Replay} {r : Replay} {run' : Run} {levels room : Nat}
      (done : before.foldlM (fun run r =>
        visitWithin env (visitBelow env levels) room run (.replay r)) run = .ok run') :
    Begins env run (.iterate (before ++ r :: after)) ⟨run', .replay r⟩
  | call (r : Replay) : Begins env run (.call r) ⟨run, .replay r⟩
  | includeFile (f : FileVisit) : Begins env run (.includeFile f) ⟨run, .file f⟩

/-- The next line of a source, at which the run is `taken`. -/
def Handed (env : Environment) (entry : Entry) (n : Nat) (taken : Run) (line : Line) : Prop :=
  ∃ run, Between env entry n run ∧ entry.source.next? n run = some (.ok line, taken)

/-- A source is started by a line of another one. -/
def Enters (env : Environment) (entry inner : Entry) : Prop :=
  ∃ n taken line routed task, Handed env entry n taken line ∧
    taken.route env line = .ok (routed, task) ∧ Begins env routed task inner

/-- The states of a run while it is in a source and in no other source that is started there. -/
inductive Moment (env : Environment) (entry : Entry) : Run → Prop where
  | entered : Moment env entry entry.outer
  | between {n : Nat} {run : Run} (h : Between env entry n run) : Moment env entry run
  | handed {n : Nat} {taken : Run} {line : Line} (h : Handed env entry n taken line) :
    Moment env entry taken
  /-- The line has had its effect, and the sources that it starts are still to come. -/
  | routed {n : Nat} {taken run : Run} {line : Line} {task : Task}
      (h : Handed env entry n taken line) (hr : taken.route env line = .ok (run, task)) :
    Moment env entry run

/-- The states of a run while it is in a source or in those that are started from there. -/
def Inside (env : Environment) (entry : Entry) (run : Run) : Prop :=
  ∃ inner, Relation.ReflTransGen (Enters env) entry inner ∧ Moment env inner run

/-- The stacks of one state lie beneath those of another one. -/
structure Beneath (outer run : Run) : Prop where
  conditionals : outer.conditionals.chains <:+ run.conditionals.chains
  selections : outer.cursors.selected <:+ run.cursors.selected
  files : outer.files.frames <:+ run.files.frames
  scopes : outer.scopes <:+ run.scopes

namespace Beneath

variable {outer run run' run'' : Run}

theorem trans (h : Beneath run run') (h' : Beneath run' run'') : Beneath run run'' where
  conditionals := h.conditionals.trans h'.conditionals
  selections := h.selections.trans h'.selections
  files := h.files.trans h'.files
  scopes := h.scopes.trans h'.scopes

theorem refl (run : Run) : Beneath run run :=
  ⟨List.suffix_refl _, List.suffix_refl _, List.suffix_refl _, List.suffix_refl _⟩

theorem of_surroundings (h : run'.surroundings = run.surroundings) : Beneath run run' := by
  have conditionals : run'.conditionals = run.conditionals :=
    congrArg Surroundings.conditionals h
  have selected : run'.cursors.selected = run.cursors.selected :=
    congrArg Surroundings.selected h
  have files : run'.files = run.files := congrArg Surroundings.files h
  have scopes : run'.scopes = run.scopes := congrArg Surroundings.scopes h
  exact
    { conditionals := conditionals ▸ List.suffix_refl _
      selections := selected ▸ List.suffix_refl _
      files := files ▸ List.suffix_refl _
      scopes := scopes ▸ List.suffix_refl _ }

/-- A line takes nothing of what lies beneath the source that holds it. -/
theorem keeps (h : Beneath outer run) (floors : run.floors = outer.heights)
    (kept : Keeps run run') : Beneath outer run' where
  conditionals := kept.conditionals _ h.conditionals (by rw [floors]; exact Nat.le_refl _)
  selections := kept.selections _ h.selections (by rw [floors]; exact Nat.le_refl _)
  files := kept.files ▸ h.files
  scopes := kept.scopes ▸ h.scopes

end Beneath

section

variable {env : Environment} {entry inner : Entry} {run taken routed : Run} {line : Line}
  {task : Task} {n : Nat}

theorem InSource.beneath {outer : Run} {source : Visit} (h : InSource outer source n run) :
    Beneath outer run where
  conditionals := h.conditionals
  selections := h.selections
  files := h.files ▸ List.suffix_append ..
  scopes := h.scopes ▸ List.suffix_append ..

theorem Completes.keeps {run' : Run} (within : run.captures.Within n)
    (h : Completes env run line run') :
    Keeps run run' ∧ run'.depth = run.depth ∧ run'.captures.Within (n + 1) := by
  obtain ⟨levels, room, h⟩ := h
  exact stepWithin_keeps within h

theorem Between.inSource (h : Between env entry n run)
    (uncaptured : entry.outer.captures.captures = []) :
    InSource entry.outer entry.source n run := by
  obtain ⟨started, hs, reads⟩ := h
  exact reads.inSource Completes.keeps uncaptured hs

theorem Begins.surroundings (h : Begins env run task inner)
    (uncaptured : run.captures.captures = []) :
    inner.outer.surroundings = run.surroundings := by
  cases h with
  | iteration done =>
    exact iterate_surroundings (visitWithin_isolates (visitBelow_isolates _) _) uncaptured done
  | call | includeFile => rfl

theorem Handed.beneath (h : Handed env entry n taken line)
    (uncaptured : entry.outer.captures.captures = []) :
    Beneath entry.outer taken ∧ taken.floors = entry.outer.heights ∧ taken.captures.Within n := by
  obtain ⟨run, hb, next⟩ := h
  have inSource := hb.inSource uncaptured
  obtain ⟨-, frames, files, rfl⟩ := inSource.next next
  refine ⟨⟨inSource.conditionals, inSource.selections, ?_, inSource.beneath.scopes⟩,
    inSource.floors, inSource.captures⟩
  exact frames ▸ List.suffix_append ..

/-- Where nothing is captured, every source that is started has that state beneath it, and nothing
is captured where it starts. -/
theorem Enters.beneath (h : Enters env entry inner)
    (uncaptured : entry.outer.captures.captures = []) :
    Beneath entry.outer inner.outer ∧ inner.outer.captures.captures = [] := by
  obtain ⟨n, taken, line, routed, task, handed, hr, begins⟩ := h
  obtain ⟨beneath, floors, within⟩ := handed.beneath uncaptured
  have effect := effect_of_route hr
  have hasTask : task ≠ .none := by
    rintro rfl
    cases begins
  have idle := effect.uncaptured within.single hasTask
  have same := begins.surroundings idle
  have captures : inner.outer.captures = routed.captures := congrArg Surroundings.captures same
  exact ⟨(beneath.keeps floors effect.keeps).trans (.of_surroundings same), captures ▸ idle⟩

theorem beneath_of_nested (h : Relation.ReflTransGen (Enters env) entry inner)
    (uncaptured : entry.outer.captures.captures = []) :
    Beneath entry.outer inner.outer ∧ inner.outer.captures.captures = [] := by
  induction h with
  | refl => exact ⟨.refl _, uncaptured⟩
  | tail _ enters ih =>
    obtain ⟨beneath, idle⟩ := enters.beneath ih.2
    exact ⟨ih.1.trans beneath, idle⟩

theorem Moment.beneath (h : Moment env entry run)
    (uncaptured : entry.outer.captures.captures = []) : Beneath entry.outer run := by
  cases h with
  | entered => exact .refl _
  | between h => exact (h.inSource uncaptured).beneath
  | handed h => exact (h.beneath uncaptured).1
  | routed h hr =>
    obtain ⟨beneath, floors, -⟩ := h.beneath uncaptured
    exact beneath.keeps floors (effect_of_route hr).keeps

/-- At every moment inside a source, what was there before lies beneath. -/
theorem Inside.beneath (h : Inside env entry run)
    (uncaptured : entry.outer.captures.captures = []) : Beneath entry.outer run := by
  obtain ⟨inner, nested, moment⟩ := h
  obtain ⟨beneath, idle⟩ := beneath_of_nested nested uncaptured
  exact beneath.trans (moment.beneath idle)

/-- A call or an include leaves the surroundings of its line as they were, the depth included. -/
theorem Completes.surroundings_of_deeper {after : Run} (within : taken.captures.Within n)
    (hr : taken.route env line = .ok (routed, task)) (deeper : task.levels ≠ 0)
    (h : Completes env taken line after) : after.surroundings = taken.surroundings := by
  obtain ⟨levels, room, h⟩ := h
  obtain ⟨⟨routed', task'⟩, hr', hp⟩ := Outcome.bind_eq_ok.mp h
  obtain ⟨rfl, rfl⟩ : routed' = routed ∧ task' = task := by simpa [hr] using hr'.symm
  have effect := effect_of_route hr
  have same := perform_surroundings (visitWithin_isolates (visitBelow_isolates levels) room)
    (visitBelow_isolates levels) (effect.uncaptured within.single) hp
  -- A line with such a task changes nothing but the depth before the task starts.
  have routedSame : routed'.surroundings = { taken.surroundings with depth := routed'.depth } := by
    cases effect with
    | captured => exact absurd rfl deeper
    | completed _ _ completes => exact absurd (complete_task completes).1 deeper
    | executed _ action =>
      generalize env.config.indicators.role line.text = role at action
      cases action <;> first | rfl | exact absurd rfl deeper
  rw [same, routedSame, effect.depth, Nat.add_sub_cancel]
  rfl

end

end Run

namespace Run

/-- A source that is entered is isolated from its surroundings. -/
structure Isolated (env : Environment) (e : Entry) : Prop where
  /-- If the source ends, its surroundings are what they were when it was entered. -/
  ends : ∀ levels room after,
    visitWithin env (visitBelow env levels) room e.outer e.source = .ok after →
      after.surroundings = e.outer.surroundings
  /-- If a call or an include in the source ends, the surroundings are those of its line. -/
  returns : ∀ n taken line routed task after, Handed env e n taken line →
    taken.route env line = .ok (routed, task) → task.levels ≠ 0 →
      Completes env taken line after → after.surroundings = taken.surroundings
  /-- Between the lines of the source, its floors are as high as what was open before. -/
  floors : ∀ n run, Between env e n run → run.floors = e.outer.heights
  /-- At every moment inside the source, what was there before lies beneath, unchanged. -/
  beneath : ∀ run, Inside env e run → Beneath e.outer run

end Run

namespace Engine

def entry (engine : Engine) (key : Text) (source : Source) (origin : Location) : Entry where
  outer := { settings := engine.settings }
  source := .file { key, source, margin := [], origin }

/-- A source is entered while the engine renders another one. -/
def Entered (engine : Engine) (key : Text) (source : Source) (origin : Location) (e : Entry) :
    Prop :=
  Relation.ReflTransGen (Run.Enters engine.env) (engine.entry key source origin) e

open Run

/-- Every source that is entered while a template is rendered, be it an iteration of a loop, the
body of a macro or a file, is isolated. -/
theorem nested_source_isolated (engine : Engine) {key : Text} {source : Source} {origin : Location}
    {e : Entry} (entered : engine.Entered key source origin e) : Isolated engine.env e := by
  have uncaptured := (beneath_of_nested entered rfl).2
  constructor
  case ends =>
    intro levels room after h
    exact visitWithin_isolates (visitBelow_isolates levels) room e.source e.outer after uncaptured h
  case returns =>
    intro n taken line routed task after handed hr deeper h
    obtain ⟨-, -, within⟩ := handed.beneath uncaptured
    exact Completes.surroundings_of_deeper within hr deeper h
  case floors =>
    intro n run between
    exact (between.inSource uncaptured).floors
  case beneath =>
    intro run inside
    exact inside.beneath uncaptured

/-- An engine with a single file that a template can include. -/
def withPart : Engine where
  env :=
    { config := {}, tables := fun _ => none, evaluator := evaluateCondition
      loader := Loader.ofMemory ⟨[(['p'], [.ok ['x']])]⟩ }

def partTemplate : Source :=
  [.ok "_#IF_NOT_SET x".toList, .ok " _#INCLUDE p".toList, .ok "_#END_IF".toList]

/-- The run of that template after its first `n` lines. -/
def partRun (n : Nat) (conditionals : ConditionalStack) : Run where
  settings := {}
  conditionals
  files := ⟨[{ path := ['t'], unread := partTemplate.drop n, lineNumber := n }]⟩

def partEntry : Entry where
  outer := { partRun 2 (ConditionalStack.push {} none true) with depth := 1 }
  source := .file { key := ['p'], source := [.ok ['x']], margin := [' '], origin := ⟨['t'], 2⟩ }

theorem nested_source_isolated_part :
    withPart.Entered ['t'] partTemplate ⟨['t'], 0⟩ partEntry ∧ Isolated withPart.env partEntry := by
  have opened : Completes withPart.env (partRun 1 {}) ⟨"_#IF_NOT_SET x".toList, ⟨['t'], 1⟩⟩
      (partRun 1 (ConditionalStack.push {} none true)) := ⟨0, 0, by cbv⟩
  have between : Between withPart.env (withPart.entry ['t'] partTemplate ⟨['t'], 0⟩) 1
      (partRun 1 (ConditionalStack.push {} none true)) :=
    ⟨partRun 0 {}, rfl, .line .start rfl opened⟩
  have handed : Handed withPart.env (withPart.entry ['t'] partTemplate ⟨['t'], 0⟩) 1
      (partRun 2 (ConditionalStack.push {} none true)) ⟨" _#INCLUDE p".toList, ⟨['t'], 2⟩⟩ :=
    ⟨_, between, rfl⟩
  have entered : withPart.Entered ['t'] partTemplate ⟨['t'], 0⟩ partEntry :=
    .single ⟨1, _, _, partEntry.outer, _, handed, by cbv, .includeFile _⟩
  exact ⟨entered, nested_source_isolated withPart entered⟩

end Engine

end LineTemplate
