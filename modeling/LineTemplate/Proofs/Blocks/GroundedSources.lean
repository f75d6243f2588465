import LineTemplate.Proofs.Blocks.Balance
import LineTemplate.Proofs.Blocks.Ground

/-!
# Sources on a ground

A source that starts takes the ground for a part of its surroundings, because its floor is as high
as all that is open. So every source does the same on live ground (`visitBelow_carries`). Lines that
are balanced cannot reach the ground either, also where their floor is lower (`lines_onGround`).
-/

namespace LineTemplate.Run

open ConditionalStack (Aligned)

/-- The run on a ground that lies below its floor. -/
def above (g : Ground) (run : Run) : Run :=
  run.onGround g (run.floors.conditionals + g.chains.length)

theorem aligned_above (g : Ground) (run : Run) :
    Aligned g.chains (run.floors.conditionals + g.chains.length) run.conditionals
      run.floors.conditionals := by
  unfold Aligned
  omega

/-- A way to visit a source that does the same on a ground, and puts the floors back. -/
structure Carries (g : Ground) (visitor : Run → Outcome) : Prop where
  floors : KeepsFloors visitor
  carries : ∀ run floor,
    visitor (run.onGround g floor) = grounded g (onGround g floor) (visitor run)

section

variable {g : Ground} {floor bound : Nat} {run finished : Run}

theorem start_onGround (source : Visit) :
    (run.onGround g floor).start source = grounded g (above g) (run.start source) := by
  have heights : (run.onGround g floor).heights =
      { run.heights with conditionals := run.conditionals.depth + g.chains.length } := by
    simp [Run.heights, onGround]
  cases source with
  | replay r =>
    simp only [start, heights]
    rfl
  | file f =>
    simp only [start, heights]
    rw [located_onGround_id]
    exact grounded_bind fun files _ => rfl

theorem openBlock?_above : (finished.above g).openBlock? = finished.openBlock? := by
  have depth : (finished.above g).conditionals.depth =
    finished.conditionals.depth + g.chains.length := ConditionalStack.depth_above
  have floors : (finished.above g).floors.conditionals =
    finished.floors.conditionals + g.chains.length := rfl
  have captures : (finished.above g).captures = finished.captures := rfl
  have lowest : (finished.above g).floors.captures = finished.floors.captures := rfl
  unfold openBlock?
  rw [depth, floors, captures, lowest]
  by_cases opened : finished.floors.conditionals < finished.conditionals.depth
  · have same : (finished.above g).conditionals.openBlock = finished.conditionals.openBlock := by
      cases chains : finished.conditionals.chains with
      | nil => simp [ConditionalStack.depth, chains] at opened
      | cons c rest =>
        simp [ConditionalStack.openBlock, above, onGround, ConditionalStack.above, chains]
    rw [same]
    simp only [Nat.add_lt_add_iff_right]
  · simp only [Nat.add_lt_add_iff_right, opened, ite_false]

theorem leave_above {outer : Floors} {location : Location} :
    (finished.above g).leave { outer with conditionals := floor } location =
      grounded g (onGround g floor) (finished.leave outer location) := by
  have same : (finished.above g).openBlock? = finished.openBlock? := openBlock?_above
  unfold leave
  rw [same]
  cases finished.openBlock? with
  | none => rfl
  | some block =>
    exact located_onGround (onGround g floor) (.error (.unmatched block))

theorem finish_onGround (source : Visit) :
    (run.onGround g floor).finish (finished.above g) source =
      grounded g (onGround g floor) (run.finish finished source) := by
  cases source with
  | replay r =>
    refine (congrArg (· >>= _) leave_above).trans ?_
    exact grounded_bind fun left _ => rfl
  | file f =>
    refine (congrArg (· >>= _) leave_above).trans ?_
    exact grounded_bind fun left _ => rfl

section

variable {step : Run → Line → Outcome}
  (carried : ∀ run line, step (run.above g) line = grounded g (above g) (step run line))

include carried

theorem foldlM_above (lines : List Line) :
    lines.foldlM step (run.above g) = grounded g (above g) (lines.foldlM step run) := by
  induction lines generalizing run with
  | nil => rfl
  | cons line lines ih =>
    rw [List.foldlM_cons, List.foldlM_cons, carried]
    exact grounded_bind fun next _ => ih

theorem readFile_above (origin : Location) :
    readFile step origin bound (run.above g) =
      grounded g (above g) (readFile step origin bound run) := by
  induction bound generalizing run with
  | zero => rfl
  | succ bound ih =>
    have files : (run.above g).files = run.files := rfl
    unfold readFile
    rw [files]
    split
    · rfl
    · exact located_onGround (above g) (.error _)
    · rename_i line rest _
      refine (congrArg (· >>= _) (carried { run with files := rest } line)).trans ?_
      exact grounded_bind fun next _ => ih

theorem visit_onGround (source : Visit) :
    visit step bound (run.onGround g floor) source =
      grounded g (onGround g floor) (visit step bound run source) := by
  have read_above : ∀ started : Run, (started.above g).read step bound source =
      grounded g (above g) (started.read step bound source) := by
    intro started
    cases source with
    | replay r => exact foldlM_above carried r.body
    | file f => exact readFile_above carried f.origin
  unfold visit
  rw [start_onGround]
  refine grounded_bind fun started _ => ?_
  rw [read_above]
  exact grounded_bind fun finished _ => finish_onGround source

end

end

section

variable {env : Environment} {g : Ground} {floor bound : Nat} {run : Run}
  {loops deeper : Run → Visit → Outcome} (live : g.Live)
  (hl : ∀ source, Carries g (loops · source)) (hd : ∀ source, Carries g (deeper · source))

include hl hd

theorem perform_onGround (task : Task) :
    (run.onGround g floor).perform loops deeper task =
      grounded g (onGround g floor) (run.perform loops deeper task) := by
  cases task with
  | none => rfl
  | iterate iterations =>
    simp only [perform]
    induction iterations generalizing run with
    | nil => rfl
    | cons r rest ih =>
      rw [List.foldlM_cons, List.foldlM_cons, (hl (.replay r)).carries]
      exact grounded_bind fun next _ => ih
  | call | includeFile =>
    simp only [perform]
    rw [(hd _).carries, map_grounded, grounded_map]
    rfl

include live

theorem process_onGround {line : Line}
    (aligned : ∀ role, role ≠ .opens → run.captures.captures = [] →
      env.config.indicators.role line.text = some (.conditional, role) →
        Aligned g.chains floor run.conditionals run.floors.conditionals) :
    process env loops deeper (run.onGround g floor) line =
      grounded g (onGround g floor) (process env loops deeper run line) := by
  unfold process
  rw [route_onGround live aligned]
  exact grounded_bind fun routed _ => perform_onGround hl hd routed.2

theorem process_above (line : Line) :
    process env loops deeper (run.above g) line =
      grounded g (above g) (process env loops deeper run line) := by
  unfold above
  -- The floor is raised by the ground of the state before the line, and lines keep the floors.
  rw [process_onGround live hl hd fun _ _ _ _ => aligned_above g run]
  refine grounded_congr fun after h => ?_
  rw [process_floors (fun source => (hl source).floors) (fun source => (hd source).floors) h]

theorem visit_carries (source : Visit) :
    Carries g fun run => run.visit (process env loops deeper) bound source where
  floors := visit_floors
  carries := fun _ _ => visit_onGround (fun _ line => process_above live hl hd line) source

end

theorem exhausted_carries (g : Ground) : Carries g fun _ => .error .exhausted where
  floors := nofun
  carries := fun _ _ => rfl

/-- Whatever the bounds are, every source does the same on live ground. -/
theorem visitBelow_carries {env : Environment} {g : Ground} (live : g.Live) (levels : Nat)
    (source : Visit) : Carries g (visitBelow env levels · source) :=
  visitBelow_induction (Q := fun _ visitor => Carries g visitor) (fun _ => exhausted_carries g)
    (fun _ _ _ hl hd => visit_carries live hl hd) levels source

theorem visitWithin_carries {env : Environment} {g : Ground} (live : g.Live) (levels room : Nat)
    (source : Visit) : Carries g (visitWithin env (visitBelow env levels) room · source) :=
  visitWithin_induction (Q := fun _ visitor => Carries g visitor) (fun _ => exhausted_carries g)
    (fun _ _ hl => visit_carries live hl (visitBelow_carries live levels)) room source

/-! ## Balanced lines on a ground -/

section

variable {env : Environment} {g : Ground} {floor levels room : Nat} {s s' : Nesting} {run : Run}
  {line : Line} {lines : List Line}

/-- Lines that continue or close only chains that they opened themselves cannot tell on how much
ground they stand. -/
theorem aligned_of_tracks (tracks : Tracks [] s run) (some_chain : 0 < s.chains)
    (floors : run.floors.conditionals = 0) (low : floor ≤ g.chains.length) :
    Aligned g.chains floor run.conditionals run.floors.conditionals := by
  have depth : run.conditionals.depth = s.chains + 0 := tracks.depth
  unfold Aligned
  omega

theorem line_onGround (live : g.Live) (tracks : Tracks [] s run)
    (floors : run.floors.conditionals = 0) (low : floor ≤ g.chains.length)
    (next : s.next (env.config.indicators.role line.text) = some s') :
    stepWithin env levels room (run.onGround g floor) line =
      grounded g (onGround g floor) (stepWithin env levels room run line) := by
  refine process_onGround live (visitWithin_carries live levels room)
    (visitBelow_carries live levels) fun role notOpens uncaptured isRole => ?_
  have unskipped := tracks.uncaptured_iff.mp uncaptured
  rw [isRole] at next
  cases role with
  | opens => exact absurd rfl notOpens
  | continues =>
    exact aligned_of_tracks tracks (Nesting.next_continues unskipped next).2 floors low
  | closes => exact aligned_of_tracks tracks (Nesting.next_closes unskipped next).2 floors low

/-- Lines that close only what they opened do the same on live ground. -/
theorem lines_onGround (live : g.Live) (tracks : Tracks [] s run)
    (floors : run.floors.conditionals = 0) (low : floor ≤ g.chains.length)
    (scan : s.scan env.config.indicators lines = some s') :
    lines.foldlM (stepWithin env levels room) (run.onGround g floor) =
      grounded g (onGround g floor) (lines.foldlM (stepWithin env levels room) run) := by
  induction lines generalizing s run with
  | nil => rfl
  | cons line lines ih =>
    obtain ⟨between, next, scan⟩ := Nesting.scan_cons_eq_some.mp scan
    rw [List.foldlM_cons, List.foldlM_cons, line_onGround live tracks floors low next]
    refine grounded_bind fun run' done => ?_
    have isolates : Isolates (visitBelow env levels) := visitBelow_isolates levels
    have tracks' := process_tracks (visitWithin_isolates isolates room) isolates tracks next done
    have floors' : run'.floors = run.floors := stepWithin_floors done
    exact ih tracks' (floors' ▸ floors) scan

end

end LineTemplate.Run
