import LineTemplate.Proofs.Blocks.Balance
import Mathlib

/-!
# Dead text

Balanced lines in dead text either fail or leave the run exactly as it was. Which of the two happens
follows from the lines alone: neither the evaluator nor the loader nor the tables are asked, and no
source is started. `Silent` is the invariant between the lines. The chains that are opened in dead
text are dead on every branch, since their surroundings are, and the bodies that are captured there
are dropped at their end.
-/

namespace LineTemplate

/-- A chain that is dead on the current branch and on all further ones. -/
def Chain.Dead (c : Chain) : Prop :=
  c.taken = false ∧ c.parentActive = false

namespace Run

variable {env : Environment} {outer run run' : Run} {location : Location} {line : Line}

/-- What a directive does in dead text depends on no collaborator. -/
theorem direct_of_dead {kind : Directive} {object expression indentation : Text}
    (dead : run.conditionals.isActive = false)
    (unasked : kind.description.block = some (.conditional, .continues) →
      run.conditionals.asks run.floors.conditionals = false) :
    ∃ result : Except Fault Run, ∀ loader tables evaluator,
      run.direct { env with loader, tables, evaluator } kind object expression indentation false
        location = (run.located location result).map (·, .none) := by
  cases kind with
  | ifHolds =>
    refine ⟨(run.conditionals.open? (some expression) (.ok false)).map
      fun conditionals => { run with conditionals }, fun loader tables evaluator => ?_⟩
    simp only [direct, openIf, dead, Bool.false_eq_true, ite_false, located_map]
  | elseIf =>
    refine ⟨(run.conditionals.elseIf? run.floors.conditionals expression (.ok false)).map
      fun conditionals => { run with conditionals }, fun loader tables evaluator => ?_⟩
    simp only [direct, elseIf, unasked rfl, Bool.false_eq_true, ite_false, located_map]
  | ifSet => exact ⟨run.openTest (run.visible env object).isSome, fun _ _ _ => rfl⟩
  | ifNotSet => exact ⟨run.openTest (run.visible env object).isNone, fun _ _ _ => rfl⟩
  | loop => exact ⟨run.openLoop env object expression false location, fun _ _ _ => rfl⟩
  | endLoop => exact ⟨.error (.unmatched .endLoopWithoutLoop), fun _ _ _ => rfl⟩
  | endMacro => exact ⟨.error (.unmatched .endMacroWithoutMacro), fun _ _ _ => rfl⟩
  | define | call | includeFile => exact ⟨.ok run, fun _ _ _ => rfl⟩
  | ifDef | ifNotDef | otherwise | endIf | defineMacro => exact ⟨_, fun _ _ _ => rfl⟩

theorem execute_of_dead {statement : Statement} (dead : run.conditionals.isActive = false)
    (unasked : statement.content.role = some (.conditional, .continues) →
      run.conditionals.asks run.floors.conditionals = false) :
    ∃ result : Except Fault Run, ∀ loader tables evaluator,
      run.execute { env with loader, tables, evaluator } statement location =
        (run.located location result).map (·, .none) := by
  cases content : statement.content with
  | literal =>
    refine ⟨.ok run, fun loader tables evaluator => ?_⟩
    simp [execute, content, dead]
  | cursor op name rest =>
    refine ⟨run.moveCursor op (name.getD []) false, fun loader tables evaluator => ?_⟩
    simp only [execute, content, dead]
  | directive kind object expression =>
    rw [content] at unasked
    simp only [execute, content, dead]
    exact direct_of_dead dead unasked

theorem complete_of_dropped {c : Capture} (dropped : c.active = false) :
    run.complete c location = (run, .none) := by
  simp [complete, dropped]

theorem Effect.task_of_dropped {task : Task} {c : Capture} {rest : List Capture}
    (h : Effect env run line run' task) (capturing : run.captures.captures = c :: rest)
    (dropped : c.active = false) : task = .none := by
  cases h with
  | captured => rfl
  | completed capturing' _ completes =>
    cases capturing.symm.trans capturing'
    rw [complete_of_dropped dropped] at completes
    exact (congrArg Prod.snd completes).symm
  | executed uncaptured =>
    rw [capturing] at uncaptured
    cases uncaptured

/-- What a line does in dead text depends on no collaborator, and it starts no source. -/
theorem route_of_dead (dead : run.conditionals.isActive = false)
    (dropped : ∀ c ∈ run.captures.captures, c.active = false)
    (unasked : env.config.indicators.role line.text = some (.conditional, .continues) →
      run.captures.captures = [] → run.conditionals.asks run.floors.conditionals = false) :
    ∃ result : Except Fault Run, ∀ loader tables evaluator,
      run.route { env with loader, tables, evaluator } line =
        (run.located line.location result).map (·, .none) := by
  cases captures : run.captures.captures with
  | cons c rest =>
    have capturing : run.captures.isCapturing = true := by
      simp [CaptureStack.isCapturing, captures]
    refine ⟨.ok (run.capture env line).1, fun loader tables evaluator => ?_⟩
    have same : run.capture { env with loader, tables, evaluator } line = run.capture env line :=
      rfl
    -- A body that began in dead text is dropped, and nothing is left to do.
    have effect : Effect env run line _ _ := capture_effect captures
    have task := effect.task_of_dropped captures (dropped c (by simp [captures]))
    rw [route, if_pos capturing, same, located_ok, Outcome.map_ok, ← task]
  | nil =>
    have idle : ¬ run.captures.isCapturing = true := by simp [CaptureStack.isCapturing, captures]
    have role := Statement.classify_role env.config.indicators run.macros.contains line.text
    -- The collaborators play no part in the classification.
    generalize meaning : Statement.classify env.config.indicators run.macros.contains line.text =
      result at role
    have classified : ∀ loader tables evaluator,
        run.classify { env with loader, tables, evaluator } line.text = result :=
      fun _ _ _ => meaning
    cases result with
    | error e =>
      refine ⟨.error (.malformed e), fun loader tables evaluator => ?_⟩
      rw [route, if_neg idle, classified]
      rfl
    | ok statement =>
      have unasked' := unasked
      rw [← role] at unasked'
      have independent : ∃ result : Except Fault Run, ∀ loader tables evaluator,
          run.execute { env with loader, tables, evaluator } statement line.location =
            (run.located line.location result).map (·, .none) :=
        execute_of_dead dead fun h => unasked' h captures
      obtain ⟨done, same⟩ := independent
      refine ⟨done, fun loader tables evaluator => ?_⟩
      rw [route, if_neg idle, classified]
      exact same loader tables evaluator

/-- In the state `run`, dead text that began in the state `outer` goes on. -/
structure Silent (outer run : Run) : Prop where
  unchanged : run = { outer with conditionals := run.conditionals, captures := run.captures }
  chains : ∃ top, run.conditionals.chains = top ++ outer.conditionals.chains ∧ ∀ c ∈ top, c.Dead
  dropped : ∀ c ∈ run.captures.captures, c.active = false

namespace Silent

variable {s : Nesting} {role : Role} {task : Task}

theorem refl (uncaptured : outer.captures.captures = []) : Silent outer outer where
  unchanged := rfl
  chains := ⟨[], rfl, by simp⟩
  dropped := by simp [uncaptured]

theorem dead (h : Silent outer run) (dead : outer.conditionals.isActive = false) :
    run.conditionals.isActive = false := by
  obtain ⟨top, chains, -⟩ := h.chains
  unfold ConditionalStack.isActive at dead ⊢
  rw [chains, List.all_append, dead, Bool.and_false]

theorem evaluations (h : Silent outer run) : run.evaluations = outer.evaluations := by
  rw [h.unchanged]
  rfl

/-- Where a chain of the dead text is open, it is the innermost one. -/
theorem innermost (h : Silent outer run) (tracks : Tracks outer.conditionals.chains s run)
    (some_chain : 0 < s.chains) {chain : Chain} {rest : List Chain}
    (top : run.conditionals.chains = chain :: rest) :
    chain.Dead ∧ ∃ others, rest = others ++ outer.conditionals.chains ∧ ∀ c ∈ others, c.Dead := by
  obtain ⟨opened, chains, all_dead⟩ := h.chains
  cases opened with
  | nil =>
    have depth : run.conditionals.chains.length = _ := tracks.depth
    rw [chains, List.nil_append] at depth
    omega
  | cons c others =>
    rw [chains, List.cons_append, List.cons.injEq] at top
    obtain ⟨rfl, rfl⟩ := top
    exact ⟨all_dead c (by simp), others, rfl, fun d hd => all_dead d (by simp [hd])⟩

theorem asks (h : Silent outer run) (tracks : Tracks outer.conditionals.chains s run)
    (some_chain : 0 < s.chains) :
    run.conditionals.asks run.floors.conditionals = false := by
  unfold ConditionalStack.asks
  split
  · rename_i chain rest continuable
    have dead := (h.innermost tracks some_chain (continuable_ok continuable).1).1
    simp [ConditionalStack.Chain.pending, dead.2]
  · rfl

theorem replaced (h : Silent outer run) (conditionals : ConditionalStack)
    (captures : CaptureStack) :
    { run with conditionals, captures } = { outer with conditionals, captures } := by
  rw [h.unchanged]

theorem action (h : Silent outer run) (dead : outer.conditionals.isActive = false)
    (tracks : Tracks outer.conditionals.chains s run) {s' : Nesting} (next : s.next role = some s')
    (uncaptured : run.captures.captures = [])
    (action : Action env run location role run' task) : Silent outer run' := by
  have unskipped := tracks.uncaptured_iff.mp uncaptured
  have still := h.dead dead
  have live : run.conditionals.isActive ≠ true := by simp [still]
  cases action with
  | idle => exact h
  | emitted live' | entered live' | switched live' | left live' | assigned live' | called live'
  | included live' => exact absurd live' live
  | @opened expression holds asked unasked =>
    obtain ⟨rfl, rfl⟩ := unasked still
    obtain ⟨top, chains, all_dead⟩ := h.chains
    refine ⟨h.replaced _ _, ⟨_ :: top, congrArg (List.cons _) chains, ?_⟩, h.dropped⟩
    intro c hc
    rcases List.mem_cons.mp hc with rfl | hc
    · simp [Chain.Dead, still]
    · exact all_dead c hc
  | @continued chain next' rest asked top own further parent unasked =>
    obtain ⟨-, some_chain⟩ := Nesting.next_continues unskipped next
    obtain ⟨dead', others, rfl, all_dead⟩ := h.innermost tracks some_chain top
    -- The chain was opened in dead text, so no branch of it can be live.
    obtain ⟨taken, rfl⟩ := unasked (by simp [ConditionalStack.Chain.pending, dead'.2])
    refine ⟨h.replaced _ _, ⟨next' :: others, rfl, ?_⟩, h.dropped⟩
    intro c hc
    rcases List.mem_cons.mp hc with rfl | hc
    · exact ⟨taken, parent.trans dead'.2⟩
    · exact all_dead c hc
  | ended top =>
    obtain ⟨-, some_chain⟩ := Nesting.next_closes unskipped next
    obtain ⟨-, others, rfl, all_dead⟩ := h.innermost tracks some_chain top
    exact ⟨h.replaced _ _, ⟨others, rfl, all_dead⟩, h.dropped⟩
  | captureStarted head =>
    refine ⟨h.replaced _ _, h.chains, ?_⟩
    simp [startCapture, CaptureStack.push, uncaptured, still]

theorem effect (h : Silent outer run) (dead : outer.conditionals.isActive = false)
    (tracks : Tracks outer.conditionals.chains s run) {s' : Nesting}
    (next : s.next (env.config.indicators.role line.text) = some s')
    (effect : Effect env run line run' task) : Silent outer run' := by
  cases effect with
  | @captured c rest capturing inside =>
    have dropped := h.dropped
    rw [capturing, List.forall_mem_cons] at dropped
    refine ⟨h.replaced _ _, h.chains, List.forall_mem_cons.mpr ⟨?_, dropped.2⟩⟩
    rw [Capture.grow_active, dropped.1]
  | @completed c rest run' task capturing ends completes =>
    have dropped := h.dropped
    rw [capturing, List.forall_mem_cons] at dropped
    rw [complete_of_dropped dropped.1] at completes
    cases completes
    exact ⟨h.replaced _ _, h.chains, dropped.2⟩
  | executed uncaptured action => exact h.action dead tracks next uncaptured action

end Silent

theorem Silent.eq_outer (h : Silent outer run) (tracks : Tracks outer.conditionals.chains {} run)
    (uncaptured : outer.captures.captures = []) : run = outer := by
  obtain ⟨chains, captures⟩ := tracks.eq_base
  have conditionals : run.conditionals = outer.conditionals := congrArg ConditionalStack.mk chains
  have captures : run.captures = outer.captures :=
    congrArg CaptureStack.mk (captures.trans uncaptured.symm)
  rw [h.unchanged, conditionals, captures]

/-- What comes of dead text: nothing, or a fault. -/
def deadOutcome (outer : Run) : Option LocatedFault → Outcome
  | none => .ok outer
  | some fault => .error (.fault fault outer.evaluations)

/-- A line of dead text ends the run by a fault, or dead text goes on after it. -/
theorem Silent.step {s s' : Nesting} (h : Silent outer run)
    (dead : outer.conditionals.isActive = false)
    (tracks : Tracks outer.conditionals.chains s run)
    (next : s.next (env.config.indicators.role line.text) = some s') :
    ∃ result : Except LocatedFault Run,
      (∀ loader tables evaluator loops deeper,
        process { env with loader, tables, evaluator } loops deeper run line =
          result.mapError (.fault · outer.evaluations)) ∧
      ∀ run', result = .ok run' →
        Silent outer run' ∧ Tracks outer.conditionals.chains s' run' := by
  have unasked : env.config.indicators.role line.text = some (.conditional, .continues) →
      run.captures.captures = [] → run.conditionals.asks run.floors.conditionals = false := by
    intro role uncaptured
    rw [role] at next
    exact h.asks tracks (Nesting.next_continues (tracks.uncaptured_iff.mp uncaptured) next).2
  obtain ⟨result, same⟩ := route_of_dead (h.dead dead) h.dropped unasked
  refine ⟨result.mapError (·.at line.location), ?_, ?_⟩
  · intro loader tables evaluator loops deeper
    rw [process, same, ← h.evaluations]
    cases result <;> rfl
  · intro run' ok
    cases result with
    | error fault => cases ok
    | ok done =>
      cases ok
      have effect : Effect env run line run' .none := effect_of_route (same _ _ _)
      exact ⟨h.effect dead tracks next effect, tracks.effect next effect⟩

/-- Lines of dead text that close what is open end the run by a fault, or leave it as it was. -/
theorem Silent.lines {s : Nesting} {lines : List Line} (h : Silent outer run)
    (dead : outer.conditionals.isActive = false) (uncaptured : outer.captures.captures = [])
    (tracks : Tracks outer.conditionals.chains s run)
    (scan : s.scan env.config.indicators lines = some {}) :
    ∃ fault, ∀ loader tables evaluator loops deeper,
      lines.foldlM (process { env with loader, tables, evaluator } loops deeper) run =
        outer.deadOutcome fault := by
  -- The scan moves along the lines; `Silent` and `Tracks` hold between any two of them.
  induction lines generalizing s run with
  | nil =>
    cases scan
    refine ⟨none, fun _ _ _ _ _ => ?_⟩
    rw [h.eq_outer tracks uncaptured]
    rfl
  | cons line lines ih =>
    obtain ⟨s', next, scan⟩ := Nesting.scan_cons_eq_some.mp scan
    obtain ⟨result, same, goesOn⟩ := h.step dead tracks next
    cases result with
    | error fault =>
      refine ⟨some fault, fun loader tables evaluator loops deeper => ?_⟩
      rw [List.foldlM_cons, same]
      rfl
    | ok run' =>
      obtain ⟨h', tracks'⟩ := goesOn run' rfl
      obtain ⟨fault, rest⟩ := ih h' tracks' scan
      refine ⟨fault, fun loader tables evaluator loops deeper => ?_⟩
      rw [List.foldlM_cons, same]
      exact rest loader tables evaluator loops deeper

/-- Balanced lines in dead text fail or leave the run as it was, and which of the two happens
depends neither on the loader, the tables and the evaluator nor on what other sources would do. -/
theorem dead_lines_inert (env : Environment) {run : Run} {lines : List Line}
    (uncaptured : run.captures.isCapturing = false) (dead : run.conditionals.isActive = false)
    (balanced : Balanced env.config.indicators lines) :
    ∃ fault : Option LocatedFault, ∀ loader tables evaluator loops deeper,
      lines.foldlM (process { env with loader, tables, evaluator } loops deeper) run =
        run.deadOutcome fault := by
  have uncaptured' := run.captures.isCapturing_eq_false_iff.mp uncaptured
  exact (Silent.refl uncaptured').lines dead uncaptured' (.refl uncaptured') balanced

def linesOf (texts : List String) : List Line :=
  texts.mapIdx fun i text => ⟨text.toList, ⟨['t'], i + 1⟩⟩

theorem dead_lines_inert_division :
    ∃ fault, ∀ loader tables evaluator loops deeper,
      (linesOf ["_IF 1 / 0", "x", "_ELSE", "_LOOP row over rows", "_END_LOOP", "_END_IF"]).foldlM
        (process ⟨{}, loader, tables, evaluator⟩ loops deeper)
        { settings := {}, conditionals := ConditionalStack.push {} none false } =
          Run.deadOutcome { settings := {}, conditionals := ConditionalStack.push {} none false }
            fault :=
  dead_lines_inert ⟨{}, Loader.ofMemory ⟨[]⟩, fun _ => none, evaluateCondition⟩ rfl rfl (by cbv)

end Run

end LineTemplate
