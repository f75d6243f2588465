import LineTemplate.Proofs.Lines.Faults
import LineTemplate.Proofs.Sources.Agreement
import LineTemplate.Proofs.Sources.Passing
import LineTemplate.Proofs.Sources.Progress

/-!
# The depth of a run

A run counts the macro calls and includes that are in progress, and it enters none beyond the limit
of the configuration. The count is right at every moment: what a call or an include adds is taken
away when its source ends, and loops do not count.

A limit decides nothing else. Main statement: `higher_limit_agrees`. A line that is read where the
depth is below the limit does not exceed it (`route_not_tooDeep`).
-/

namespace LineTemplate

def Job.levels : Job → Nat
  | visit _ levels => levels
  | read _ _ _ levels => levels

/-- The macro calls and includes that end with the sources of some jobs. -/
def callsAndIncludes (jobs : List Job) : Nat :=
  (jobs.map Job.levels).sum

theorem callsAndIncludes_cons (job : Job) (jobs : List Job) :
    callsAndIncludes (job :: jobs) = job.levels + callsAndIncludes jobs := rfl

theorem callsAndIncludes_append (jobs jobs' : List Job) :
    callsAndIncludes (jobs ++ jobs') = callsAndIncludes jobs + callsAndIncludes jobs' := by
  simp [callsAndIncludes]

/-- A call or an include counts, the iterations of a loop do not. -/
theorem callsAndIncludes_task (task : Task) : callsAndIncludes task.jobs = task.levels := by
  cases task with
  | iterate iterations =>
    induction iterations with
    | nil => rfl
    | cons r rest ih => exact (callsAndIncludes_cons _ _).trans ((Nat.zero_add _).trans ih)
  | none | call | includeFile => rfl

namespace Progress

/-- The depth of a run is the number of calls and includes in progress, and within the limit. -/
def Counts (env : Environment) (p : Progress) : Prop :=
  p.run.depth = callsAndIncludes p.jobs ∧ p.run.depth ≤ env.config.maxDepth

theorem Counts.step {env : Environment} {p q : Progress} (h : Counts env p)
    (step : Steps env p q) : Counts env q := by
  obtain ⟨counted, allowed⟩ := h
  cases step with
  | ended => exact ⟨counted, allowed⟩
  | @started source levels jobs run run' history hs =>
    obtain ⟨files, scopes, margin, rfl⟩ := Run.start_ok hs
    exact ⟨counted, allowed⟩
  | @read outer run taken routed source n levels jobs history line task next hr =>
    obtain ⟨files, rfl, -⟩ := Visit.files_of_next? next
    have effect := Run.effect_of_route hr
    have depth : routed.depth = run.depth + task.levels := effect.depth
    constructor
    · have before : run.depth = levels + callsAndIncludes jobs := counted
      change routed.depth = _
      rw [callsAndIncludes_append, callsAndIncludes_task, callsAndIncludes_cons, depth, before]
      exact Nat.add_comm _ _
    · have one : task.levels ≤ 1 := by cases task <;> simp [Task.levels]
      have limit : run.depth ≤ env.config.maxDepth := allowed
      change routed.depth ≤ _
      by_cases deeper : task.levels = 0
      · omega
      · have shallow : run.depth < env.config.maxDepth := effect.shallow deeper
        omega
  | @finished outer run run' source n levels jobs history atEnd hf =>
    obtain ⟨-, files, scopes, rfl⟩ := Run.finish_ok hf
    have before : run.depth = levels + callsAndIncludes jobs := counted
    have limit : run.depth ≤ env.config.maxDepth := allowed
    constructor
    · change run.depth - levels = callsAndIncludes jobs
      omega
    · change run.depth - levels ≤ _
      omega

end Progress

namespace Run

theorem descend_withOptions (env : Environment) (strict : Bool) (limit : Nat) (run : Run) :
    run.descend (env.withOptions strict limit) =
      if run.depth < limit then .ok { run with depth := run.depth + 1 }
      else .error (.tooDeep limit) := rfl

theorem descend_agrees (env : Environment) (strict : Bool) {limit limit' : Nat}
    (raised : limit ≤ limit') (run : Run) :
    Agrees (· = .tooDeep limit) (run.descend (env.withOptions strict limit))
      (run.descend (env.withOptions strict limit')) := by
  rw [descend_withOptions, descend_withOptions]
  by_cases shallow : run.depth < limit
  · have allowed : run.depth < limit' := Nat.lt_of_lt_of_le shallow raised
    rw [if_pos shallow, if_pos allowed]
    exact .refl _
  · rw [if_neg shallow]
    exact .inr ⟨.tooDeep limit, rfl, rfl⟩

end Run

/-! ## Lines below the limit -/

def Fault.TooDeep (fault : Fault) : Prop :=
  ∃ limit, fault = .tooDeep limit

theorem tooDeep_structural (fault : Fault) (h : fault.TooDeep) : fault.Structural := by
  obtain ⟨limit, rfl⟩ := h
  trivial

theorem unmatched_not_tooDeep (block : BlockFault) : ¬ (Fault.unmatched block).TooDeep := nofun

namespace Run

variable {env : Environment} {run : Run} {location : Location}

theorem located_avoids {α : Type} {P : Fault → Prop} {x : Except Fault α} (h : Avoids P x) :
    Avoids (Stop.FailsWith P) (run.located location x) := by
  cases x with
  | ok a => exact .ok a
  | error fault =>
    refine .error ?_
    rintro ⟨_, _, ⟨⟩, failed⟩
    exact h fault rfl failed

theorem openIf_not_tooDeep (condition : Text) :
    Avoids (Stop.FailsWith Fault.TooDeep) (run.openIf env condition location) := by
  unfold openIf
  cases run.conditionals.isActive with
  | true =>
    exact (located_avoids (open?_avoids (decide_avoids tooDeep_structural condition))).map _
  | false => exact (located_avoids (open?_avoids (.ok _))).map _

theorem elseIf_not_tooDeep (condition : Text) :
    Avoids (Stop.FailsWith Fault.TooDeep) (run.elseIf env condition location) := by
  have continued {verdict : Except Fault Bool} (hv : Avoids Fault.TooDeep verdict) :
      Avoids Fault.TooDeep
        (run.conditionals.elseIf? run.floors.conditionals condition verdict) := by
    rw [ConditionalStack.elseIf?_eq]
    split
    · exact .error (unmatched_not_tooDeep _)
    · dsimp only
      split
      · exact hv.map _
      · exact .ok _
  unfold elseIf
  cases run.conditionals.asks run.floors.conditionals with
  | true => exact (located_avoids (continued (decide_avoids tooDeep_structural condition))).map _
  | false => exact (located_avoids (continued (.ok _))).map _

theorem otherwise_not_tooDeep (s : ConditionalStack) (floor : Nat) :
    Avoids Fault.TooDeep (s.otherwise? floor) := by
  rw [ConditionalStack.otherwise?_eq]
  split
  · exact .error (unmatched_not_tooDeep _)
  · exact .ok _

theorem close_not_tooDeep (s : ConditionalStack) (floor : Nat) :
    Avoids Fault.TooDeep (s.close? floor) := by
  rw [ConditionalStack.close?_eq]
  split
  · exact .error (unmatched_not_tooDeep _)
  · split
    · exact .error (unmatched_not_tooDeep _)
    · exact .ok _

section

variable (shallow : run.depth < env.config.maxDepth) {loaded : Bindings Source}
  (memory : env.loader = .ofMemory loaded)

include shallow

theorem descend_not_tooDeep : Avoids Fault.TooDeep (run.descend env) := by
  unfold descend
  rw [if_pos shallow]
  exact .ok _

include memory

theorem direct_not_tooDeep (kind : Directive) (object expression indentation : Text)
    (active : Bool) : Avoids (Stop.FailsWith Fault.TooDeep)
      (run.direct env kind object expression indentation active location) := by
  have descends : Avoids Fault.TooDeep (run.descend env) := descend_not_tooDeep shallow
  cases kind with
  | ifHolds => exact (openIf_not_tooDeep expression).map _
  | elseIf => exact (elseIf_not_tooDeep expression).map _
  | ifSet | ifNotSet | ifDef | ifNotDef => exact (located_avoids (openTest_avoids _)).map _
  | otherwise => exact (located_avoids ((otherwise_not_tooDeep _ _).map _)).map _
  | endIf => exact (located_avoids ((close_not_tooDeep _ _).map _)).map _
  | define =>
    refine (located_avoids ?_).map _
    split
    · exact define_avoids tooDeep_structural object expression
    · exact .ok _
  | loop => exact (located_avoids (openLoop_avoids tooDeep_structural object expression)).map _
  | defineMacro =>
    exact (located_avoids (openMacro_avoids tooDeep_structural object expression)).map _
  | endLoop | endMacro =>
    have closes (block : BlockFault) :
        Avoids Fault.TooDeep (.error (.unmatched block) : Except Fault Run) :=
      .error (unmatched_not_tooDeep block)
    exact (located_avoids (closes _)).map (·, .none)
  | call =>
    dsimp only [direct]
    split
    · exact located_avoids (call_avoids tooDeep_structural descends object expression indentation)
    · exact .ok _
  | includeFile =>
    dsimp only [direct]
    split
    · refine located_avoids
        (includeFile_avoids tooDeep_structural descends ?_ ?_ object indentation)
      · exact memory ▸ resolve_avoids tooDeep_structural loaded
      · exact memory ▸ openKey_avoids tooDeep_structural loaded
    · exact .ok _

/-- Where the depth is below the limit, no line exceeds it. -/
theorem route_not_tooDeep (line : Line) :
    Avoids (Stop.FailsWith Fault.TooDeep) (run.route env line) := by
  unfold route
  split
  · exact .ok _
  · split
    · exact located_avoids (.error (tooDeep_structural _))
    · unfold execute
      split
      · dsimp only
        split
        · exact (located_avoids (emit_avoids tooDeep_structural _)).map _
        · exact .ok _
      · exact (located_avoids (moveCursor_avoids (unmatched_not_tooDeep _) _ _)).map _
      · exact direct_not_tooDeep shallow memory _ _ _ _ _

end

end Run

namespace Engine

/-- To raise the limit changes nothing but that a render goes on where it would have reached it. At
every moment the depth is the number of macro calls and includes that are in progress, and it is
within the limit. -/
theorem higher_limit_agrees (engine : Engine) (strict : Bool) {limit limit' : Nat}
    (raised : limit ≤ limit') :
    (∀ name text, Agrees (Stop.FailsWith (· = .tooDeep limit))
        ((engine.withOptions strict limit).renderText name text)
        ((engine.withOptions strict limit').renderText name text)) ∧
      (∀ path, Agrees (Stop.FailsWith (· = .tooDeep limit))
        ((engine.withOptions strict limit).renderPath path)
        ((engine.withOptions strict limit').renderPath path)) ∧
      ∀ key source origin n p,
        (engine.withOptions strict limit).moment key source origin n = .ok p →
          p.run.depth = callsAndIncludes p.jobs ∧ p.run.depth ≤ limit := by
  have replaces : ∀ (run : Run) s, Agrees (· = .tooDeep limit)
      (run.substitute (engine.env.withOptions strict limit) s)
      (run.substitute (engine.env.withOptions strict limit') s) := fun _ _ => .refl _
  have descends := Run.descend_agrees engine.env strict raised
  refine ⟨renderText_agrees replaces descends raised, renderPath_agrees replaces descends raised,
    fun key source origin n p reached => ?_⟩
  have initial : Progress.Counts (engine.withOptions strict limit).env
      { jobs := [.visit (engine.entry key source origin).source 0]
        run := (engine.entry key source origin).outer } := ⟨rfl, Nat.zero_le _⟩
  exact Progress.after_induction initial (fun _ _ => Progress.Counts.step) reached

def partText : Text :=
  "_#IF_NOT_SET x\n _#INCLUDE p\n_#END_IF".toList

/-- A template that includes a part needs one level, and has no use for a second one. -/
theorem higher_limit_agrees_part :
    1 ≤ 2 ∧
      (∃ p, (withPart.withOptions true 1).moment ['t'] partTemplate ⟨['t'], 0⟩ 3 = .ok p ∧
        callsAndIncludes p.jobs = 1 ∧ p.run.depth = 1 ∧ p.run.depth ≤ 1) ∧
      (withPart.withOptions true 2).renderText ['t'] partText =
        .ok { document := { lines := [[' ', 'x']], cursors := [] }, evaluations := [] } := by
  have raised : 1 ≤ 2 := by decide
  have agrees := higher_limit_agrees withPart true raised
  have included : ((withPart.withOptions true 1).moment ['t'] partTemplate ⟨['t'], 0⟩ 3).map
      (fun p => callsAndIncludes p.jobs) = .ok 1 := by cbv
  obtain ⟨p, reached, one⟩ := Outcome.map_eq_ok.mp included
  obtain ⟨counted, allowed⟩ := agrees.2.2 _ _ _ _ _ reached
  have rendered : (withPart.withOptions true 1).renderText ['t'] partText =
      .ok { document := { lines := [[' ', 'x']], cursors := [] }, evaluations := [] } := by cbv
  have same := agrees.1 ['t'] partText
  rw [rendered] at same
  rcases same with same | ⟨stop, failed, -⟩
  · exact ⟨raised, ⟨p, reached, one, counted.trans one, allowed⟩, same.symm⟩
  · cases failed

end Engine

end LineTemplate
