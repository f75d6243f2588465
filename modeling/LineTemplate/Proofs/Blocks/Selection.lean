import LineTemplate.Proofs.Blocks.Branches
import LineTemplate.Proofs.Blocks.DeadText
import LineTemplate.Proofs.Blocks.GroundedSources
import Mathlib

/-!
# The selected branch

A conditional chain stands for one of its branches. If the lines of a chain are carried out in live
text, the run is afterwards as if there had been only the body of the first branch whose condition
holds, or nothing if there is no such branch (`chain_selects`). The evaluator was asked for the
conditions up to that branch, each of them once and in order, and for no later one.

The branches before the selected one are dead text, and so are those after it. The selected body
stands on the chain as on a ground.
-/

namespace LineTemplate.Run

/-! ## The bodies -/

section

variable {env : Environment} {levels room : Nat} {run finished : Run} {body : List Line}
  {chain : Chain} {asked : List Evaluation}

/-- The body of a branch that is not selected changes nothing. -/
theorem dead_body (uncaptured : run.captures.captures = [])
    (dead : run.conditionals.isActive = false) (balanced : Balanced env.config.indicators body)
    (done : body.foldlM (stepWithin env levels room) run = .ok finished) : finished = run := by
  obtain ⟨fault, same⟩ :=
    (Silent.refl uncaptured).lines dead uncaptured (.refl uncaptured) balanced
  have outcome : run.deadOutcome fault = .ok finished :=
    (same env.loader env.tables env.evaluator _ _).symm.trans done
  cases fault with
  | none =>
    cases outcome
    rfl
  | some fault => cases outcome

/-- The body of the selected branch does what it would do without the chain around it. -/
theorem live_body (uncaptured : run.captures.captures = [])
    (live : run.conditionals.isActive = true)
    (low : run.floors.conditionals ≤ run.conditionals.depth) (taken : chain.taken = true)
    (balanced : Balanced env.config.indicators body)
    (done : body.foldlM (stepWithin env levels room) (run.onBranch chain asked) = .ok finished) :
    ∃ alone logged, body.foldlM (stepWithin env levels room) run = .ok alone ∧
      alone.captures.captures = [] ∧ alone.decided = logged ++ run.decided ∧
      finished = { alone with decided := logged ++ (asked ++ run.decided) }.onBranch chain [] := by
  -- The run apart from all chains and decisions; both runs are this one on some ground.
  let core : Run :=
    { run with conditionals := {}, decided := [], floors := { run.floors with conditionals := 0 } }
  let inside : Ground := ⟨chain :: run.conditionals.chains, asked ++ run.decided⟩
  let outside : Ground := ⟨run.conditionals.chains, run.decided⟩
  have outside_live : outside.Live := List.all_eq_true.mp live
  have inside_live : inside.Live := List.forall_mem_cons.mpr ⟨taken, outside_live⟩
  have idle : core.captures.captures = [] := uncaptured
  have tracks : Tracks [] {} core := Tracks.refl idle
  have done' : body.foldlM (stepWithin env levels room)
      (core.onGround inside run.floors.conditionals) = .ok finished := done
  rw [lines_onGround inside_live tracks rfl (Nat.le_succ_of_le low) balanced] at done'
  obtain ⟨core', hc, rfl⟩ := eq_ok_of_grounded done'
  have isolates : Isolates (visitBelow env levels) := visitBelow_isolates levels
  obtain ⟨chains, captures⟩ :=
    (lines_tracks (visitWithin_isolates isolates room) isolates tracks balanced hc).eq_base
  refine ⟨core'.onGround outside run.floors.conditionals, core'.decided, ?_, captures, rfl, ?_⟩
  · change body.foldlM _ (core.onGround outside run.floors.conditionals) = _
    rw [lines_onGround outside_live tracks rfl low balanced, hc]
    rfl
  · simp [onGround, onBranch, ConditionalStack.above, chains, outside, inside]

end

/-! ## The chain as a whole -/

section

variable {env : Environment} {levels room : Nat} {run final : Run} {lines : List Line}
  {clauses : List Clause} {chain : Chain} {asked : List Evaluation}

/-- A line that reaches an open chain reaches one of its own source. -/
theorem process_own {loops deeper : Run → Visit → Outcome} {line : Line} {below : List Chain}
    (uncaptured : run.captures.captures = []) (top : run.conditionals.chains = chain :: below)
    {block : BlockRole} (reaches : block ≠ .opens)
    (role : env.config.indicators.role line.text = some (.conditional, block))
    (done : process env loops deeper run line = .ok final) :
    run.floors.conditionals ≤ below.length := by
  obtain ⟨⟨routed, task⟩, hr, hp⟩ := Outcome.bind_eq_ok.mp done
  cases effect_of_route hr with
  | captured capturing => cases uncaptured.symm.trans capturing
  | completed capturing => cases uncaptured.symm.trans capturing
  | executed _ action =>
    obtain ⟨innermost, rest, top', own⟩ := action.own reaches role
    cases top.symm.trans top'
    exact own

/-- What follows on a body can only be carried out in the source that opened the chain. -/
theorem low_of_further {below : List Chain} (further : Further env.config.indicators lines clauses)
    (uncaptured : run.captures.captures = []) (top : run.conditionals.chains = chain :: below)
    (done : lines.foldlM (stepWithin env levels room) run = .ok final) :
    run.floors.conditionals ≤ below.length := by
  cases further with
  | ended closes =>
    obtain ⟨next, hp, -⟩ := Outcome.bind_eq_ok.mp done
    exact process_own uncaptured top (by decide) closes hp
  | elseIf continues | otherwise continues =>
    obtain ⟨next, hp, -⟩ := Outcome.bind_eq_ok.mp done
    exact process_own uncaptured top (by decide) (Indicators.role_of_continuing? continues) hp

theorem low_on_branch (further : Further env.config.indicators lines clauses)
    (uncaptured : run.captures.captures = [])
    (done : lines.foldlM (stepWithin env levels room) (run.onBranch chain asked) = .ok final) :
    run.floors.conditionals ≤ run.conditionals.depth := by
  have idle : (run.onBranch chain asked).captures.captures = [] := uncaptured
  have top : (run.onBranch chain asked).conditionals.chains =
      chain :: run.conditionals.chains := rfl
  have low := low_of_further further idle top done
  exact low

theorem dead_branch {body : List Line} (uncaptured : run.captures.captures = [])
    (untaken : chain.taken = false) (balanced : Balanced env.config.indicators body)
    (done : body.foldlM (stepWithin env levels room) (run.onBranch chain asked) = .ok final) :
    final = run.onBranch chain asked := by
  have idle : (run.onBranch chain asked).captures.captures = [] := uncaptured
  have dead : (run.onBranch chain asked).conditionals.isActive = false := by
    rw [isActive_onBranch, untaken, Bool.false_and]
  exact dead_body idle dead balanced done

/-- A branch after the selected one changes nothing, and asks nothing. -/
theorem later_branch {head : Line} {body : List Line} {condition : Condition}
    (uncaptured : run.captures.captures = []) (parent : chain.parentActive = true)
    (satisfied : chain.satisfied = true)
    (continues : env.config.indicators.continuing? head = some condition)
    (balanced : Balanced env.config.indicators body)
    (done : (head :: body).foldlM (stepWithin env levels room) (run.onBranch chain []) =
      .ok final) :
    ∃ next, next.parentActive = true ∧ next.satisfied = true ∧ final = run.onBranch next [] := by
  rw [List.foldlM_cons] at done
  obtain ⟨headed, hp, done⟩ := Outcome.bind_eq_ok.mp done
  obtain ⟨met, branch, expression, -, rfl⟩ := process_continues uncaptured parent continues hp
  rw [if_pos satisfied] at done
  have untaken : (chain.further branch expression met).taken = false := by
    simp [Chain.further, satisfied]
  have inert := dead_branch uncaptured untaken balanced done
  refine ⟨chain.further branch expression met, parent, ?_, inert⟩
  simp [Chain.further, satisfied]

/-- After the selected branch, the rest of the chain changes nothing. -/
theorem further_of_satisfied (further : Further env.config.indicators lines clauses)
    (uncaptured : run.captures.captures = []) (parent : chain.parentActive = true)
    (satisfied : chain.satisfied = true)
    (done : lines.foldlM (stepWithin env levels room) (run.onBranch chain []) = .ok final) :
    final = run := by
  induction further generalizing chain with
  | ended closes =>
    obtain ⟨next, hp, done⟩ := Outcome.bind_eq_ok.mp done
    cases done
    exact process_closes uncaptured closes hp
  | @elseIf head body rest expression clauses continues balanced further ih =>
    rw [← List.cons_append, List.foldlM_append] at done
    obtain ⟨passed, hb, done⟩ := Outcome.bind_eq_ok.mp done
    obtain ⟨next, parent', satisfied', rfl⟩ :=
      later_branch uncaptured parent satisfied continues balanced hb
    exact ih parent' satisfied' done
  | @otherwise head last body continues balanced closes =>
    rw [← List.cons_append, List.foldlM_append] at done
    obtain ⟨passed, hb, done⟩ := Outcome.bind_eq_ok.mp done
    obtain ⟨next, -, -, rfl⟩ := later_branch uncaptured parent satisfied continues balanced hb
    obtain ⟨next', hp, done⟩ := Outcome.bind_eq_ok.mp done
    cases done
    exact process_closes uncaptured closes hp

/-- From the state `run`, a chain leads to the state `final`: the one to which the selected body
leads by itself, but for the conditions that the chain has decided. The conditions in `before` were
decided earlier. -/
def Selects (env : Environment) (levels room : Nat) (run : Run) (clauses : List Clause)
    (before : List Evaluation) (final : Run) : Prop :=
  (∀ e ∈ consulted env run clauses, ∃ met, e.verdict = .ok met) ∧
    ∃ alone logged, (selected env run clauses).foldlM (stepWithin env levels room) run = .ok alone ∧
      alone.decided = logged ++ run.decided ∧
      final = { alone with
        decided := logged ++ (consulted env run clauses).reverse ++ (before ++ run.decided) }

theorem evaluations_reverse (condition : Condition) :
    (condition.evaluations env run).reverse = condition.evaluations env run := by
  cases condition <;> rfl

theorem evaluations_decided {condition : Condition} {met : Bool}
    (verdict : condition.verdict env run = .ok met) :
    ∀ e ∈ condition.evaluations env run, ∃ met, e.verdict = .ok met := by
  cases condition with
  | holds expression =>
    intro e he
    cases List.mem_singleton.mp he
    exact ⟨met, verdict⟩
  | _ => exact nofun

/-- A branch whose condition has been decided, with all that follows on it. -/
theorem decided_selects {condition : Condition} {met : Bool} {body rest : List Line}
    {before : List Evaluation} (uncaptured : run.captures.captures = [])
    (live : run.conditionals.isActive = true)
    (low : run.floors.conditionals ≤ run.conditionals.depth)
    (verdict : condition.verdict env run = .ok met) (parent : chain.parentActive = true)
    (taken : chain.taken = met) (satisfied : chain.satisfied = met)
    (balanced : Balanced env.config.indicators body)
    (further : Further env.config.indicators rest clauses)
    (others : met = false → ∀ asked,
      rest.foldlM (stepWithin env levels room) (run.onBranch chain asked) = .ok final →
        Selects env levels room run clauses asked final)
    (done : (body ++ rest).foldlM (stepWithin env levels room)
      (run.onBranch chain (condition.evaluations env run ++ before)) = .ok final) :
    Selects env levels room run (⟨condition, body⟩ :: clauses) before final := by
  have asked := evaluations_decided verdict
  have isMet : condition.isMet env run = met := by simp [Condition.isMet, verdict]
  rw [List.foldlM_append] at done
  obtain ⟨passed, hb, hr⟩ := Outcome.bind_eq_ok.mp done
  cases met with
  -- The body is the selected one; its result passes the rest of the chain unchanged.
  | true =>
    obtain ⟨alone, logged, ha, idle, decided, rfl⟩ :=
      live_body uncaptured live low taken balanced hb
    have ended := further_of_satisfied further (by exact idle) parent satisfied hr
    refine ⟨?_, alone, logged, ?_, decided, ?_⟩
    · simpa [consulted, isMet] using asked
    · simpa [selected, isMet] using ha
    · simp [ended, consulted, isMet, evaluations_reverse]
  -- The body is dead, and the choice is among the further branches.
  | false =>
    cases dead_branch uncaptured taken balanced hb
    obtain ⟨answered, alone, logged, ha, decided, rfl⟩ := others rfl _ hr
    refine ⟨?_, alone, logged, ?_, decided, ?_⟩
    · simp only [consulted, isMet, Bool.false_eq_true, ite_false, List.mem_append]
      rintro e (he | he)
      · exact asked e he
      · exact answered e he
    · simpa [selected, isMet] using ha
    · simp [consulted, isMet, evaluations_reverse]

theorem ended_selects {last : Line} (uncaptured : run.captures.captures = [])
    (closes : env.config.indicators.role last.text = some (.conditional, .closes))
    (done : [last].foldlM (stepWithin env levels room) (run.onBranch chain asked) = .ok final) :
    Selects env levels room run [] asked final := by
  obtain ⟨next, hp, done⟩ := Outcome.bind_eq_ok.mp done
  cases done
  rw [process_closes uncaptured closes hp]
  exact ⟨nofun, run, [], rfl, rfl, rfl⟩

/-- The next branch of a chain of which no branch was live, with all that follows on it. -/
theorem continued_selects {head : Line} {body rest : List Line} {condition : Condition}
    (uncaptured : run.captures.captures = []) (live : run.conditionals.isActive = true)
    (low : run.floors.conditionals ≤ run.conditionals.depth)
    (parent : chain.parentActive = true) (unsatisfied : chain.satisfied = false)
    (continues : env.config.indicators.continuing? head = some condition)
    (balanced : Balanced env.config.indicators body)
    (further : Further env.config.indicators rest clauses)
    (others : ∀ {chain asked}, chain.parentActive = true → chain.satisfied = false →
      rest.foldlM (stepWithin env levels room) (run.onBranch chain asked) = .ok final →
        Selects env levels room run clauses asked final)
    (done : (head :: (body ++ rest)).foldlM (stepWithin env levels room)
      (run.onBranch chain asked) = .ok final) :
    Selects env levels room run (⟨condition, body⟩ :: clauses) asked final := by
  rw [List.foldlM_cons] at done
  obtain ⟨next, hp, done⟩ := Outcome.bind_eq_ok.mp done
  obtain ⟨met, branch, expression, verdict, rfl⟩ :=
    process_continues uncaptured parent continues hp
  have taken : (chain.further branch expression met).taken = met := by
    simp [Chain.further, unsatisfied]
  have satisfied : (chain.further branch expression met).satisfied = met := by
    simp [Chain.further, unsatisfied]
  have parent' : (chain.further branch expression met).parentActive = true := parent
  rw [unsatisfied] at done
  exact decided_selects uncaptured live low (verdict unsatisfied) parent' taken satisfied balanced
    further (fun unmet _ => others parent' (satisfied.trans unmet)) done

/-- As long as no branch was live, what follows on a body selects among the further branches. -/
theorem further_selects (further : Further env.config.indicators lines clauses)
    (uncaptured : run.captures.captures = []) (live : run.conditionals.isActive = true)
    (parent : chain.parentActive = true) (unsatisfied : chain.satisfied = false)
    (done : lines.foldlM (stepWithin env levels room) (run.onBranch chain asked) = .ok final) :
    Selects env levels room run clauses asked final := by
  have low : run.floors.conditionals ≤ run.conditionals.depth :=
    low_on_branch further uncaptured done
  induction further generalizing chain asked with
  | ended closes => exact ended_selects uncaptured closes done
  | elseIf continues balanced further ih =>
    exact continued_selects uncaptured live low parent unsatisfied continues balanced further ih
      done
  | otherwise continues balanced closes =>
    exact continued_selects uncaptured live low parent unsatisfied continues balanced
      (.ended closes) (fun _ _ done => ended_selects uncaptured closes done) done

theorem low_of_body {body rest : List Line} (uncaptured : run.captures.captures = [])
    (balanced : Balanced env.config.indicators body)
    (further : Further env.config.indicators rest clauses)
    (done : (body ++ rest).foldlM (stepWithin env levels room) (run.onBranch chain asked) =
      .ok final) : run.floors.conditionals ≤ run.conditionals.depth := by
  have idle : (run.onBranch chain asked).captures.captures = [] := uncaptured
  rw [List.foldlM_append] at done
  obtain ⟨passed, hb, hr⟩ := Outcome.bind_eq_ok.mp done
  have isolates : Isolates (visitBelow env levels) := visitBelow_isolates levels
  obtain ⟨chains, captures⟩ :=
    (lines_tracks (visitWithin_isolates isolates room) isolates (.refl idle) balanced hb).eq_base
  have floors : passed.floors = (run.onBranch chain asked).floors := lines_floors hb
  have low := low_of_further further captures chains hr
  rw [floors] at low
  exact low

/-- A chain that is carried out in live text does what the first branch does whose condition holds,
and asks the conditions up to that branch, each of them once and in order. -/
theorem chain_selects (chained : Chained env.config.indicators lines clauses)
    (uncaptured : run.captures.isCapturing = false) (live : run.conditionals.isActive = true)
    (done : lines.foldlM (stepWithin env levels room) run = .ok final) :
    (∀ e ∈ consulted env run clauses, ∃ met, e.verdict = .ok met) ∧
      ∃ alone logged,
        (selected env run clauses).foldlM (stepWithin env levels room) run = .ok alone ∧
        alone.decided = logged ++ run.decided ∧
        final = { alone with
          decided := logged ++ (consulted env run clauses).reverse ++ run.decided } := by
  have uncaptured' := run.captures.isCapturing_eq_false_iff.mp uncaptured
  cases chained with
  | @opened head body rest condition clauses opens balanced further =>
    rw [List.foldlM_cons] at done
    obtain ⟨next, hp, done⟩ := Outcome.bind_eq_ok.mp done
    obtain ⟨met, chain, verdict, parent, taken, satisfied, rfl⟩ :=
      process_opens uncaptured' live opens hp
    have low := low_of_body uncaptured' balanced further done
    rw [← List.append_nil (condition.evaluations env run)] at done
    exact decided_selects uncaptured' live low verdict parent taken satisfied balanced further
      (fun unmet _ => further_selects further uncaptured' live parent (satisfied.trans unmet)) done

end

/-- An environment in which a condition holds if it is the word `yes`. -/
def yesEnv : Environment where
  config := {}
  loader := Loader.ofMemory ⟨[]⟩
  tables := fun _ => none
  evaluator := fun condition _ => .ok (condition == "yes".toList)

def lineAt (n : Nat) (text : String) : Line :=
  ⟨text.toList, ⟨['t'], n⟩⟩

/-- The branches of a chain of which the second one is selected. -/
def yesClauses : List Clause :=
  [⟨.holds "no".toList, [lineAt 2 "a"]⟩, ⟨.holds "yes".toList, [lineAt 4 "b"]⟩,
    ⟨.always, [lineAt 6 "c"]⟩]

def yesLines : List Line :=
  lineAt 1 "_IF no" :: ([lineAt 2 "a"] ++ lineAt 3 "_ELSE_IF yes" :: ([lineAt 4 "b"] ++
    lineAt 5 "_ELSE" :: ([lineAt 6 "c"] ++ [lineAt 7 "_END_IF"])))

theorem yesLines_chained : Chained {} yesLines yesClauses := by
  refine .opened ?_ ?_ (.elseIf ?_ ?_ (.otherwise ?_ ?_ ?_))
  all_goals cbv

def freshRun : Run := { settings := {} }

theorem chain_selects_second :
    (∀ e ∈ consulted yesEnv freshRun yesClauses, ∃ met, e.verdict = .ok met) ∧
      ∃ alone logged,
        (selected yesEnv freshRun yesClauses).foldlM (stepWithin yesEnv 0 0) freshRun =
          .ok alone ∧
        alone.decided = logged ++ freshRun.decided ∧
        { freshRun with
          cursors := freshRun.cursors.emit "b".toList
          decided := (consulted yesEnv freshRun yesClauses).reverse } =
        { alone with decided :=
          logged ++ (consulted yesEnv freshRun yesClauses).reverse ++ freshRun.decided } :=
  chain_selects yesLines_chained rfl rfl (by cbv)

end LineTemplate.Run
