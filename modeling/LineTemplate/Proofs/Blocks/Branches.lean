import LineTemplate.Proofs.Blocks.Balance

/-!
# Branches

`Chained` reads a list of lines as a conditional chain: branches with a condition and a balanced
body each. A condition has a verdict in a state, and `selected` is the body of the first branch
whose condition holds. The lemmas at the end say what the lines of the chain itself do: those that
open it, continue it and close it.
-/

namespace LineTemplate

/-- The condition of a branch. -/
inductive Condition where
  /-- An expression, which the evaluator decides. -/
  | holds (expression : Text)
  | isSet (name : Text) (expected : Bool)
  | isDefined (name : Text) (expected : Bool)
  | isCursor (name : Text)
  /-- The last branch needs no condition. -/
  | always
  deriving DecidableEq

structure Clause where
  condition : Condition
  body : List Line

namespace Content

/-- The condition with which a line opens a chain. -/
def opening? : Content → Option Condition
  | .directive .ifHolds _ expression => some (.holds (expression.getD []))
  | .directive .ifSet name _ => some (.isSet (name.getD []) true)
  | .directive .ifNotSet name _ => some (.isSet (name.getD []) false)
  | .directive .ifDef name _ => some (.isDefined (name.getD []) true)
  | .directive .ifNotDef name _ => some (.isDefined (name.getD []) false)
  | .cursor .query name _ => some (.isCursor (name.getD []))
  | _ => none

def continuing? : Content → Option Condition
  | .directive .elseIf _ expression => some (.holds (expression.getD []))
  | .directive .otherwise _ _ => some .always
  | _ => none

/-- Every line that opens a chain has a condition for it. -/
theorem isSome_opening?_iff (content : Content) :
    content.opening?.isSome ↔ content.role = some (.conditional, .opens) := by
  cases content with
  | literal => simp [opening?, role]
  | cursor op _ _ => cases op <;> simp [opening?, role]
  | directive kind _ _ => cases kind <;> simp [opening?, role, Directive.description]

theorem isSome_continuing?_iff (content : Content) :
    content.continuing?.isSome ↔ content.role = some (.conditional, .continues) := by
  cases content with
  | literal => simp [continuing?, role]
  | cursor op _ _ => cases op <;> simp [continuing?, role]
  | directive kind _ _ => cases kind <;> simp [continuing?, role, Directive.description]

end Content

namespace Indicators

def opening? (ind : Indicators) (line : Line) : Option Condition :=
  match Statement.classify ind (fun _ => false) line.text with
  | .ok statement => statement.content.opening?
  | .error _ => none

def continuing? (ind : Indicators) (line : Line) : Option Condition :=
  match Statement.classify ind (fun _ => false) line.text with
  | .ok statement => statement.content.continuing?
  | .error _ => none

variable {ind : Indicators} {line : Line} {condition : Condition}

theorem opening?_eq_some (h : ind.opening? line = some condition) :
    ∃ statement, Statement.classify ind (fun _ => false) line.text = .ok statement ∧
      statement.content.opening? = some condition := by
  unfold opening? at h
  split at h
  · rename_i statement meaning
    exact ⟨statement, meaning, h⟩
  · cases h

theorem continuing?_eq_some (h : ind.continuing? line = some condition) :
    ∃ statement, Statement.classify ind (fun _ => false) line.text = .ok statement ∧
      statement.content.continuing? = some condition := by
  unfold continuing? at h
  split at h
  · rename_i statement meaning
    exact ⟨statement, meaning, h⟩
  · cases h

theorem role_of_continuing? (h : ind.continuing? line = some condition) :
    ind.role line.text = some (.conditional, .continues) := by
  obtain ⟨statement, meaning, continuing⟩ := continuing?_eq_some h
  rw [role, meaning]
  exact statement.content.isSome_continuing?_iff.mp (by simp [continuing])

end Indicators

/-- What follows on the body of a branch: the further branches of the chain, and its end. A branch
without a condition is the last one. -/
inductive Further (ind : Indicators) : List Line → List Clause → Prop where
  | ended {last : Line} (closes : ind.role last.text = some (.conditional, .closes)) :
    Further ind [last] []
  | elseIf {head : Line} {body rest : List Line} {expression : Text} {clauses : List Clause}
      (continues : ind.continuing? head = some (.holds expression)) (balanced : Balanced ind body)
      (further : Further ind rest clauses) :
    Further ind (head :: (body ++ rest)) (⟨.holds expression, body⟩ :: clauses)
  | otherwise {head last : Line} {body : List Line}
      (continues : ind.continuing? head = some .always) (balanced : Balanced ind body)
      (closes : ind.role last.text = some (.conditional, .closes)) :
    Further ind (head :: (body ++ [last])) [⟨.always, body⟩]

/-- The lines make up a chain with the given branches. -/
inductive Chained (ind : Indicators) : List Line → List Clause → Prop where
  | opened {head : Line} {body rest : List Line} {condition : Condition} {clauses : List Clause}
      (opens : ind.opening? head = some condition) (balanced : Balanced ind body)
      (further : Further ind rest clauses) :
    Chained ind (head :: (body ++ rest)) (⟨condition, body⟩ :: clauses)

namespace Condition

/-- How a condition is decided in a state. -/
def verdict (env : Environment) (run : Run) : Condition → Except String Bool
  | holds expression => env.evaluator expression (run.visible env)
  | isSet name expected => .ok ((run.visible env name).isSome == expected)
  | isDefined name expected => .ok (run.isDefined name == expected)
  | isCursor name => .ok (run.cursors.exists? name)
  | always => .ok true

def isMet (env : Environment) (run : Run) (c : Condition) : Bool :=
  match c.verdict env run with
  | .ok met => met
  | .error _ => false

/-- What the evaluator is asked to decide a condition. -/
def evaluations (env : Environment) (run : Run) : Condition → List Evaluation
  | holds expression => [⟨expression, env.evaluator expression (run.visible env)⟩]
  | _ => []

end Condition

/-- The body of the first branch whose condition holds. -/
def selected (env : Environment) (run : Run) (clauses : List Clause) : List Line :=
  ((clauses.find? fun c => c.condition.isMet env run).map Clause.body).getD []

/-- What the evaluator is asked to find that branch, in order. -/
def consulted (env : Environment) (run : Run) : List Clause → List Evaluation
  | [] => []
  | c :: rest =>
    c.condition.evaluations env run ++
      if c.condition.isMet env run then [] else consulted env run rest

def Chain.further (c : Chain) (branch : Branch) (expression : Option Text) (met : Bool) : Chain :=
  { c with branch, expression, taken := !c.satisfied && met, satisfied := c.satisfied || met }

namespace Run

open ConditionalStack (Chain.pending)

/-- The run within a branch of a chain; `asked` are the conditions that were decided for it. -/
def onBranch (chain : Chain) (asked : List Evaluation) (run : Run) : Run :=
  { run with
    conditionals := ⟨chain :: run.conditionals.chains⟩
    decided := asked ++ run.decided }

/-! ## The lines of the chain itself -/

section

variable {env : Environment} {run run' : Run} {line : Line} {location : Location} {task : Task}
  {statement : Statement} {condition : Condition} {chain : Chain} {rest : List Chain}

/-- A line that has to do with blocks does what it says, whatever macros are known. -/
theorem route_of_role (uncaptured : run.captures.captures = [])
    (meaning : Statement.classify env.config.indicators (fun _ => false) line.text = .ok statement)
    (role : statement.content.role ≠ none) :
    run.route env line = run.execute env statement line.location := by
  have idle : ¬ run.captures.isCapturing = true := by
    simp [CaptureStack.isCapturing, uncaptured]
  have classified : run.classify env line.text = .ok statement :=
    Statement.classify_of_role meaning role run.macros.contains
  rw [route, if_neg idle, classified]

theorem openTest_live (live : run.conditionals.isActive = true) {holds : Bool}
    (h : run.openTest holds = .ok run') :
    run' = { run with conditionals := run.conditionals.push none holds } := by
  obtain ⟨s, hs, rfl⟩ := Outcome.map_eq_ok.mp h
  obtain ⟨holds', rfl, decided, -⟩ := open?_ok hs
  cases decided live
  rfl

theorem openIf_live (live : run.conditionals.isActive = true) {expression : Text}
    (h : run.openIf env expression location = .ok run') :
    ∃ holds, env.evaluator expression (run.visible env) = .ok holds ∧
      run' = { run with
        conditionals := run.conditionals.push (some expression) holds
        decided := ⟨expression, env.evaluator expression (run.visible env)⟩ :: run.decided } := by
  unfold openIf decide at h
  simp only [live, ite_true] at h
  obtain ⟨s, hs, rfl⟩ := Outcome.map_eq_ok.mp h
  obtain ⟨holds, rfl, decided, -⟩ := open?_ok (located_eq_ok.mp hs)
  exact ⟨holds, Outcome.mapError_eq_ok.mp (decided live), rfl⟩

/-- A line that opens a chain in live text decides its condition, and the branch is live if the
condition holds. -/
theorem execute_opening (live : run.conditionals.isActive = true)
    (opening : statement.content.opening? = some condition)
    (h : run.execute env statement location = .ok (run', task)) :
    task = .none ∧ ∃ holds expression, condition.verdict env run = .ok holds ∧
      run' = { run with
        conditionals := run.conditionals.push expression holds
        decided := condition.evaluations env run ++ run.decided } := by
  unfold execute at h
  cases content : statement.content with
  | literal => simp [content, Content.opening?] at opening
  | cursor op name _ =>
    rw [content] at opening h
    cases op <;> cases opening
    obtain ⟨next, hn, he⟩ := Outcome.map_eq_ok.mp h
    cases he
    exact ⟨rfl, _, none, rfl, openTest_live live (located_eq_ok.mp hn)⟩
  | directive kind name expression =>
    rw [content] at opening h
    have test : ∀ holds : Bool, condition.verdict env run = .ok holds →
        condition.evaluations env run = [] →
        (run.located location (run.openTest holds)).map (·, Task.none) = .ok (run', task) →
        task = .none ∧ ∃ holds expression, condition.verdict env run = .ok holds ∧
          run' = { run with
            conditionals := run.conditionals.push expression holds
            decided := condition.evaluations env run ++ run.decided } := by
      intro holds verdict unasked h
      obtain ⟨next, hn, he⟩ := Outcome.map_eq_ok.mp h
      cases he
      rw [unasked]
      exact ⟨rfl, holds, none, verdict, openTest_live live (located_eq_ok.mp hn)⟩
    cases kind with
    | ifHolds =>
      cases opening
      obtain ⟨next, hn, he⟩ := Outcome.map_eq_ok.mp h
      cases he
      obtain ⟨holds, verdict, rfl⟩ := openIf_live live hn
      exact ⟨rfl, holds, _, verdict, rfl⟩
    | ifSet | ifNotSet | ifDef | ifNotDef =>
      cases opening
      exact test _ (by simp [Condition.verdict]) rfl h
    | _ => cases opening

theorem elseIf?_live {s s' : ConditionalStack} {floor : Nat} {expression : Text}
    {decided : Except Fault Bool} (top : s.chains = chain :: rest)
    (parent : chain.parentActive = true) (h : s.elseIf? floor expression decided = .ok s') :
    ∃ met, (chain.satisfied = false → decided = .ok met) ∧ s.asks floor = !chain.satisfied ∧
      s' = ⟨chain.further .elseIf (some expression) met :: rest⟩ := by
  rw [ConditionalStack.elseIf?_eq] at h
  split at h
  · cases h
  · rename_i found others hc
    cases top.symm.trans (continuable_ok hc).1
    have pending : Chain.pending chain = !chain.satisfied := by simp [Chain.pending, parent]
    have asks : s.asks floor = !chain.satisfied := (asks_eq hc).trans pending
    rw [pending] at h
    cases satisfied : chain.satisfied with
    | true =>
      simp only [satisfied, Bool.not_true, Bool.false_eq_true, ite_false] at h
      cases h
      refine ⟨false, nofun, satisfied ▸ asks, ?_⟩
      simp [Chain.further, satisfied]
    | false =>
      simp only [satisfied, Bool.not_false, ite_true] at h
      obtain ⟨met, hm, rfl⟩ := Outcome.map_eq_ok.mp h
      refine ⟨met, fun _ => hm, satisfied ▸ asks, ?_⟩
      simp [Chain.further, satisfied]

theorem elseIf_live (top : run.conditionals.chains = chain :: rest)
    (parent : chain.parentActive = true) {expression : Text}
    (h : run.elseIf env expression location = .ok run') :
    ∃ met, (chain.satisfied = false → env.evaluator expression (run.visible env) = .ok met) ∧
      run' = { run with
        conditionals := ⟨chain.further .elseIf (some expression) met :: rest⟩
        decided := (if chain.satisfied then []
          else [⟨expression, env.evaluator expression (run.visible env)⟩]) ++ run.decided } := by
  unfold elseIf at h
  cases asks : run.conditionals.asks run.floors.conditionals with
  | false =>
    simp only [asks, Bool.false_eq_true, ite_false] at h
    obtain ⟨s, hs, rfl⟩ := Outcome.map_eq_ok.mp h
    obtain ⟨met, -, asks', rfl⟩ := elseIf?_live top parent (located_eq_ok.mp hs)
    have satisfied : chain.satisfied = true := by simpa [asks] using asks'
    exact ⟨met, by simp [satisfied], by simp [satisfied]⟩
  | true =>
    simp only [asks, ite_true, decide] at h
    obtain ⟨s, hs, rfl⟩ := Outcome.map_eq_ok.mp h
    obtain ⟨met, decided, asks', rfl⟩ := elseIf?_live top parent (located_eq_ok.mp hs)
    have satisfied : chain.satisfied = false := by simpa [asks] using asks'
    refine ⟨met, fun _ => ?_, by simp [satisfied]⟩
    exact Outcome.mapError_eq_ok.mp (decided satisfied)

theorem otherwise_live (top : run.conditionals.chains = chain :: rest)
    (parent : chain.parentActive = true) {s : ConditionalStack}
    (h : run.conditionals.otherwise? run.floors.conditionals = .ok s) :
    s = ⟨chain.further .otherwise none true :: rest⟩ := by
  rw [ConditionalStack.otherwise?_eq] at h
  split at h
  · cases h
  · rename_i found others hc
    cases h
    cases top.symm.trans (continuable_ok hc).1
    simp [Chain.further, Chain.pending, parent]

/-- A line that continues a chain decides its condition if no earlier branch was live, and the
branch is live if the condition then holds. -/
theorem execute_continuing (top : run.conditionals.chains = chain :: rest)
    (parent : chain.parentActive = true)
    (continuing : statement.content.continuing? = some condition)
    (h : run.execute env statement location = .ok (run', task)) :
    task = .none ∧ ∃ met branch expression,
      (chain.satisfied = false → condition.verdict env run = .ok met) ∧
      run' = { run with
        conditionals := ⟨chain.further branch expression met :: rest⟩
        decided := (if chain.satisfied then [] else condition.evaluations env run) ++
          run.decided } := by
  unfold execute at h
  cases content : statement.content with
  | literal => simp [content, Content.continuing?] at continuing
  | cursor op name _ => simp [content, Content.continuing?] at continuing
  | directive kind name expression =>
    rw [content] at continuing h
    cases kind with
    | elseIf =>
      cases continuing
      obtain ⟨next, hn, he⟩ := Outcome.map_eq_ok.mp h
      cases he
      obtain ⟨met, verdict, rfl⟩ := elseIf_live top parent hn
      exact ⟨rfl, met, _, _, verdict, rfl⟩
    | otherwise =>
      cases continuing
      obtain ⟨next, hn, he⟩ := Outcome.map_eq_ok.mp h
      cases he
      obtain ⟨s, hs, rfl⟩ := Outcome.map_eq_ok.mp (located_eq_ok.mp hn)
      cases otherwise_live top parent hs
      refine ⟨rfl, true, .otherwise, none, fun _ => rfl, ?_⟩
      cases chain.satisfied <;> rfl
    | _ => cases continuing

end

section

variable {env : Environment} {loops deeper : Run → Visit → Outcome} {run run' : Run} {line : Line}
  {condition : Condition} {chain : Chain} {asked : List Evaluation}

theorem isActive_onBranch :
    (run.onBranch chain asked).conditionals.isActive =
      (chain.taken && run.conditionals.isActive) := rfl

theorem verdict_onBranch (condition : Condition) :
    condition.verdict env (run.onBranch chain asked) = condition.verdict env run := by
  cases condition <;> rfl

theorem evaluations_onBranch (condition : Condition) :
    condition.evaluations env (run.onBranch chain asked) = condition.evaluations env run := by
  cases condition <;> rfl

theorem process_opens (uncaptured : run.captures.captures = [])
    (live : run.conditionals.isActive = true)
    (opens : env.config.indicators.opening? line = some condition)
    (done : process env loops deeper run line = .ok run') :
    ∃ met chain, condition.verdict env run = .ok met ∧ chain.parentActive = true ∧
      chain.taken = met ∧ chain.satisfied = met ∧
      run' = run.onBranch chain (condition.evaluations env run) := by
  obtain ⟨statement, meaning, opening⟩ := Indicators.opening?_eq_some opens
  obtain ⟨⟨routed, task⟩, hr, hp⟩ := Outcome.bind_eq_ok.mp done
  have role : statement.content.role = some (.conditional, .opens) :=
    statement.content.isSome_opening?_iff.mp (by simp [opening])
  rw [route_of_role uncaptured meaning (by simp [role])] at hr
  obtain ⟨rfl, met, expression, verdict, rfl⟩ := execute_opening live opening hr
  cases hp
  refine ⟨met, _, verdict, ?_, ?_, ?_, rfl⟩ <;> simp [live]

theorem process_continues (uncaptured : run.captures.captures = [])
    (parent : chain.parentActive = true)
    (continues : env.config.indicators.continuing? line = some condition)
    (done : process env loops deeper (run.onBranch chain asked) line = .ok run') :
    ∃ met branch expression, (chain.satisfied = false → condition.verdict env run = .ok met) ∧
      run' = run.onBranch (chain.further branch expression met)
        ((if chain.satisfied then [] else condition.evaluations env run) ++ asked) := by
  obtain ⟨statement, meaning, continuing⟩ := Indicators.continuing?_eq_some continues
  obtain ⟨⟨routed, task⟩, hr, hp⟩ := Outcome.bind_eq_ok.mp done
  have role : statement.content.role = some (.conditional, .continues) :=
    statement.content.isSome_continuing?_iff.mp (by simp [continuing])
  have idle : (run.onBranch chain asked).captures.captures = [] := uncaptured
  rw [route_of_role idle meaning (by simp [role])] at hr
  obtain ⟨rfl, met, branch, expression, verdict, rfl⟩ :=
    execute_continuing rfl parent continuing hr
  cases hp
  refine ⟨met, branch, expression, fun h => (verdict_onBranch condition).symm.trans (verdict h), ?_⟩
  rw [evaluations_onBranch]
  simp only [onBranch, List.append_assoc]

theorem process_closes (uncaptured : run.captures.captures = [])
    (closes : env.config.indicators.role line.text = some (.conditional, .closes))
    (done : process env loops deeper (run.onBranch chain asked) line = .ok run') :
    run' = { run with decided := asked ++ run.decided } := by
  obtain ⟨⟨routed, task⟩, hr, hp⟩ := Outcome.bind_eq_ok.mp done
  cases effect_of_route hr with
  | captured capturing => cases uncaptured.symm.trans capturing
  | completed capturing => cases uncaptured.symm.trans capturing
  | executed _ action =>
    obtain ⟨rfl, chain, rest, top, -, rfl⟩ := action.of_closes closes
    cases top
    cases hp
    rfl

end

end Run

end LineTemplate
