import LineTemplate.Proofs.Lines.Shelter

/-!
# Standing on other chains

Live text does not notice the chains around it. A run can be put on a ground: further chains below
those that are open, all of them on a branch that is taken, and conditions that were decided before.
`route_onGround` says that a line then does what it does without the ground, as long as it reaches
the same chains.
-/

namespace LineTemplate

/-- The chains that a run stands on, and the conditions that were decided before. -/
structure Ground where
  chains : List Chain
  decided : List Evaluation

def Ground.Live (g : Ground) : Prop :=
  ∀ c ∈ g.chains, c.taken = true

/-- The conditions that were decided before come first. -/
def Stop.onGround (g : Ground) : Stop → Stop
  | .fault cause evaluations => .fault cause (g.decided.reverse ++ evaluations)
  | .exhausted => .exhausted

/-- The result on a ground, where `f` puts a success there. -/
def grounded {α β : Type} (g : Ground) (f : α → β) (x : Except Stop α) : Except Stop β :=
  (x.map f).mapError (Stop.onGround g)

section

variable {α β γ δ : Type} {g : Ground}

@[simp] theorem grounded_ok (f : α → β) (a : α) : grounded g f (.ok a) = .ok (f a) := rfl

@[simp] theorem grounded_error (f : α → β) (stop : Stop) :
    grounded g f (.error stop : Except Stop α) = .error (stop.onGround g) := rfl

theorem grounded_map (f : β → γ) (h : α → β) (x : Except Stop α) :
    grounded g f (x.map h) = grounded g (f ∘ h) x := by
  cases x <;> rfl

theorem map_grounded (h : β → γ) (f : α → β) (x : Except Stop α) :
    (grounded g f x).map h = grounded g (h ∘ f) x := by
  cases x <;> rfl

theorem grounded_congr {f f' : α → β} {x : Except Stop α} (h : ∀ a, x = .ok a → f a = f' a) :
    grounded g f x = grounded g f' x := by
  cases x with
  | error stop => rfl
  | ok a => simp [h a rfl]

/-- Steps can be put on a ground one after the other. -/
theorem grounded_bind {f : α → β} {f' : γ → δ} {x : Except Stop α} {k : α → Except Stop γ}
    {k' : β → Except Stop δ} (h : ∀ a, x = .ok a → k' (f a) = grounded g f' (k a)) :
    (grounded g f x >>= k') = grounded g f' (x >>= k) := by
  cases x with
  | error stop => rfl
  | ok a => exact h a rfl

theorem eq_ok_of_grounded {f : α → β} {x : Except Stop α} {b : β}
    (h : grounded g f x = .ok b) : ∃ a, x = .ok a ∧ f a = b := by
  cases x with
  | error stop => cases h
  | ok a => exact ⟨a, rfl, Except.ok.inj h⟩

end

/-! ## Chains on a ground -/

namespace ConditionalStack

variable {base : List Chain} {s : ConditionalStack} {floor floor' : Nat}

def above (base : List Chain) (s : ConditionalStack) : ConditionalStack :=
  ⟨s.chains ++ base⟩

/-- The floor is above all open chains on the ground if and only if it is so without the ground. -/
def Aligned (base : List Chain) (floor' : Nat) (s : ConditionalStack) (floor : Nat) : Prop :=
  s.depth + base.length ≤ floor' ↔ s.depth ≤ floor

@[simp] theorem depth_above : (s.above base).depth = s.depth + base.length := by
  simp [above, depth]

section

variable (live : ∀ c ∈ base, c.taken = true)

include live

theorem isActive_above : (s.above base).isActive = s.isActive := by
  have all : base.all Chain.taken = true := List.all_eq_true.mpr live
  simp [above, isActive, all]

theorem push_above (expression : Option Text) (holds : Bool) :
    (s.above base).push expression holds = (s.push expression holds).above base := by
  simp [push, isActive_above live]
  rfl

theorem open?_above (expression : Option Text) (condition : Except Fault Bool) :
    (s.above base).open? expression condition =
      (s.open? expression condition).map (above base) := by
  rw [open?_eq, open?_eq, isActive_above live]
  cases s.isActive with
  | true => cases condition <;> simp [Except.map, push_above live]
  | false => simp [Except.map, push_above live]

end

section

variable (aligned : Aligned base floor' s floor)

include aligned

theorem continuable_above (outside afterLast : BlockFault) :
    (s.above base).continuable floor' outside afterLast =
      (s.continuable floor outside afterLast).map fun (chain, rest) => (chain, rest ++ base) := by
  unfold continuable
  rw [depth_above]
  by_cases low : s.depth ≤ floor
  · rw [if_pos low, if_pos (aligned.mpr low)]
    rfl
  · rw [if_neg low, if_neg (fun h => low (aligned.mp h))]
    cases chains : s.chains with
    | nil => simp [depth, chains] at low
    | cons chain rest =>
      simp only [above, chains, List.cons_append]
      split <;> rfl

theorem asks_above : (s.above base).asks floor' = s.asks floor := by
  unfold asks
  rw [continuable_above aligned]
  cases s.continuable floor .elseIfWithoutIf .elseIfAfterElse <;> rfl

theorem elseIf?_above (expression : Text) (condition : Except Fault Bool) :
    (s.above base).elseIf? floor' expression condition =
      (s.elseIf? floor expression condition).map (above base) := by
  rw [elseIf?_eq, elseIf?_eq, continuable_above aligned]
  cases s.continuable floor .elseIfWithoutIf .elseIfAfterElse with
  | error e => rfl
  | ok found =>
    obtain ⟨chain, rest⟩ := found
    dsimp only [Except.map]
    split
    · cases condition <;> rfl
    · rfl

theorem otherwise?_above :
    (s.above base).otherwise? floor' = (s.otherwise? floor).map (above base) := by
  rw [otherwise?_eq, otherwise?_eq, continuable_above aligned]
  cases s.continuable floor .elseWithoutIf .elseAfterElse <;> rfl

theorem close?_above :
    (s.above base).close? floor' =
      (s.close? floor).map fun (chain, rest) => (chain, rest.above base) := by
  rw [close?_eq, close?_eq, depth_above]
  by_cases low : s.depth ≤ floor
  · rw [if_pos low, if_pos (aligned.mpr low)]
    rfl
  · rw [if_neg low, if_neg (fun h => low (aligned.mp h))]
    cases chains : s.chains with
    | nil => simp [depth, chains] at low
    | cons chain rest =>
      simp only [above, chains, List.cons_append]
      rfl

end

end ConditionalStack

/-! ## Lines on a ground -/

namespace Run

open ConditionalStack (Aligned isActive_above)

/-- The run on a ground; `floor` is the floor of the open chains there. -/
def onGround (g : Ground) (floor : Nat) (run : Run) : Run :=
  { run with
    conditionals := run.conditionals.above g.chains
    decided := run.decided ++ g.decided
    floors := { run.floors with conditionals := floor } }

def routedOnGround (g : Ground) (floor : Nat) (routed : Run × Task) : Run × Task :=
  (routed.1.onGround g floor, routed.2)

section

variable {env : Environment} {g : Ground} {floor : Nat} {run : Run} {location : Location}

theorem located_onGround {α β : Type} (f : α → β) (x : Except Fault α) :
    (run.onGround g floor).located location (x.map f) = grounded g f (run.located location x) := by
  cases x with
  | error fault => simp [Except.map, evaluations, onGround, Stop.onGround]
  | ok a => rfl

theorem located_onGround_id {α : Type} (x : Except Fault α) :
    (run.onGround g floor).located location x = grounded g id (run.located location x) := by
  rw [← located_onGround]
  cases x <;> rfl

theorem emit_onGround (raw : Text) :
    (run.onGround g floor).emit env raw = (run.emit env raw).map (onGround g floor) := by
  have same : (run.onGround g floor).substitute env raw = run.substitute env raw := rfl
  unfold emit
  rw [same]
  cases run.substitute env raw <;> rfl

theorem define_onGround (name value : Text) :
    (run.onGround g floor).define name value = (run.define name value).map (onGround g floor) := by
  unfold define
  cases Arguments.tokenize value <;> rfl

theorem openLoop_onGround (loopVariable source : Text) (active : Bool) :
    (run.onGround g floor).openLoop env loopVariable source active location =
      (run.openLoop env loopVariable source active location).map (onGround g floor) := by
  have same : (run.onGround g floor).loopRecords env source = run.loopRecords env source := rfl
  unfold openLoop
  rw [same]
  split
  · rfl
  · split <;> rfl

theorem openMacro_onGround (name parameters : Text) (active : Bool) :
    (run.onGround g floor).openMacro name parameters active location =
      (run.openMacro name parameters active location).map (onGround g floor) := by
  unfold openMacro
  split
  · rfl
  · split <;> rfl

theorem complete_onGround (c : Capture) :
    (run.onGround g floor).complete c location =
      routedOnGround g floor (run.complete c location) := by
  unfold complete
  split
  · rfl
  · split <;> rfl

theorem capture_onGround (line : Line) :
    (run.onGround g floor).capture env line = routedOnGround g floor (run.capture env line) := by
  have same : (run.onGround g floor).classify env line.text = run.classify env line.text := rfl
  have fed : (run.onGround g floor).captures = run.captures := rfl
  rw [capture_eq, capture_eq, same, fed]
  rcases run.captures.feed line _ with ⟨_ | c, captures⟩
  · rfl
  · have grounded : { run.onGround g floor with captures } =
      { run with captures }.onGround g floor := rfl
    dsimp only
    rw [grounded, complete_onGround]

theorem descend_onGround :
    (run.onGround g floor).descend env = (run.descend env).map (onGround g floor) := by
  unfold descend
  by_cases shallow : run.depth < env.config.maxDepth
  · rw [if_pos shallow]
    exact if_pos shallow
  · rw [if_neg shallow]
    exact if_neg shallow

theorem call_onGround (name arguments indentation : Text) :
    (run.onGround g floor).call env name arguments indentation location =
      (run.call env name arguments indentation location).map (routedOnGround g floor) := by
  have same : (run.onGround g floor).macros.get? name = run.macros.get? name := rfl
  unfold call
  rw [same]
  cases run.macros.get? name with
  | none => rfl
  | some definition =>
    have sees : (run.onGround g floor).visible env = run.visible env := rfl
    dsimp only
    rw [readArguments_congr sees, descend_onGround]
    cases run.readArguments env arguments with
    | error fault => rfl
    | ok args => cases run.descend env <;> rfl

theorem includeFile_onGround (path indentation : Text) :
    (run.onGround g floor).includeFile env path indentation location =
      (run.includeFile env path indentation location).map (routedOnGround g floor) := by
  have same : (run.onGround g floor).substitute env path = run.substitute env path := rfl
  unfold includeFile
  rw [same, descend_onGround]
  cases run.substitute env path with
  | error fault => rfl
  | ok path =>
    cases descended : run.descend env with
    | error fault => rfl
    | ok deeper =>
      simp only [Outcome.ok_bind, Outcome.map_ok]
      cases env.loader.resolve path (some location.path) env.config.includeDirs with
      | error fault => rfl
      | ok key =>
        have files : (run.onGround g floor).files = run.files := rfl
        simp only [Outcome.ok_bind, files]
        by_cases circular : run.files.contains key = true
        · rw [if_pos circular, if_pos circular]
          rfl
        · rw [if_neg circular, if_neg circular]
          cases env.loader.openKey key <;> rfl

end

/-! ## Conditions on a ground -/

section

variable {env : Environment} {g : Ground} {floor : Nat} {run : Run} {location : Location}
  (live : g.Live)

theorem decide_onGround (condition : Text) :
    (run.onGround g floor).decide env condition =
      ((run.decide env condition).1, (run.decide env condition).2.onGround g floor) := rfl

theorem replaced_onGround (x : Except Fault ConditionalStack) :
    ((run.onGround g floor).located location (x.map (ConditionalStack.above g.chains))).map
        (fun conditionals => { run.onGround g floor with conditionals }) =
      grounded g (onGround g floor)
        ((run.located location x).map fun conditionals => { run with conditionals }) := by
  rw [located_onGround, map_grounded, grounded_map]
  rfl

section

variable (aligned : Aligned g.chains floor run.conditionals run.floors.conditionals)

include aligned

theorem elseIf_onGround (condition : Text) :
    (run.onGround g floor).elseIf env condition location =
      grounded g (onGround g floor) (run.elseIf env condition location) := by
  have asks : (run.onGround g floor).conditionals.asks (run.onGround g floor).floors.conditionals =
      run.conditionals.asks run.floors.conditionals := ConditionalStack.asks_above aligned
  unfold elseIf
  rw [asks, decide_onGround]
  cases run.conditionals.asks run.floors.conditionals with
  | false =>
    have continued := ConditionalStack.elseIf?_above aligned condition (.ok false)
    simp only [Bool.false_eq_true, ite_false]
    exact (congrArg _ (congrArg _ continued)).trans (replaced_onGround _)
  | true =>
    have continued := ConditionalStack.elseIf?_above aligned condition (run.decide env condition).1
    simp only [ite_true]
    exact (congrArg _ (congrArg _ continued)).trans (replaced_onGround _)

theorem otherwise_onGround :
    ((run.onGround g floor).conditionals.otherwise? floor).map
        (fun conditionals => { run.onGround g floor with conditionals }) =
      ((run.conditionals.otherwise? run.floors.conditionals).map
        fun conditionals => { run with conditionals }).map (onGround g floor) := by
  have continued := ConditionalStack.otherwise?_above aligned
  have lifted : (run.onGround g floor).conditionals = run.conditionals.above g.chains := rfl
  rw [lifted, continued]
  cases run.conditionals.otherwise? run.floors.conditionals <;> rfl

theorem close_onGround :
    ((run.onGround g floor).conditionals.close? floor).map
        (fun (_, conditionals) => { run.onGround g floor with conditionals }) =
      ((run.conditionals.close? run.floors.conditionals).map
        fun (_, conditionals) => { run with conditionals }).map (onGround g floor) := by
  have closed := ConditionalStack.close?_above aligned
  rw [show (run.onGround g floor).conditionals = run.conditionals.above g.chains from rfl, closed]
  cases run.conditionals.close? run.floors.conditionals <;> rfl

end

include live

theorem openTest_onGround (holds : Bool) :
    (run.onGround g floor).openTest holds = (run.openTest holds).map (onGround g floor) := by
  unfold openTest
  rw [show (run.onGround g floor).conditionals = run.conditionals.above g.chains from rfl,
    ConditionalStack.open?_above live]
  cases run.conditionals.open? none (.ok holds) <;> rfl

theorem openIf_onGround (condition : Text) :
    (run.onGround g floor).openIf env condition location =
      grounded g (onGround g floor) (run.openIf env condition location) := by
  have active : (run.onGround g floor).conditionals.isActive = run.conditionals.isActive :=
    isActive_above live
  unfold openIf
  rw [active, decide_onGround]
  cases run.conditionals.isActive with
  | false =>
    have opened := ConditionalStack.open?_above (s := run.conditionals) live (some condition)
      (.ok false)
    simp only [Bool.false_eq_true, ite_false]
    exact (congrArg _ (congrArg _ opened)).trans (replaced_onGround _)
  | true =>
    have opened := ConditionalStack.open?_above (s := run.conditionals) live (some condition)
      (run.decide env condition).1
    simp only [ite_true]
    exact (congrArg _ (congrArg _ opened)).trans (replaced_onGround _)

theorem moveCursor_onGround (op : CursorOp) (name : Text) (active : Bool) :
    (run.onGround g floor).moveCursor op name active =
      (run.moveCursor op name active).map (onGround g floor) := by
  cases op with
  | query =>
    have opened := ConditionalStack.open?_above (s := run.conditionals) live none
      (.ok (run.cursors.exists? name))
    change ((run.conditionals.above g.chains).open? none (.ok (run.cursors.exists? name))).map _ = _
    rw [opened]
    simp only [moveCursor]
    cases run.conditionals.open? none (.ok (run.cursors.exists? name)) <;> rfl
  | enter | switch => cases active <;> rfl
  | leave =>
    simp only [moveCursor]
    cases active with
    | false => rfl
    | true =>
      by_cases own : run.floors.selections < run.cursors.selectionDepth
      · have own' : (run.onGround g floor).floors.selections <
          (run.onGround g floor).cursors.selectionDepth := own
        simp only [own, own', decide_true, Bool.not_true, Bool.false_eq_true, ite_false]
        change run.cursors.leave?.map _ = _
        cases run.cursors.leave? <;> rfl
      · have own' : ¬ (run.onGround g floor).floors.selections <
          (run.onGround g floor).cursors.selectionDepth := own
        simp [own, own', Except.map]

theorem direct_onGround {kind : Directive} {object expression indentation : Text} {active : Bool}
    (aligned : ∀ role, role ≠ .opens → kind.description.block = some (.conditional, role) →
      Aligned g.chains floor run.conditionals run.floors.conditionals) :
    (run.onGround g floor).direct env kind object expression indentation active location =
      grounded g (routedOnGround g floor)
        (run.direct env kind object expression indentation active location) := by
  -- All directives but those with a task or a condition to decide end in one of these results.
  have finished (x : Except Fault Run) (y : Except Fault Run) (h : y = x.map (onGround g floor)) :
      ((run.onGround g floor).located location y).map (·, Task.none) =
        grounded g (routedOnGround g floor) ((run.located location x).map (·, Task.none)) := by
    rw [h, located_onGround, map_grounded, grounded_map]
    rfl
  cases kind with
  | ifHolds =>
    simp only [direct]
    rw [openIf_onGround live, map_grounded, grounded_map]
    rfl
  | elseIf =>
    simp only [direct]
    rw [elseIf_onGround (aligned .continues (by decide) rfl), map_grounded, grounded_map]
    rfl
  | ifSet | ifNotSet | ifDef | ifNotDef => exact finished _ _ (openTest_onGround live _)
  | otherwise => exact finished _ _ (otherwise_onGround (aligned .continues (by decide) rfl))
  | endIf => exact finished _ _ (close_onGround (aligned .closes (by decide) rfl))
  | define =>
    cases active with
    | false => exact finished (.ok run) _ rfl
    | true => exact finished _ _ (define_onGround _ _)
  | loop => exact finished _ _ (openLoop_onGround _ _ _)
  | defineMacro => exact finished _ _ (openMacro_onGround _ _ _)
  | endLoop | endMacro => exact finished (.error _) _ rfl
  | call =>
    cases active with
    | false => rfl
    | true =>
      simp only [direct, ite_true]
      rw [call_onGround, located_onGround]
  | includeFile =>
    cases active with
    | false => rfl
    | true =>
      simp only [direct, ite_true]
      rw [includeFile_onGround, located_onGround]

theorem execute_onGround {statement : Statement}
    (aligned : ∀ role, role ≠ .opens → statement.content.role = some (.conditional, role) →
      Aligned g.chains floor run.conditionals run.floors.conditionals) :
    (run.onGround g floor).execute env statement location =
      grounded g (routedOnGround g floor) (run.execute env statement location) := by
  have active : (run.onGround g floor).conditionals.isActive = run.conditionals.isActive :=
    isActive_above live
  unfold execute
  rw [active]
  cases content : statement.content with
  | literal =>
    cases run.conditionals.isActive with
    | false => rfl
    | true =>
      simp only [ite_true]
      rw [emit_onGround, located_onGround, map_grounded, grounded_map]
      rfl
  | cursor op name rest =>
    dsimp only
    rw [moveCursor_onGround live, located_onGround, map_grounded, grounded_map]
    rfl
  | directive kind object expression =>
    rw [content] at aligned
    exact direct_onGround live aligned

/-- A line does the same on live ground. One that continues or closes a chain has to reach the same
chains. -/
theorem route_onGround {line : Line}
    (aligned : ∀ role, role ≠ .opens → run.captures.captures = [] →
      env.config.indicators.role line.text = some (.conditional, role) →
        Aligned g.chains floor run.conditionals run.floors.conditionals) :
    (run.onGround g floor).route env line =
      grounded g (routedOnGround g floor) (run.route env line) := by
  have captures : (run.onGround g floor).captures = run.captures := rfl
  have meaning : (run.onGround g floor).classify env line.text = run.classify env line.text := rfl
  have role := Statement.classify_role env.config.indicators run.macros.contains line.text
  unfold route
  rw [captures, meaning]
  cases capturing : run.captures.isCapturing with
  | true =>
    simp only [ite_true]
    rw [capture_onGround]
    rfl
  | false =>
    have uncaptured := run.captures.isCapturing_eq_false_iff.mp capturing
    simp only [Bool.false_eq_true, ite_false]
    cases classified : run.classify env line.text with
    | error e => exact located_onGround (routedOnGround g floor) (.error (.malformed e))
    | ok statement =>
      unfold classify at classified
      rw [classified] at role
      refine execute_onGround live fun r notOpens isRole => ?_
      exact aligned r notOpens uncaptured (role.symm.trans isRole)

end

end Run

end LineTemplate
