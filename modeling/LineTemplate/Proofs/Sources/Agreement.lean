import LineTemplate.Proofs.Lines.Segments
import LineTemplate.Proofs.Sources.Termination

/-!
# Runs that agree

Two environments that differ in how strict they are and in how deep sources may nest, and the runs
of one template in both of them. The runs go on in lockstep until the first one ends for a reason
that the second one does not have. Which reasons these are is a parameter: `excused`.

A line is routed alike in both environments if references are replaced alike and sources are entered
alike (`route_agrees`). So a whole render is alike (`renderSource_agrees`).
-/

namespace LineTemplate

/-- Two results are the same, or the first one is an error that is excused. -/
def Agrees {ε α : Type} (excused : ε → Prop) (x y : Except ε α) : Prop :=
  x = y ∨ ∃ e, x = .error e ∧ excused e

namespace Agrees

variable {ε α β : Type} {excused : ε → Prop} {x y : Except ε α}

theorem refl (x : Except ε α) : Agrees excused x x := .inl rfl

theorem error {e : ε} (h : excused e) (y : Except ε α) : Agrees excused (.error e) y :=
  .inr ⟨e, rfl, h⟩

theorem map (h : Agrees excused x y) (f : α → β) : Agrees excused (x.map f) (y.map f) := by
  rcases h with rfl | ⟨e, rfl, he⟩
  · exact refl _
  · exact error he _

theorem bind {f g : α → Except ε β} (h : Agrees excused x y)
    (hf : ∀ a, x = .ok a → Agrees excused (f a) (g a)) :
    Agrees excused (x >>= f) (y >>= g) := by
  rcases h with rfl | ⟨e, rfl, he⟩
  · cases x with
    | error e => exact refl _
    | ok a => exact hf a rfl
  · exact error he _

theorem foldlM {f g : α → β → Except ε α} (h : ∀ a b, Agrees excused (f a b) (g a b))
    (items : List β) (a : α) : Agrees excused (items.foldlM f a) (items.foldlM g a) := by
  induction items generalizing a with
  | nil => exact refl _
  | cons b rest ih =>
    rw [List.foldlM_cons, List.foldlM_cons]
    exact (h a b).bind fun next _ => ih next

end Agrees

/-- The run ended with an excused fault, or a bound of the engine was too low. -/
def Stop.Excused (excused : Fault → Prop) : Stop → Prop
  | .fault cause _ => excused cause.fault
  | .exhausted => True

/-- The environment in which everything but these two options is as it was. -/
def Environment.withOptions (env : Environment) (strict : Bool) (maxDepth : Nat) : Environment :=
  { env with config := { env.config with strict, maxDepth } }

namespace Run

variable {env : Environment} {strict strict' : Bool} {depth depth' : Nat} {excused : Fault → Prop}

theorem located_agrees {α : Type} {x y : Except Fault α} (h : Agrees excused x y) (run : Run)
    (location : Location) :
    Agrees (Stop.Excused excused) (run.located location x) (run.located location y) := by
  rcases h with rfl | ⟨fault, rfl, he⟩
  · exact .refl _
  · exact .inr ⟨_, rfl, he⟩

/-! ## Lines -/

section

variable
  (replaces : ∀ run s, Agrees excused (substitute run (env.withOptions strict depth) s)
    (substitute run (env.withOptions strict' depth') s))
  (descends : ∀ run, Agrees excused (descend run (env.withOptions strict depth))
    (descend run (env.withOptions strict' depth')))

include replaces

theorem substituteAll_agrees (run : Run) (texts : List Text) :
    Agrees excused (run.substituteAll (env.withOptions strict depth) texts)
      (run.substituteAll (env.withOptions strict' depth') texts) := by
  induction texts with
  | nil => exact .refl _
  | cons s texts ih => exact (replaces run s).bind fun _ _ => ih.bind fun _ _ => .refl _

theorem readArguments_agrees (run : Run) (arguments : Text) :
    Agrees excused (run.readArguments (env.withOptions strict depth) arguments)
      (run.readArguments (env.withOptions strict' depth') arguments) := by
  unfold readArguments
  cases Arguments.ofText arguments with
  | error e => exact .refl _
  | ok args =>
    have positional := substituteAll_agrees replaces run args.positional
    have values := substituteAll_agrees replaces run (args.named.map (·.2))
    exact positional.bind fun _ _ => values.bind fun _ _ => .refl _

theorem emit_agrees (run : Run) (raw : Text) :
    Agrees excused (run.emit (env.withOptions strict depth) raw)
      (run.emit (env.withOptions strict' depth') raw) := by
  unfold emit
  rcases replaces run raw with same | ⟨fault, failed, he⟩
  · rw [same]
    exact .refl _
  · rw [failed]
    exact .error he _

include descends

theorem call_agrees (run : Run) (name arguments indentation : Text) (location : Location) :
    Agrees excused (run.call (env.withOptions strict depth) name arguments indentation location)
      (run.call (env.withOptions strict' depth') name arguments indentation location) := by
  unfold call
  cases run.macros.get? name with
  | none => exact .refl _
  | some definition =>
    have args := readArguments_agrees replaces run arguments
    exact args.bind fun _ _ => (descends run).bind fun _ _ => .refl _

theorem includeFile_agrees (run : Run) (path indentation : Text) (location : Location) :
    Agrees excused (run.includeFile (env.withOptions strict depth) path indentation location)
      (run.includeFile (env.withOptions strict' depth') path indentation location) := by
  unfold includeFile
  exact (replaces run path).bind fun _ _ => (descends run).bind fun _ _ => .refl _

theorem direct_agrees (run : Run) (kind : Directive) (object expression indentation : Text)
    (active : Bool) (location : Location) :
    Agrees (Stop.Excused excused)
      (run.direct (env.withOptions strict depth) kind object expression indentation active location)
      (run.direct (env.withOptions strict' depth') kind object expression indentation active
        location) := by
  cases kind with
  | call =>
    have called := call_agrees replaces descends run object expression indentation location
    cases active with
    | true => exact located_agrees called run location
    | false => exact .refl _
  | includeFile =>
    have included := includeFile_agrees replaces descends run object indentation location
    cases active with
    | true => exact located_agrees included run location
    | false => exact .refl _
  | _ => exact .refl _

/-- The two options play no part in what a line is and which blocks it belongs to. -/
theorem route_agrees (run : Run) (line : Line) :
    Agrees (Stop.Excused excused) (run.route (env.withOptions strict depth) line)
      (run.route (env.withOptions strict' depth') line) := by
  have classified : run.classify (env.withOptions strict depth) line.text =
      run.classify (env.withOptions strict' depth') line.text := rfl
  unfold route
  split
  · exact .refl _
  · rw [classified]
    cases run.classify (env.withOptions strict' depth') line.text with
    | error e => exact .refl _
    | ok statement =>
      dsimp only
      unfold execute
      cases statement.content with
      | literal =>
        have emitted := located_agrees (emit_agrees replaces run statement.raw) run line.location
        cases run.conditionals.isActive with
        | true => exact emitted.map _
        | false => exact .refl _
      | cursor => exact .refl _
      | directive => exact direct_agrees replaces descends run _ _ _ _ _ _

end

/-! ## Sources -/

section

variable {env' : Environment} {stops : Stop → Prop} {step step' : Run → Line → Outcome}
  {loops loops' deeper deeper' : Run → Visit → Outcome}

theorem readFile_agrees (h : ∀ run line, Agrees stops (step run line) (step' run line))
    (origin : Location) (bound : Nat) (run : Run) :
    Agrees stops (readFile step origin bound run) (readFile step' origin bound run) := by
  induction bound generalizing run with
  | zero => exact .refl _
  | succ bound ih =>
    unfold readFile
    split
    · exact .refl _
    · exact .refl _
    · exact (h _ _).bind fun next _ => ih next

theorem visit_agrees (h : ∀ run line, Agrees stops (step run line) (step' run line))
    (bound : Nat) (run : Run) (source : Visit) :
    Agrees stops (run.visit step bound source) (run.visit step' bound source) := by
  have started : Agrees stops (run.start source) (run.start source) := .refl _
  refine started.bind fun begun _ => ?_
  have read : Agrees stops (begun.read step bound source) (begun.read step' bound source) := by
    cases source with
    | replay r => exact Agrees.foldlM h r.body begun
    | file f => exact readFile_agrees h f.origin bound begun
  exact read.bind fun finished _ => .refl _

section

variable (routes : ∀ run line, Agrees stops (route run env line) (route run env' line))
  (hd : ∀ run source, Agrees stops (deeper run source) (deeper' run source))

include routes hd

theorem process_agrees (hl : ∀ run source, Agrees stops (loops run source) (loops' run source))
    (run : Run) (line : Line) :
    Agrees stops (process env loops deeper run line) (process env' loops' deeper' run line) := by
  refine (routes run line).bind fun ⟨routed, task⟩ _ => ?_
  cases task with
  | none => exact .refl _
  | iterate iterations =>
    exact Agrees.foldlM (fun run r => hl run (.replay r)) iterations routed
  | call r => exact (hd routed (.replay r)).map _
  | includeFile f => exact (hd routed (.file f)).map _

theorem visitWithin_agrees (room : Nat) (run : Run) (source : Visit) :
    Agrees stops (visitWithin env deeper room run source)
      (visitWithin env' deeper' room run source) := by
  induction room generalizing run source with
  | zero => exact .refl _
  | succ room ih =>
    have lines := process_agrees routes hd ih
    exact visit_agrees lines (source.size + 1) run source

end

/-- On a higher bound on the levels, the second run may go on where the first one is cut short. -/
theorem visitBelow_agrees
    (routes : ∀ run line, Agrees stops (route run env line) (route run env' line))
    (cut : stops .exhausted) {levels levels' : Nat} (more : levels ≤ levels') (run : Run)
    (source : Visit) :
    Agrees stops (visitBelow env levels run source) (visitBelow env' levels' run source) := by
  induction levels generalizing levels' run source with
  | zero => exact .error cut _
  | succ levels ih =>
    obtain ⟨further, rfl⟩ := Nat.exists_eq_add_of_le' (Nat.le_of_add_left_le more)
    have below : levels ≤ further := Nat.le_of_succ_le_succ more
    exact visitWithin_agrees routes (fun run source => ih below run source) _ run source

end

end Run

/-! ## Renders -/

/-- A fault of some kind ended the run. -/
def Stop.FailsWith (kind : Fault → Prop) (stop : Stop) : Prop :=
  ∃ cause evaluations, stop = .fault cause evaluations ∧ kind cause.fault

namespace Engine

/-- The engine in which everything but these two options is as it was. -/
def withOptions (engine : Engine) (strict : Bool) (maxDepth : Nat) : Engine :=
  { engine with env := engine.env.withOptions strict maxDepth }

section

variable {engine : Engine} {strict strict' : Bool} {depth depth' : Nat} {excused : Fault → Prop}
  (replaces : ∀ run s, Agrees excused
    (Run.substitute run (engine.env.withOptions strict depth) s)
    (Run.substitute run (engine.env.withOptions strict' depth') s))
  (descends : ∀ run, Agrees excused (Run.descend run (engine.env.withOptions strict depth))
    (Run.descend run (engine.env.withOptions strict' depth')))
  (deeper : depth ≤ depth')

include replaces descends deeper

theorem renderSource_agrees (key : Text) (source : Source) (origin : Location) :
    Agrees (Stop.FailsWith excused)
      ((engine.withOptions strict depth).renderSource key source origin)
      ((engine.withOptions strict' depth').renderSource key source origin) := by
  have routes := Run.route_agrees replaces descends
  have visits := Run.visitBelow_agrees routes trivial (Nat.succ_le_succ deeper)
    { settings := engine.settings } (.file { key, source, margin := [], origin })
  rcases visits.map fun run => ({ document := run.cursors.render
                                  evaluations := run.evaluations } : Rendering)
    with same | ⟨stop, failed, he⟩
  · exact .inl same
  · cases stop with
    | fault cause evaluations => exact .inr ⟨_, failed, cause, evaluations, rfl, he⟩
    | exhausted =>
      have finishes := (engine.withOptions strict depth).renderSource_ne_exhausted key source origin
      exact absurd failed finishes

theorem renderText_agrees (name text : Text) :
    Agrees (Stop.FailsWith excused) ((engine.withOptions strict depth).renderText name text)
      ((engine.withOptions strict' depth').renderText name text) :=
  renderSource_agrees replaces descends deeper name (Source.ofText text) ⟨name, 0⟩

theorem renderPath_agrees (path : Text) :
    Agrees (Stop.FailsWith excused) ((engine.withOptions strict depth).renderPath path)
      ((engine.withOptions strict' depth').renderPath path) := by
  have opened : (engine.withOptions strict depth).openPath path =
      (engine.withOptions strict' depth').openPath path := rfl
  unfold renderPath
  rw [opened]
  cases (engine.withOptions strict' depth').openPath path with
  | error fault => exact .refl _
  | ok found => exact renderSource_agrees replaces descends deeper found.1 found.2 ⟨path, 0⟩

end

end Engine

/-! ## Strictness -/

def Fault.Undefined (fault : Fault) : Prop :=
  ∃ name, fault = .undefinedVariable name

/-- Where no variable is missing, it does not matter whether that would be a fault. -/
theorem Segment.fillAll_agrees (mark : Text) (vars : Lookup) (segments : List Segment) :
    Agrees Fault.Undefined (fillAll mark true vars segments)
      (fillAll mark false vars segments) := by
  induction segments with
  | nil => exact .refl _
  | cons segment segments ih =>
    have filled : Agrees Fault.Undefined (segment.fill mark true vars)
        (segment.fill mark false vars) := by
      cases segment with
      | char | escapedMark => exact .refl _
      | reference name =>
        unfold fill
        dsimp only
        cases vars name with
        | some value => exact .refl _
        | none => exact .error ⟨name, rfl⟩ _
    exact filled.bind fun _ _ => ih.bind fun _ _ => .refl _

theorem substitute_agrees (mark : Text) (vars : Lookup) (s : Text) :
    Agrees Fault.Undefined (substitute mark true vars s) (substitute mark false vars s) := by
  rw [substitute_eq, substitute_eq]
  exact Segment.fillAll_agrees mark vars (Segment.listOf mark s)

namespace Engine

/-- Strictness only adds faults. Unless a strict render ends because a variable has no value, it is
the lenient render: the same document, or the same fault at the same line. -/
theorem strict_render_agrees (engine : Engine) (maxDepth : Nat) :
    (∀ name text, Agrees (Stop.FailsWith Fault.Undefined)
        ((engine.withOptions true maxDepth).renderText name text)
        ((engine.withOptions false maxDepth).renderText name text)) ∧
      ∀ path, Agrees (Stop.FailsWith Fault.Undefined)
        ((engine.withOptions true maxDepth).renderPath path)
        ((engine.withOptions false maxDepth).renderPath path) := by
  have replaces : ∀ (run : Run) s, Agrees Fault.Undefined
      (run.substitute (engine.env.withOptions true maxDepth) s)
      (run.substitute (engine.env.withOptions false maxDepth) s) :=
    fun run s => substitute_agrees _ _ _
  have descends : ∀ run : Run, Agrees Fault.Undefined
      (run.descend (engine.env.withOptions true maxDepth))
      (run.descend (engine.env.withOptions false maxDepth)) := fun _ => .refl _
  exact ⟨renderText_agrees replaces descends (Nat.le_refl _),
    renderPath_agrees replaces descends (Nat.le_refl _)⟩

end Engine

end LineTemplate
