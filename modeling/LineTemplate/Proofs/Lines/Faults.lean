import LineTemplate.Proofs.Lines.Outcome
import LineTemplate.Proofs.Lines.Segments
import LineTemplate.Run.Route

/-!
# Faults of lines

A line that does not succeed ends the run with a fault, and the fault is located at that line. Most
steps raise no fault that has to do with what is open.
-/

namespace LineTemplate

/-- The run ended with a fault at a location. -/
def Stop.At (location : Location) (stop : Stop) : Prop :=
  ∃ fault evaluations, stop = .fault (Fault.at fault location) evaluations

namespace Run

/-- A step that does not succeed ends with a fault at a location. -/
def FailsAt {α : Type} (location : Location) (x : Except Stop α) : Prop :=
  ∀ stop, x = .error stop → stop.At location

variable {α β : Type} {location : Location}

theorem failsAt_ok (location : Location) (a : α) : FailsAt location (.ok a : Except Stop α) := nofun

theorem located_failsAt (run : Run) (location : Location) (x : Except Fault α) :
    FailsAt location (run.located location x) := by
  intro stop h
  cases x with
  | ok a => cases h
  | error fault =>
    cases h
    exact ⟨fault, run.evaluations, rfl⟩

theorem FailsAt.map {x : Except Stop α} (h : FailsAt location x) (f : α → β) :
    FailsAt location (x.map f) :=
  fun stop failed => h stop (Outcome.map_eq_error.mp failed)

theorem FailsAt.bind {x : Except Stop α} {f : α → Except Stop β} (h : FailsAt location x)
    (hf : ∀ a, FailsAt location (f a)) : FailsAt location (x >>= f) := by
  intro stop failed
  rcases Outcome.bind_eq_error.mp failed with failed | ⟨a, -, failed⟩
  · exact h stop failed
  · exact hf a stop failed

section

variable (run : Run) (env : Environment)

theorem openIf_failsAt (condition : Text) (location : Location) :
    FailsAt location (run.openIf env condition location) :=
  (located_failsAt _ location _).map _

theorem elseIf_failsAt (condition : Text) (location : Location) :
    FailsAt location (run.elseIf env condition location) :=
  (located_failsAt _ location _).map _

theorem direct_failsAt (kind : Directive) (object expression indentation : Text) (active : Bool)
    (location : Location) :
    FailsAt location (run.direct env kind object expression indentation active location) := by
  cases kind with
  | ifHolds => exact (openIf_failsAt run env expression location).map _
  | elseIf => exact (elseIf_failsAt run env expression location).map _
  | call | includeFile =>
    cases active with
    | true => exact located_failsAt run location _
    | false => exact failsAt_ok location _
  | endLoop | endMacro =>
    exact (located_failsAt run location (.error _ : Except Fault Run)).map (·, .none)
  | _ => exact (located_failsAt run location _).map _

theorem execute_failsAt (statement : Statement) (location : Location) :
    FailsAt location (run.execute env statement location) := by
  unfold execute
  cases statement.content with
  | literal =>
    dsimp only
    split
    · exact (located_failsAt run location _).map _
    · exact failsAt_ok location _
  | cursor => exact (located_failsAt run location _).map _
  | directive => exact direct_failsAt run env _ _ _ _ _ location

/-- What goes wrong in a line is located there. -/
theorem route_failsAt (line : Line) : FailsAt line.location (run.route env line) := by
  unfold route
  split
  · exact failsAt_ok _ _
  · split
    · exact located_failsAt run _ _
    · exact execute_failsAt run env _ _

/-- A line that is routed does not run out of a bound. -/
theorem route_ne_exhausted (line : Line) : run.route env line ≠ .error .exhausted := by
  intro h
  obtain ⟨_, _, located⟩ := route_failsAt run env line _ h
  cases located

end

end Run

/-! ## Faults that do not occur -/

/-- A step that does not end with such a fault. -/
def Avoids {ε α : Type} (P : ε → Prop) (x : Except ε α) : Prop :=
  ∀ e, x = .error e → ¬ P e

namespace Avoids

variable {ε ε' α β : Type} {P : ε → Prop} {x : Except ε α}

theorem ok (a : α) : Avoids P (.ok a : Except ε α) := nofun

theorem error {e : ε} (h : ¬ P e) : Avoids P (.error e : Except ε α) := by
  rintro _ ⟨⟩
  exact h

theorem map (h : Avoids P x) (f : α → β) : Avoids P (x.map f) :=
  fun e he => h e (Outcome.map_eq_error.mp he)

theorem bind {f : α → Except ε β} (h : Avoids P x) (hf : ∀ a, x = .ok a → Avoids P (f a)) :
    Avoids P (x >>= f) := by
  intro e he
  rcases Outcome.bind_eq_error.mp he with he | ⟨a, ha, he⟩
  · exact h e he
  · exact hf a ha e he

end Avoids

/-- Faults that are about what is open: blocks, or calls and includes. -/
def Fault.Structural : Fault → Prop
  | .unmatched _ | .tooDeep _ => True
  | _ => False

namespace Run

variable {env : Environment} {run : Run} {location : Location} {active : Bool} {P : Fault → Prop}

theorem open?_avoids {stack : ConditionalStack} {expression : Option Text}
    {condition : Except Fault Bool} (h : Avoids P condition) :
    Avoids P (stack.open? expression condition) := by
  rw [ConditionalStack.open?_eq]
  split
  · exact h.map _
  · exact .ok _

theorem openTest_avoids (holds : Bool) : Avoids P (run.openTest holds) :=
  (open?_avoids (.ok holds)).map _

theorem moveCursor_avoids (closed : ¬ P (.unmatched .closeWithoutCursor)) (op : CursorOp)
    (name : Text) : Avoids P (run.moveCursor op name active) := by
  unfold moveCursor
  cases op with
  | query => exact (open?_avoids (.ok _)).map _
  | enter | switch => exact .ok _
  | leave =>
    dsimp only
    split
    · exact .ok _
    · split
      · exact .error closed
      · refine Avoids.map ?_ _
        unfold CursorDirectory.leave?
        split
        · exact .error closed
        · exact .ok _

section

variable (structural : ∀ fault, P fault → fault.Structural)

include structural

theorem fillAll_avoids (mark : Text) (strict : Bool) (vars : Lookup) (segments : List Segment) :
    Avoids P (Segment.fillAll mark strict vars segments) := by
  induction segments with
  | nil => exact .ok _
  | cons segment segments ih =>
    refine .bind ?_ fun _ _ => .bind ih fun _ _ => .ok _
    cases segment with
    | char | escapedMark => exact .ok _
    | reference name =>
      dsimp only [Segment.fill]
      split
      · exact .ok _
      · split
        · exact .error (structural _)
        · exact .ok _

theorem substitute_avoids (s : Text) : Avoids P (run.substitute env s) := by
  rw [Run.substitute, substitute_eq]
  exact fillAll_avoids structural _ _ _ _

theorem substituteAll_avoids (texts : List Text) : Avoids P (run.substituteAll env texts) := by
  induction texts with
  | nil => exact .ok _
  | cons s texts ih =>
    exact .bind (substitute_avoids structural s) fun _ _ => .bind ih fun _ _ => .ok _

theorem emit_avoids (raw : Text) : Avoids P (run.emit env raw) := by
  unfold emit
  have substituted : Avoids P (run.substitute env raw) := substitute_avoids structural raw
  split
  · rename_i e he
    exact .error (substituted e he)
  · exact .ok _

theorem decide_avoids (condition : Text) : Avoids P (run.decide env condition).1 := by
  unfold decide
  cases env.evaluator condition (run.visible env) with
  | ok met => exact .ok met
  | error reason => exact .error (structural _)

theorem define_avoids (name value : Text) : Avoids P (run.define name value) := by
  unfold define
  split
  · exact .error (structural _)
  · exact .ok _

theorem openLoop_avoids (loopVariable source : Text) :
    Avoids P (run.openLoop env loopVariable source active location) := by
  unfold openLoop
  split
  · exact .error (structural _)
  · split
    · exact .error (structural _)
    · exact .ok _

theorem openMacro_avoids (name parameters : Text) :
    Avoids P (run.openMacro name parameters active location) := by
  unfold openMacro
  split
  · exact .error (structural _)
  · split
    · exact .error (structural _)
    · exact .ok _

theorem readArguments_avoids (arguments : Text) : Avoids P (run.readArguments env arguments) := by
  unfold readArguments
  split
  · exact .error (structural _)
  · exact .bind (substituteAll_avoids structural _) fun _ _ =>
      .bind (substituteAll_avoids structural _) fun _ _ => .ok _

theorem call_avoids (descends : Avoids P (run.descend env)) (name arguments indentation : Text) :
    Avoids P (run.call env name arguments indentation location) := by
  unfold call
  split
  · exact .error (structural _)
  · exact .bind (readArguments_avoids structural arguments) fun _ _ =>
      .bind descends fun _ _ => .ok _

theorem includeFile_avoids (descends : Avoids P (run.descend env))
    (resolves : ∀ path fromKey directories,
      Avoids P (env.loader.resolve path fromKey directories))
    (opens : ∀ key, Avoids P (env.loader.openKey key)) (path indentation : Text) :
    Avoids P (run.includeFile env path indentation location) := by
  unfold includeFile
  refine .bind (substitute_avoids structural path) fun path _ => .bind descends fun deeper _ =>
    .bind (resolves _ _ _) fun key _ => ?_
  split
  · exact .error (structural _)
  · exact .bind (opens key) fun _ _ => .ok _

theorem push?_avoids (files : FileStack) (path : Text) (source : Source) :
    Avoids P (files.push? path source) := by
  unfold FileStack.push?
  split
  · exact .error (structural _)
  · exact .ok _

theorem resolve_avoids (files : Bindings Source) (path : Text) (fromKey : Option Text)
    (directories : List Text) :
    Avoids P ((Loader.ofMemory files).resolve path fromKey directories) := by
  dsimp only [Loader.ofMemory]
  split
  · exact .ok _
  · exact .error (structural _)

theorem openKey_avoids (files : Bindings Source) (key : Text) :
    Avoids P ((Loader.ofMemory files).openKey key) := by
  dsimp only [Loader.ofMemory]
  split
  · exact .ok _
  · exact .error (structural _)

end

end Run

end LineTemplate
