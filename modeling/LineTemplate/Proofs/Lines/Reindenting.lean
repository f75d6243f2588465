import LineTemplate.Proofs.Lines.Outcome
import LineTemplate.Proofs.Output.Margins
import LineTemplate.Run.Render

/-!
# Lines under another margin

Two runs that differ in their margin and in the margin of what they have written (`Run.Reindented`).
A line does the same to both, or it fails with the same fault, and the sources that it starts differ
in their margin only (`route_matches`). The margin of a run decides nothing.
-/

namespace LineTemplate

/-- Two margins that go on in the same way after `old` and after `new`. -/
def Shifted (old new margin margin' : Text) : Prop :=
  ∃ rest, margin = old ++ rest ∧ margin' = new ++ rest

theorem Shifted.append {old new margin margin' : Text} (h : Shifted old new margin margin')
    (indentation : Text) : Shifted old new (margin ++ indentation) (margin' ++ indentation) := by
  obtain ⟨rest, rfl, rfl⟩ := h
  exact ⟨rest ++ indentation, List.append_assoc .., List.append_assoc ..⟩

/-- The run with another margin, in which what was written since `base` has the margin `new` in
place of `old`. -/
inductive Run.Reindented (margins : Text → Text → Prop) (old new : Text) (base : CursorDirectory)
    (run : Run) : Run → Prop where
  | intro {margin : Text} {cursors : CursorDirectory} (shifted : margins run.margin margin)
    (alike : CursorDirectory.Reindented old new base run.cursors cursors) :
    Reindented margins old new base run { run with margin, cursors }

/-- The source with another margin. -/
inductive Visit.Remargined (old new : Text) : Visit → Visit → Prop where
  | replay (r : Replay) {margin : Text} (shifted : Shifted old new r.margin margin) :
    Remargined old new (.replay r) (.replay { r with margin })
  | file (f : FileVisit) {margin : Text} (shifted : Shifted old new f.margin margin) :
    Remargined old new (.file f) (.file { f with margin })

inductive Task.Remargined (old new : Text) : Task → Task → Prop where
  | none : Remargined old new .none .none
  | iterate {iterations iterations' : List Replay}
    (all : List.Forall₂ (fun r r' => Visit.Remargined old new (.replay r) (.replay r'))
      iterations iterations') :
    Remargined old new (.iterate iterations) (.iterate iterations')
  | call {r r' : Replay} (h : Visit.Remargined old new (.replay r) (.replay r')) :
    Remargined old new (.call r) (.call r')
  | includeFile {f f' : FileVisit} (h : Visit.Remargined old new (.file f) (.file f')) :
    Remargined old new (.includeFile f) (.includeFile f')

/-- What a line does to the runs, and the tasks that it leaves. -/
def RoutedAlike (old new : Text) (base : CursorDirectory) (x y : Run × Task) : Prop :=
  Run.Reindented (Shifted old new) old new base x.1 y.1 ∧ Task.Remargined old new x.2 y.2

namespace Run

variable {env : Environment} {old new : Text} {base : CursorDirectory} {run run' : Run}
  {location : Location}

theorem located_matches {α β : Type} {R : α → β → Prop} {margins : Text → Text → Prop}
    (h : Reindented margins old new base run run') {x : Except Fault α} {y : Except Fault β}
    (alike : Matches R x y) (location : Location) :
    Matches R (run.located location x) (run'.located location y) := by
  cases h with
  | intro shifted same =>
    cases alike with
    | error fault => exact .error _
    | ok related => exact .ok related

section

variable (h : Reindented (Shifted old new) old new base run run')

include h

theorem emit_matches (raw : Text) :
    Matches (Reindented (Shifted old new) old new base) (run.emit env raw) (run'.emit env raw) := by
  cases h with
  | @intro margin cursors shifted alike =>
    have same : ({ run with margin, cursors } : Run).substitute env raw =
        run.substitute env raw := rfl
    unfold emit
    rw [same]
    cases run.substitute env raw with
    | error fault => exact .error fault
    | ok text =>
      refine .ok (.intro shifted (alike.write ?_))
      obtain ⟨rest, first, second⟩ := shifted
      cases text with
      | nil => exact .empty
      | cons c text =>
        simp only [List.isEmpty_cons, Bool.false_eq_true, ite_false, first, second,
          List.append_assoc]
        exact .text (by simp)

theorem moveCursor_matches (op : CursorOp) (name : Text) (active : Bool) :
    Matches (Reindented (Shifted old new) old new base) (run.moveCursor op name active)
      (run'.moveCursor op name active) := by
  cases h with
  | @intro margin cursors shifted alike =>
    have kept : Reindented (Shifted old new) old new base run { run with margin, cursors } :=
      .intro shifted alike
    unfold moveCursor
    cases op with
    | query =>
      dsimp only
      rw [alike.exists?]
      exact .maps _ fun conditionals => .intro shifted alike
    | enter =>
      cases active with
      | true => exact .ok (.intro shifted (alike.enter name))
      | false => exact .ok kept
    | switch =>
      dsimp only
      rw [alike.selectionDepth]
      cases active with
      | false => exact .ok kept
      | true =>
        by_cases own : run.floors.selections < run.cursors.selectionDepth
        · simp only [if_pos own, ite_true]
          exact .ok (.intro shifted (alike.switch name))
        · simp only [if_neg own, ite_true]
          exact .ok (.intro shifted (alike.enter name))
    | leave =>
      dsimp only
      rw [alike.selectionDepth]
      cases active with
      | false => exact .ok kept
      | true =>
        by_cases own : run.floors.selections < run.cursors.selectionDepth
        · simp only [own, decide_true, Bool.not_true, Bool.false_eq_true, ite_false]
          unfold CursorDirectory.leave?
          rw [alike.selected]
          cases run.cursors.selected with
          | nil => exact .error _
          | cons i rest => exact .ok (.intro shifted (alike.select rest))
        · simp only [own, decide_false, Bool.not_true, Bool.not_false, Bool.false_eq_true,
            ite_false, ite_true]
          exact .error _

/-! ## Conditions, blocks and definitions -/

theorem openIf_matches (condition : Text) :
    Matches (Reindented (Shifted old new) old new base) (run.openIf env condition location)
      (run'.openIf env condition location) := by
  cases h with
  | intro shifted alike =>
    unfold openIf
    cases run.conditionals.isActive with
    | true => exact .maps _ fun conditionals => .intro shifted alike
    | false => exact .maps _ fun conditionals => .intro shifted alike

theorem elseIf_matches (condition : Text) :
    Matches (Reindented (Shifted old new) old new base) (run.elseIf env condition location)
      (run'.elseIf env condition location) := by
  cases h with
  | intro shifted alike =>
    unfold elseIf
    cases run.conditionals.asks run.floors.conditionals with
    | true => exact .maps _ fun conditionals => .intro shifted alike
    | false => exact .maps _ fun conditionals => .intro shifted alike

theorem define_matches (name value : Text) :
    Matches (Reindented (Shifted old new) old new base) (run.define name value)
      (run'.define name value) := by
  cases h with
  | intro shifted alike =>
    unfold define
    cases Arguments.tokenize value with
    | error cause => exact .error _
    | ok words => exact .ok (.intro shifted alike)

theorem openLoop_matches (loopVariable source : Text) (active : Bool) :
    Matches (Reindented (Shifted old new) old new base)
      (run.openLoop env loopVariable source active location)
      (run'.openLoop env loopVariable source active location) := by
  cases h with
  | @intro margin cursors shifted alike =>
    have same : ({ run with margin, cursors } : Run).loopRecords env source =
        run.loopRecords env source := rfl
    unfold openLoop
    rw [same]
    split
    · exact .error _
    · cases (if active then run.loopRecords env source else .ok []) with
      | error cause => exact .error _
      | ok records => exact .ok (.intro shifted alike)

theorem openMacro_matches (name parameters : Text) (active : Bool) :
    Matches (Reindented (Shifted old new) old new base)
      (run.openMacro name parameters active location)
      (run'.openMacro name parameters active location) := by
  cases h with
  | intro shifted alike =>
    unfold openMacro
    split
    · exact .error _
    · cases (if active then Parameter.listOfText parameters else .ok []) with
      | error cause => exact .error _
      | ok formals => exact .ok (.intro shifted alike)

theorem complete_alike (c : Capture) :
    RoutedAlike old new base (run.complete c location) (run'.complete c location) := by
  cases h with
  | @intro margin cursors shifted alike =>
    unfold complete
    cases c.active with
    | false => exact ⟨.intro shifted alike, .none⟩
    | true =>
      simp only [Bool.not_true, Bool.false_eq_true, ite_false]
      cases c.head with
      | macroBody name parameters => exact ⟨.intro shifted alike, .none⟩
      | loop loopVariable records =>
        refine ⟨.intro shifted alike, .iterate ?_⟩
        refine List.forall₂_iff_get.mpr ⟨by simp, fun i hi hi' => ?_⟩
        simp only [List.get_eq_getElem, List.getElem_mapIdx]
        exact .replay _ shifted

theorem capture_alike (line : Line) :
    RoutedAlike old new base (run.capture env line) (run'.capture env line) := by
  cases h with
  | @intro margin cursors shifted alike =>
    have meaning : ({ run with margin, cursors } : Run).classify env line.text =
        run.classify env line.text := rfl
    rw [capture_eq, capture_eq, meaning]
    dsimp only
    rcases run.captures.feed line (classifiedDirective? (run.classify env line.text)) with
      ⟨completed, captures⟩
    have fed : Reindented (Shifted old new) old new base { run with captures }
        { run with margin, cursors, captures } := .intro shifted alike
    cases completed with
    | none => exact ⟨fed, .none⟩
    | some c => exact complete_alike fed c

/-! ## Calls and includes -/

theorem descend_matches :
    Matches (Reindented (Shifted old new) old new base) (run.descend env) (run'.descend env) := by
  cases h with
  | intro shifted alike =>
    unfold descend
    split
    · exact .ok (.intro shifted alike)
    · exact .error _

theorem call_matches (name arguments indentation : Text) :
    Matches (RoutedAlike old new base) (run.call env name arguments indentation location)
      (run'.call env name arguments indentation location) := by
  have descends : Matches (Reindented (Shifted old new) old new base) (run.descend env)
    (run'.descend env) := descend_matches h
  cases h with
  | @intro margin cursors shifted alike =>
    have sees : ({ run with margin, cursors } : Run).visible env = run.visible env := rfl
    unfold call
    dsimp only
    cases run.macros.get? name with
    | none => exact .error _
    | some definition =>
      dsimp only
      rw [readArguments_congr sees]
      exact .bind_same _ fun args => descends.bind fun deeper deeper' entered =>
        .ok ⟨entered, .call (.replay _ (shifted.append indentation))⟩

theorem includeFile_matches (path indentation : Text) :
    Matches (RoutedAlike old new base) (run.includeFile env path indentation location)
      (run'.includeFile env path indentation location) := by
  have descends : Matches (Reindented (Shifted old new) old new base) (run.descend env)
    (run'.descend env) := descend_matches h
  cases h with
  | @intro margin cursors shifted alike =>
    have same : ({ run with margin, cursors } : Run).substitute env path =
        run.substitute env path := rfl
    unfold includeFile
    rw [same]
    refine .bind_same _ fun path => descends.bind fun deeper deeper' entered =>
      .bind_same _ fun key => ?_
    dsimp only
    split
    · exact .error _
    · exact .bind_same _ fun source =>
        .ok ⟨entered, .includeFile (.file _ (shifted.append indentation))⟩

/-! ## Lines -/

theorem direct_matches (kind : Directive) (object expression indentation : Text) (active : Bool) :
    Matches (RoutedAlike old new base)
      (run.direct env kind object expression indentation active location)
      (run'.direct env kind object expression indentation active location) := by
  -- All directives but calls and includes leave no task.
  have finished {x y : Outcome} (alike : Matches (Reindented (Shifted old new) old new base) x y) :
      Matches (RoutedAlike old new base) (x.map (·, Task.none)) (y.map (·, Task.none)) :=
    alike.map fun _ _ same => ⟨same, .none⟩
  have simply {x y : Except Fault Run}
      (alike : Matches (Reindented (Shifted old new) old new base) x y) :
      Matches (RoutedAlike old new base) ((run.located location x).map (·, Task.none))
        ((run'.located location y).map (·, Task.none)) :=
    finished (located_matches h alike location)
  cases kind with
  | ifHolds => exact finished (openIf_matches h expression)
  | elseIf => exact finished (elseIf_matches h expression)
  | define =>
    cases active with
    | true => exact simply (define_matches h object expression)
    | false => exact simply (.ok h)
  | loop => exact simply (openLoop_matches h object expression active)
  | defineMacro => exact simply (openMacro_matches h object expression active)
  | call =>
    cases active with
    | true => exact located_matches h (call_matches h object expression indentation) location
    | false => exact .ok ⟨h, .none⟩
  | includeFile =>
    cases active with
    | true => exact located_matches h (includeFile_matches h object indentation) location
    | false => exact .ok ⟨h, .none⟩
  | endLoop | endMacro => exact simply (.error _)
  | ifSet | ifNotSet | ifDef | ifNotDef | otherwise | endIf =>
    refine simply ?_
    cases h with
    | intro shifted alike => exact .maps _ fun _ => .intro shifted alike

theorem execute_matches (statement : Statement) :
    Matches (RoutedAlike old new base) (run.execute env statement location)
      (run'.execute env statement location) := by
  have conditionals : run'.conditionals = run.conditionals := by
    cases h
    rfl
  unfold execute
  rw [conditionals]
  cases statement.content with
  | literal =>
    cases run.conditionals.isActive with
    | true =>
      exact (located_matches h (emit_matches h statement.raw) location).map fun _ _ same =>
        ⟨same, .none⟩
    | false => exact .ok ⟨h, .none⟩
  | cursor op name rest =>
    have moved := moveCursor_matches h op (name.getD []) run.conditionals.isActive
    exact (located_matches h moved location).map fun _ _ same => ⟨same, .none⟩
  | directive kind object expression => exact direct_matches h _ _ _ _ _

/-- A line does the same under another margin. -/
theorem route_matches (line : Line) :
    Matches (RoutedAlike old new base) (run.route env line) (run'.route env line) := by
  have captures : run'.captures = run.captures := by
    cases h
    rfl
  have meaning : run'.classify env line.text = run.classify env line.text := by
    cases h
    rfl
  unfold route
  rw [captures, meaning]
  cases run.captures.isCapturing with
  | true => exact .ok (capture_alike h line)
  | false =>
    simp only [Bool.false_eq_true, ite_false]
    cases run.classify env line.text with
    | error cause => exact located_matches h (.error _) line.location
    | ok statement => exact execute_matches h statement

end

end Run

end LineTemplate
