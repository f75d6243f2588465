import LineTemplate.Proofs.Blocks.Definitions
import LineTemplate.Proofs.Lines.Reindenting
import LineTemplate.Proofs.Lines.Trimming

/-!
# Indentation

A source that is started with another margin does the same, but that the lines which it writes have
that margin (`visitBelow_matches`), through all sources that start inside of it.

Main statement: `indentation_passes_through`.
-/

namespace LineTemplate

/-- The margin plays no part in how many lines a source has. -/
theorem Visit.Remargined.size {old new : Text} {source source' : Visit}
    (h : Visit.Remargined old new source source') : source'.size = source.size := by
  cases h <;> rfl

namespace Run

variable {env : Environment} {margins : Text → Text → Prop} {old new : Text}
  {base : CursorDirectory} {run run' : Run} {source source' : Visit}

/-! ## Sources -/

theorem start_matches (h : Reindented margins old new base run run')
    (remargined : Visit.Remargined old new source source') :
    Matches (Reindented (Shifted old new) old new base) (run.start source)
      (run'.start source') := by
  cases h with
  | @intro margin cursors shifted alike =>
    have heights : ({ run with margin, cursors } : Run).heights = run.heights := by
      simp only [Run.heights, alike.selectionDepth]
    cases remargined with
    | replay r within =>
      simp only [start, heights]
      exact .ok (.intro within alike)
    | file f within =>
      simp only [start, heights]
      exact .bind_same _ fun files => .ok (.intro within alike)

theorem leave_matches (h : Reindented (Shifted old new) old new base run run') (outer : Floors)
    (location : Location) :
    Matches (Reindented (Shifted old new) old new base) (run.leave outer location)
      (run'.leave outer location) := by
  cases h with
  | @intro margin cursors shifted alike =>
    have opened : ({ run with margin, cursors } : Run).openBlock? = run.openBlock? := rfl
    unfold leave
    rw [opened]
    cases run.openBlock? with
    | none => exact .ok (.intro shifted (alike.truncate _))
    | some block => exact .error _

theorem finish_matches {finished finished' : Run} (h : Reindented margins old new base run run')
    (ends : Reindented (Shifted old new) old new base finished finished')
    (remargined : Visit.Remargined old new source source') :
    Matches (Reindented margins old new base) (run.finish finished source)
      (run'.finish finished' source') := by
  have floors : run'.floors = run.floors := by
    cases h
    rfl
  have files : finished'.files = finished.files := by
    cases ends
    rfl
  cases remargined with
  | replay r within =>
    dsimp only [finish]
    rw [floors]
    refine (leave_matches ends _ _).bind fun left left' alike => ?_
    cases h with
    | intro shifted =>
      cases alike with
      | intro _ alike => exact .ok (.intro shifted alike)
  | file f within =>
    dsimp only [finish]
    rw [floors, files]
    refine (leave_matches ends _ _).bind fun left left' alike => ?_
    cases h with
    | intro shifted =>
      cases alike with
      | intro _ alike => exact .ok (.intro shifted alike)

/-- A step that does the same under another margin. -/
def StepMatches (old new : Text) (base : CursorDirectory) (step : Run → Line → Outcome) : Prop :=
  ∀ run run' line, Reindented (Shifted old new) old new base run run' →
    Matches (Reindented (Shifted old new) old new base) (step run line) (step run' line)

/-- A way to visit sources that does the same with another margin of the source. -/
def VisitMatches (old new : Text) (base : CursorDirectory) (visitor : Run → Visit → Outcome) :
    Prop :=
  ∀ margins run run' source source', Reindented margins old new base run run' →
    Visit.Remargined old new source source' →
    Matches (Reindented margins old new base) (visitor run source) (visitor run' source')

theorem foldlM_matches {step : Run → Line → Outcome} (matched : StepMatches old new base step)
    (h : Reindented (Shifted old new) old new base run run') (lines : List Line) :
    Matches (Reindented (Shifted old new) old new base) (lines.foldlM step run)
      (lines.foldlM step run') := by
  induction lines generalizing run run' with
  | nil => exact .ok h
  | cons line lines ih =>
    rw [List.foldlM_cons, List.foldlM_cons]
    exact (matched run run' line h).bind fun next next' alike => ih alike

theorem readFile_matches {step : Run → Line → Outcome} (matched : StepMatches old new base step)
    (h : Reindented (Shifted old new) old new base run run') (origin : Location) (bound : Nat) :
    Matches (Reindented (Shifted old new) old new base) (readFile step origin bound run)
      (readFile step origin bound run') := by
  induction bound generalizing run run' with
  | zero => exact .error _
  | succ bound ih =>
    cases h with
    | @intro margin cursors shifted alike =>
      unfold readFile
      dsimp only
      rcases run.files.next with ⟨_ | ⟨fault | line⟩, files⟩
      · exact .ok (.intro shifted alike)
      · exact .error _
      · have taken : Reindented (Shifted old new) old new base { run with files }
          { run with margin, cursors, files } := .intro shifted alike
        exact (matched _ _ line taken).bind fun next next' alike => ih alike

theorem visit_matches {step : Run → Line → Outcome} (matched : StepMatches old new base step)
    (bound : Nat) : VisitMatches old new base fun run source => run.visit step bound source := by
  intro margins run run' source source' h remargined
  refine (start_matches h remargined).bind fun started started' begun => ?_
  have lines : Matches (Reindented (Shifted old new) old new base)
      (started.read step bound source) (started'.read step bound source') := by
    cases remargined with
    | replay r => exact foldlM_matches matched begun r.body
    | file f => exact readFile_matches matched begun f.origin bound
  exact lines.bind fun finished finished' ends => finish_matches h ends remargined

section

variable {loops deeper : Run → Visit → Outcome} (hl : VisitMatches old new base loops)
  (hd : VisitMatches old new base deeper)

include hl hd

theorem perform_matches {task task' : Task} (h : Reindented margins old new base run run')
    (remargined : Task.Remargined old new task task') :
    Matches (Reindented margins old new base) (run.perform loops deeper task)
      (run'.perform loops deeper task') := by
  have ascends {x y : Outcome} (alike : Matches (Reindented margins old new base) x y) :
      Matches (Reindented margins old new base)
        (x.map fun run => { run with depth := run.depth - 1 })
        (y.map fun run => { run with depth := run.depth - 1 }) := by
    refine alike.map fun after after' ends => ?_
    cases ends with
    | intro shifted alike => exact .intro shifted alike
  cases remargined with
  | none => exact .ok h
  | iterate all =>
    dsimp only [perform]
    induction all generalizing run run' with
    | nil => exact .ok h
    | cons first rest ih =>
      rw [List.foldlM_cons, List.foldlM_cons]
      exact (hl _ _ _ _ _ h first).bind fun next next' alike => ih alike
  | call inner => exact ascends (hd _ _ _ _ _ h inner)
  | includeFile inner => exact ascends (hd _ _ _ _ _ h inner)

theorem process_matches : StepMatches old new base (process env loops deeper) := by
  intro run run' line h
  exact (route_matches h line).bind fun routed routed' alike =>
    perform_matches hl hd alike.1 alike.2

end

theorem visitWithin_matches {deeper : Run → Visit → Outcome}
    (hd : VisitMatches old new base deeper) (room : Nat) :
    VisitMatches old new base (visitWithin env deeper room) := by
  induction room with
  | zero => exact fun _ _ _ _ _ _ _ => .error _
  | succ room ih =>
    intro margins run run' source source' h remargined
    unfold visitWithin
    rw [remargined.size]
    exact visit_matches (process_matches ih hd) _ margins run run' source source' h remargined

/-- Whatever the bounds are, a source does the same with another margin. -/
theorem visitBelow_matches (levels : Nat) :
    VisitMatches old new base (visitBelow env levels) := by
  induction levels with
  | zero => exact fun _ _ _ _ _ _ _ => .error _
  | succ levels ih =>
    intro margins run run' source source' h remargined
    unfold visitBelow
    rw [remargined.size]
    exact visitWithin_matches ih _ margins run run' source source' h remargined

end Run

/-! ## Lines that are indented -/

section

variable {env : Environment} {run : Run} {blanks : Text} {line : Line} {kind : Directive}
  {name : Text} {rest : Option Text} {levels room : Nat}

def Line.indent (blanks : Text) (line : Line) : Line :=
  { line with text := blanks ++ line.text }

theorem Line.indentation_indent (blank : ∀ c ∈ blanks, Unicode.isBlank c = true) :
    (line.indent blanks).indentation = blanks ++ line.indentation :=
  List.takeWhile_append_of_pos blank

theorem Reading.Directs.indented (h : Reading.Directs env ⟨run, line, 0⟩ kind name rest)
    (blank : ∀ c ∈ blanks, Unicode.isBlank c = true) :
    Reading.Directs env ⟨run, line.indent blanks, 0⟩ kind name rest where
  uncaptured := h.uncaptured
  live := h.live
  meaning := by
    have meaning := h.meaning
    rw [Run.classify] at meaning ⊢
    dsimp only [Line.indent]
    rw [Statement.classify_of_trim_eq (Text.trim_blanks_append blank line.text), meaning]
    rfl

namespace Run

/-- The source that an indented line starts has the blanks after the margin of the line. -/
theorem route_indented (h : Reading.Directs env ⟨run, line, 0⟩ kind name rest)
    (starts : kind = .call ∨ kind = .includeFile)
    (blank : ∀ c ∈ blanks, Unicode.isBlank c = true) :
    Matches (fun x y => y.1 = x.1 ∧ x.1.cursors = run.cursors ∧
        Task.Remargined run.margin (run.margin ++ blanks) x.2 y.2)
      (run.route env line) (run.route env (line.indent blanks)) := by
  have shifted : Shifted run.margin (run.margin ++ blanks) (run.margin ++ line.indentation)
      (run.margin ++ (line.indent blanks).indentation) := by
    rw [Line.indentation_indent blank]
    exact ⟨line.indentation, rfl, (List.append_assoc ..).symm⟩
  have same : Reindented Eq [] [] run.cursors run run := .intro rfl (.refl _ _ _)
  have descends : run.descend env = .error (.tooDeep env.config.maxDepth) ∨
      run.descend env = .ok { run with depth := run.depth + 1 } := by
    unfold descend
    split
    · exact .inr rfl
    · exact .inl rfl
  have first := h.route
  have second := (h.indented blank).route
  dsimp only at first second
  rw [first, second]
  rcases starts with rfl | rfl
  · refine located_matches same ?_ line.location
    unfold call
    cases run.macros.get? name with
    | none => exact .error _
    | some definition =>
      refine .bind_same _ fun args => ?_
      rcases descends with limit | deeper
      · rw [limit]
        exact .error _
      · rw [deeper]
        exact .ok ⟨rfl, rfl, .call (.replay _ shifted)⟩
  · refine located_matches same ?_ line.location
    unfold includeFile
    refine .bind_same _ fun path => ?_
    rcases descends with limit | deeper
    · rw [limit]
      exact .error _
    · rw [deeper, Outcome.ok_bind, Outcome.ok_bind]
      refine .bind_same _ fun key => ?_
      dsimp only
      split
      · exact .error _
      · exact .bind_same _ fun source => .ok ⟨rfl, rfl, .includeFile (.file _ shifted)⟩

/-! ## What is written -/

/-- The same state in both, but that what was written since `before` has one form in the first and
another form in the second. -/
structure SameBut (form form' : Piece → Piece) (before : CursorDirectory) (after after' : Run) :
    Prop where
  rest : after' = { after with cursors := after'.cursors }
  selected : after'.cursors.selected = after.cursors.selected
  names : after'.cursors.names = after.cursors.names
  /-- The pieces of a stream are the same in the same places. -/
  pieces : ∀ stream, ∃ written : List Piece,
    after.cursors.pieces stream = before.pieces stream ++ written.map form ∧
      after'.cursors.pieces stream = before.pieces stream ++ written.map form'

theorem Reindented.sameBut {old new : Text} {base : CursorDirectory} {after after' : Run}
    (h : Reindented Eq old new base after after') :
    SameBut (Piece.indent old) (Piece.indent new) base after after' := by
  cases h with
  | intro shifted alike =>
    subst shifted
    refine ⟨rfl, alike.selected, alike.names, fun stream => ?_⟩
    obtain ⟨added, added', first, second, margins⟩ := alike.pieces stream
    obtain ⟨bare, rfl, rfl⟩ := Piece.bare_of_reindents margins
    exact ⟨bare, first, second⟩

end Run

def Visit.indent (margin : Text) : Visit → Visit
  | replay r => replay { r with margin := margin ++ r.margin }
  | file f => file { f with margin := margin ++ f.margin }

theorem Visit.remargined_indent (margin : Text) (source : Visit) :
    Visit.Remargined [] margin source (source.indent margin) := by
  cases source with
  | replay r => exact .replay r ⟨r.margin, rfl, rfl⟩
  | file f => exact .file f ⟨f.margin, rfl, rfl⟩

end

namespace Run

/-- Indentation passes through sources. With more in front of its margin, a source does the same in
every state, or fails with the same fault, but each line that it writes has that in front, unless
the line is empty. So a call or an include with more blanks in front does the same, but that the
lines which it writes have these blanks after the margin of its own source. -/
theorem indentation_passes_through (env : Environment) (levels room : Nat) (run : Run) :
    (∀ (margin : Text) (source : Visit),
      Matches (SameBut id (Piece.indent margin) run.cursors)
        (visitWithin env (visitBelow env levels) room run source)
        (visitWithin env (visitBelow env levels) room run (source.indent margin))) ∧
    ∀ (blanks : Text) (line : Line) (kind : Directive) (name : Text) (rest : Option Text),
      (∀ c ∈ blanks, Unicode.isBlank c = true) → (kind = .call ∨ kind = .includeFile) →
      Reading.Directs env ⟨run, line, 0⟩ kind name rest →
      Matches (SameBut (Piece.indent run.margin) (Piece.indent (run.margin ++ blanks)) run.cursors)
        (stepWithin env levels room run line)
        (stepWithin env levels room run (line.indent blanks)) := by
  constructor
  · intro margin source
    have visits : VisitMatches [] margin run.cursors
        (visitWithin env (visitBelow env levels) room) :=
      visitWithin_matches (visitBelow_matches levels) room
    have alike := visits Eq run run source (source.indent margin) (.intro rfl (.refl _ _ _))
      (source.remargined_indent margin)
    exact alike.mono fun after after' h => Piece.indent_nil ▸ h.sameBut
  · intro blanks line kind name rest blank starts directs
    have routed := route_indented directs starts blank
    refine Matches.mono (R := Reindented Eq run.margin (run.margin ++ blanks) run.cursors) ?_
      fun _ _ h => h.sameBut
    refine routed.bind fun x y ⟨same, cursors, remargined⟩ => ?_
    dsimp only
    rw [same]
    refine perform_matches (visitWithin_matches (visitBelow_matches levels) room)
      (visitBelow_matches levels) ?_ remargined
    have start := CursorDirectory.Reindented.refl run.margin (run.margin ++ blanks) x.1.cursors
    exact .intro rfl (cursors ▸ start)

def plainEnvironment : Environment where
  config := {}
  loader := Loader.ofMemory {}
  tables := fun _ => none
  evaluator := evaluateCondition

/-- A run with a macro whose second line is empty. -/
def withTwoLines : Run where
  settings := {}
  macros := ⟨[(['m'], { name := ['m'], parameters := [], definedAt := ⟨['t'], 1⟩
                        body := [⟨['x'], ⟨['t'], 2⟩⟩, ⟨[], ⟨['t'], 3⟩⟩] })]⟩

/-- The empty line is not indented. -/
theorem indentation_passes_through_two_lines :
    ∃ after after',
      stepWithin plainEnvironment 1 0 withTwoLines ⟨"_m".toList, ⟨['t'], 5⟩⟩ = .ok after ∧
      stepWithin plainEnvironment 1 0 withTwoLines ⟨"  _m".toList, ⟨['t'], 5⟩⟩ = .ok after' ∧
      after.cursors.pieces none = [.line ['x'], .line []] ∧
      after'.cursors.pieces none = [.line "  x".toList, .line []] ∧
      SameBut (Piece.indent []) (Piece.indent "  ".toList) {} after after' := by
  have directs : Reading.Directs plainEnvironment ⟨withTwoLines, ⟨"_m".toList, ⟨['t'], 5⟩⟩, 0⟩ .call
      ['m'] none := ⟨rfl, rfl, by cbv⟩
  have space : Unicode.isBlank ' ' = true := by cbv
  have blank : ∀ c ∈ "  ".toList, Unicode.isBlank c = true := by simp [space]
  have alike := (indentation_passes_through plainEnvironment 1 0 withTwoLines).2 "  ".toList
    ⟨"_m".toList, ⟨['t'], 5⟩⟩ .call ['m'] none blank (.inl rfl) directs
  have first : (stepWithin plainEnvironment 1 0 withTwoLines ⟨"_m".toList, ⟨['t'], 5⟩⟩).map
      (fun after => after.cursors.pieces none) = .ok [.line ['x'], .line []] := by cbv
  have second : (stepWithin plainEnvironment 1 0 withTwoLines ⟨"  _m".toList, ⟨['t'], 5⟩⟩).map
      (fun after => after.cursors.pieces none) = .ok [.line "  x".toList, .line []] := by cbv
  obtain ⟨after, reached, lines⟩ := Outcome.map_eq_ok.mp first
  obtain ⟨after', reached', lines'⟩ := Outcome.map_eq_ok.mp second
  have both : Matches (SameBut (Piece.indent []) (Piece.indent "  ".toList) {})
      (.ok after : Outcome) (.ok after') := reached ▸ reached' ▸ alike
  cases both with
  | ok same => exact ⟨after, after', reached, reached', lines, lines', same⟩

end Run

end LineTemplate
