import LineTemplate.Proofs.Blocks.Definitions
import LineTemplate.Proofs.Lines.Verbatim
import Mathlib

/-!
# Values pass verbatim

A value reaches the output as it was written, whichever way it takes to the variable that is used.
Main statement: `values_verbatim`.
-/

namespace LineTemplate

open Unicode

namespace Run

section

variable {env : Environment} {run : Run} {x v m : Text}

/-- Wherever a variable is used in live text, its value is put out between the brackets. -/
def Shows (env : Environment) (run : Run) (x v : Text) : Prop :=
  run.captures.isCapturing = false → run.conditionals.isActive = true → ∀ location,
    run.route env ⟨Template.use x, location⟩ = .ok
      ({ run with cursors := run.cursors.emit (run.margin ++ '[' :: (v ++ [']'])) }, .none)

variable (marks : env.config.indicators = {})

include marks

section

variable (named : Text.isName x = true)

include named

theorem shows_of_lookup (letter : x.head?.any isAlphabetic = true)
    (h : run.scopes.get? run.settings x = some v) : run.Shows env x v := by
  intro uncaptured live location
  have visible : run.visible env x = some v := by
    rw [Run.visible, Scopes.visible, h]
    rfl
  have value : run.substitute env (Template.use x) = .ok ('[' :: (v ++ [']'])) := by
    rw [substitute, marks]
    exact substitute_use named letter visible _
  have meaning : run.classify env (Template.use x) = .ok ⟨Template.use x, .literal⟩ := by
    rw [classify, marks]
    exact Statement.classify_use named
  exact route_literal uncaptured live meaning value location

theorem shows_of_define (letter : x.head?.any isAlphabetic = true) {later : Run}
    (h : later.settings.get? x = (run.settings.define x v).get? x)
    (outer : later.scopes.lookup? x = none) : later.Shows env x v := by
  have defined : (run.settings.define x v).get? x = some v := by
    rw [Settings.get?, Settings.define, Settings.set, Bindings.get?_insert, if_pos rfl]
  refine shows_of_lookup marks named letter ?_
  rw [Scopes.get?, outer, h, defined]
  rfl

theorem route_define (uncaptured : run.captures.isCapturing = false)
    (live : run.conditionals.isActive = true) (v : Text) (location : Location) :
    run.route env ⟨Template.define x v, location⟩ =
      .ok ({ run with settings := run.settings.define x v }, .none) := by
  have meaning : run.classify env (Template.define x v) =
      .ok ⟨Template.define x v, .directive .define (some x) (some v.quote)⟩ := by
    rw [classify, marks]
    exact Statement.classify_directive (by cbv) (by cbv) rfl named v.tight_quote
  have directs : Reading.Directs env ⟨run, ⟨Template.define x v, location⟩, 0⟩ .define x
      (some v.quote) := ⟨uncaptured, live, meaning⟩
  have defined : run.define x v.quote = .ok { run with settings := run.settings.define x v } := by
    have joined : Text.join [' '] [v] = v := by simp [Text.join]
    rw [define, Arguments.tokenize_quote]
    dsimp only
    rw [joined]
  rw [directs.route]
  change (run.located location (run.define x v.quote)).map (·, Task.none) = _
  rw [defined]
  rfl

end

section

variable (named : Text.isName m = true)

include named

theorem route_openMacro {formals : Text} {parameters : List Parameter}
    (uncaptured : run.captures.isCapturing = false) (live : run.conditionals.isActive = true)
    (tight : formals.Tight) (h : Parameter.listOfText formals = .ok parameters)
    (location : Location) :
    run.route env ⟨Template.openMacro m formals, location⟩ =
      .ok (run.startCapture (.macroBody m parameters) true location, .none) := by
  have meaning : run.classify env (Template.openMacro m formals) =
      .ok ⟨Template.openMacro m formals, .directive .defineMacro (some m) (some formals)⟩ := by
    rw [classify, marks]
    exact Statement.classify_directive (by cbv) (by cbv) rfl named tight
  have directs : Reading.Directs env ⟨run, ⟨Template.openMacro m formals, location⟩, 0⟩
      .defineMacro m (some formals) := ⟨uncaptured, live, meaning⟩
  have opened : run.openMacro m formals true location =
      .ok (run.startCapture (.macroBody m parameters) true location) := by
    rw [openMacro, if_neg (by simp [named]), if_pos rfl, h]
  rw [directs.route]
  change (run.located location (run.openMacro m formals true location)).map (·, Task.none) = _
  rw [opened]
  rfl

theorem route_call {d : MacroDefinition} {argument : Option Text}
    (uncaptured : run.captures.isCapturing = false) (live : run.conditionals.isActive = true)
    (formal : Text.isName x = true) (free : Directive.ofWord? m = none)
    (found : run.macros.get? m = some d) (obtains : d.Obtains x v argument)
    (shallow : run.depth < env.config.maxDepth) (location : Location) :
    ∃ layer, layer.get? x = some v ∧
      run.route env ⟨Template.call m argument, location⟩ = .ok ({ run with depth := run.depth + 1 },
        .call { body := d.body, layer, margin := run.margin, origin := location }) := by
  have known : run.macros.contains m = true := by rw [Bindings.contains, found]; rfl
  have meaning : run.classify env (Template.call m argument) =
      .ok ⟨Template.call m argument, .directive .call (some m) argument⟩ := by
    rw [classify, marks]
    exact Statement.classify_call named free known (obtains.tight formal)
  have directs : Reading.Directs env ⟨run, ⟨Template.call m argument, location⟩, 0⟩ .call m
      argument := ⟨uncaptured, live, meaning⟩
  obtain ⟨args, read, bound⟩ := obtains_bind marks formal obtains run
  have unindented : (⟨Template.call m argument, location⟩ : Line).indentation = [] := by
    cases argument <;> rfl
  refine ⟨d.bind args, bound, ?_⟩
  rw [directs.route]
  change run.located location (run.call env m (argument.getD [])
    (⟨Template.call m argument, location⟩ : Line).indentation location) = _
  rw [unindented, call, found]
  dsimp only
  rw [read, descend, if_pos shallow, List.append_nil]
  rfl

end

/-! ## Inside of a call -/

section

variable (named : Text.isName x = true) (letter : x.head?.any isAlphabetic = true)

include named letter

/-- The variables of a call are seen by all lines of the macro. -/
theorem shows_of_reads {started now : Run} {r : Replay} {levels room n : Nat}
    (uncaptured : run.captures.captures = []) (bound : r.layer.get? x = some v)
    (hs : run.start (.replay r) = .ok started)
    (reads : Reads (Does (stepWithin env levels room)) (.replay r) started n now) :
    now.Shows env x v := by
  have scopes : now.scopes = r.layer :: run.scopes :=
    (reads.inSource stepWithin_keeps uncaptured hs).scopes
  refine shows_of_lookup marks named letter ?_
  rw [Scopes.get?, scopes, Scopes.lookup?, List.findSome?_cons, bound]
  rfl

/-- A macro with no other lines than the one that uses the variable. -/
theorem visitBelow_use {r : Replay} {location : Location} (levels : Nat)
    (uncaptured : run.captures.isCapturing = false) (live : run.conditionals.isActive = true)
    (body : r.body = [⟨Template.use x, location⟩]) (bound : r.layer.get? x = some v) :
    visitBelow env (levels + 1) run (.replay r) =
      .ok { run with cursors := run.cursors.emit (r.margin ++ '[' :: (v ++ [']'])) } := by
  let started : Run :=
    { run with scopes := r.layer :: run.scopes, margin := r.margin, floors := run.heights }
  let finished : Run :=
    { started with cursors := run.cursors.emit (r.margin ++ '[' :: (v ++ [']'])) }
  have reached : Reads (Does (stepWithin env levels r.body.length)) (.replay r) started 0 started :=
    .start
  have idle := run.captures.isCapturing_eq_false_iff.mp uncaptured
  have shows : started.Shows env x v := shows_of_reads marks named letter idle bound rfl reached
  have read : started.read (stepWithin env levels r.body.length) (r.body.length + 1) (.replay r) =
      .ok finished := by
    rw [read, body, List.foldlM_cons, stepWithin, process, shows uncaptured live location]
    rfl
  have closed : finished.openBlock? = none :=
    openBlock?_eq_none.mpr ⟨Nat.le_refl _, Nat.le_refl _⟩
  have selected : finished.cursors.truncate finished.floors.selections = finished.cursors := by
    have depth : finished.floors.selections = finished.cursors.selected.length := by
      rw [CursorDirectory.selected_emit]
      rfl
    rw [CursorDirectory.truncate, depth, Nat.sub_self, List.drop_zero]
  have finish : run.finish finished (.replay r) = .ok { run with cursors := finished.cursors } := by
    rw [finish, leave, closed]
    dsimp only
    rw [selected]
    rfl
  change (started.read (stepWithin env levels r.body.length) (r.body.length + 1) (.replay r) >>=
    fun finished => run.finish finished (.replay r)) = _
  rw [read, Outcome.ok_bind, finish]

end

end

theorem stepWithin_of_route {env : Environment} {run run' : Run} {line : Line} {levels room : Nat}
    (h : run.route env line = .ok (run', .none)) :
    stepWithin env levels room run line = .ok run' := by
  rw [stepWithin, process, h]
  rfl

/-- A call of a macro with no other lines than the one that uses the variable. -/
theorem stepWithin_call_use {env : Environment} {run : Run} {x v m : Text} {d : MacroDefinition}
    {argument : Option Text} {levels room : Nat} {used : Location}
    (marks : env.config.indicators = {}) (named : Text.isName x = true)
    (letter : x.head?.any isAlphabetic = true) (callable : Text.isName m = true)
    (free : Directive.ofWord? m = none) (uncaptured : run.captures.isCapturing = false)
    (live : run.conditionals.isActive = true) (found : run.macros.get? m = some d)
    (body : d.body = [⟨Template.use x, used⟩]) (obtains : d.Obtains x v argument)
    (shallow : run.depth < env.config.maxDepth) (location : Location) :
    stepWithin env (levels + 1) room run ⟨Template.call m argument, location⟩ =
      .ok { run with cursors := run.cursors.emit (run.margin ++ '[' :: (v ++ [']'])) } := by
  obtain ⟨layer, bound, routed⟩ := route_call marks callable uncaptured live named free found
    obtains shallow location
  let deeper : Run := { run with depth := run.depth + 1 }
  let r : Replay := { body := d.body, layer, margin := run.margin, origin := location }
  have visited : visitBelow env (levels + 1) deeper (.replay r) =
      .ok { deeper with cursors := run.cursors.emit (run.margin ++ '[' :: (v ++ [']'])) } :=
    visitBelow_use marks named letter levels uncaptured live body bound
  rw [stepWithin, process, routed]
  change (visitBelow env (levels + 1) deeper (.replay r)).map _ = _
  rw [visited]
  rfl

end Run

/-! ## Whole templates -/

/-- A text is made of its lines, if nothing in them can be taken for the end of a line. -/
theorem Text.lines_flatMap {lines : List Text} (h : ∀ line ∈ lines, line.Alone) :
    Text.lines (lines.flatMap (· ++ ['\n'])) = lines := by
  induction lines with
  | nil => rfl
  | cons line rest ih =>
    have alone : line.Alone := h line List.mem_cons_self
    have last : line.getLast? ≠ some '\r' := by
      intro carriage
      have visible := alone.tight.last '\r' carriage
      cases visible
    rw [List.flatMap_cons, List.append_assoc, List.singleton_append,
      lines_append_feed alone.feed last,
      ih fun l mem => h l (List.mem_cons_of_mem line mem)]

/-- The ways on which a value can get to the line that uses it. -/
inductive Channel where
  | definition
  | positional
  | named
  | default
  deriving DecidableEq

/-- A macro whose only line uses the variable `x`, and a call of it. -/
def Template.viaMacro (m x formals : Text) (argument : Option Text) : List Text :=
  [openMacro m formals, use x, closeMacro, call m argument]

/-- The lines of a template that gives the variable `x` the value `v` and uses it, on one of the
ways. -/
def Channel.template (m x v : Text) : Channel → List Text
  | definition => [Template.define x v, Template.use x]
  | positional => Template.viaMacro m x x (some (Text.escape ['_'] v).quote)
  | named => Template.viaMacro m x x (some (x ++ '=' :: (Text.escape ['_'] v).quote))
  | default => Template.viaMacro m x (x ++ '=' :: v.quote) none

namespace Engine

variable {engine : Engine} {name text x v m : Text}

/-- A template is rendered if its lines lead to a state in which nothing is open. -/
theorem renderText_of_readFile {lines : List Text} {final : Run} (h : text.lines = lines)
    (read : ∀ room, Run.readFile (Run.stepWithin engine.env engine.env.config.maxDepth room)
      ⟨name, 0⟩ (lines.length + 1)
      { settings := engine.settings, files := ⟨[⟨name, lines.map .ok, 0⟩]⟩ } = .ok final)
    (closed : final.openBlock? = none) : engine.renderText name text =
      .ok { document := (final.cursors.truncate final.floors.selections).render
            evaluations := final.evaluations } := by
  let source : Source := lines.map .ok
  let file : Visit := .file { key := name, source, margin := [], origin := ⟨name, 0⟩ }
  let begun : Run := { settings := engine.settings, files := ⟨[⟨name, source, 0⟩]⟩ }
  have size : source.length = lines.length := List.length_map ..
  have done := read source.length
  rw [← size] at done
  have visited : Run.visitBelow engine.env (engine.env.config.maxDepth + 1)
      { settings := engine.settings } file =
        Run.finish { settings := engine.settings } final file := by
    change (Run.readFile (Run.stepWithin engine.env engine.env.config.maxDepth source.length)
      ⟨name, 0⟩ (source.length + 1) begun >>=
        fun finished => Run.finish { settings := engine.settings } finished file) = _
    rw [done, Outcome.ok_bind]
  rw [renderText, Source.ofText, h, renderSource, visited, Run.finish, Run.leave, closed]
  rfl

theorem render_line (line : Text) :
    ((({} : CursorDirectory).emit line).truncate 0).render = { lines := [line], cursors := [] } :=
  CursorDirectory.render_emitted [line]

section

variable (marks : engine.env.config.indicators = {}) (named : Text.isName x = true)
  (letter : x.head?.any isAlphabetic = true)

include marks named letter

theorem renderText_definition (h : text.lines = Channel.definition.template m x v) :
    engine.renderText name text =
      .ok { document := { lines := ['[' :: (v ++ [']'])], cursors := [] }, evaluations := [] } := by
  let defined (files : FileStack) : Run :=
    { settings := engine.settings.define x v, files }
  let final : Run :=
    { defined ⟨[⟨name, [], 2⟩]⟩ with cursors := CursorDirectory.emit {} ('[' :: (v ++ [']'])) }
  let begun : Run := { settings := engine.settings }
  have shows : ∀ files, (defined files).Shows engine.env x v := fun files =>
    begun.shows_of_define marks named letter rfl rfl
  have read : ∀ room, Run.readFile
      (Run.stepWithin engine.env engine.env.config.maxDepth room) ⟨name, 0⟩ 3
      { settings := engine.settings
        files := ⟨[⟨name, [.ok (Template.define x v), .ok (Template.use x)], 0⟩]⟩ } =
        .ok final := by
    intro room
    rw [Run.readFile_cons rfl (Run.stepWithin_of_route
        (Run.route_define marks named rfl rfl v ⟨name, 1⟩)),
      Run.readFile_cons rfl (Run.stepWithin_of_route (shows _ rfl rfl ⟨name, 2⟩)),
      Run.readFile_nil rfl]
    rfl
  rw [renderText_of_readFile h read rfl]
  exact congrArg (fun document => Except.ok (Rendering.mk document [])) (render_line _)

theorem renderText_viaMacro {formals : Text} {argument : Option Text}
    {parameters : List Parameter} (callable : Text.isName m = true)
    (free : Directive.ofWord? m = none) (deep : 0 < engine.env.config.maxDepth)
    (tight : formals.Tight) (declared : Parameter.listOfText formals = .ok parameters)
    (obtains : ∀ body definedAt,
      MacroDefinition.Obtains ⟨m, parameters, body, definedAt⟩ x v argument)
    (h : text.lines = Template.viaMacro m x formals argument) :
    engine.renderText name text =
      .ok { document := { lines := ['[' :: (v ++ [']'])], cursors := [] }, evaluations := [] } := by
  let d : MacroDefinition :=
    ⟨m, parameters, [⟨Template.use x, ⟨name, 2⟩⟩], ⟨name, 1⟩⟩
  let body (lines : List Line) : Capture := ⟨.macroBody m parameters, true, ⟨name, 1⟩, lines, 0⟩
  let capturing (lines : List Line) (files : FileStack) : Run :=
    { settings := engine.settings, files, captures := ⟨[body lines]⟩ }
  let defined (files : FileStack) : Run :=
    { settings := engine.settings, files, macros := Bindings.empty.insert m d }
  let final : Run :=
    { defined ⟨[⟨name, [], 4⟩]⟩ with cursors := CursorDirectory.emit {} ('[' :: (v ++ [']'])) }
  have held : ∀ lines files, (capturing lines files).captures.captures = [body lines] :=
    fun _ _ => rfl
  have inside : Nesting.skip .macroBody 0 (engine.env.config.indicators.role (Template.use x)) =
      some (.macroBody, 0) := by
    rw [marks, Indicators.role, Statement.classify_use named]
    rfl
  have ends : ∀ lines, (body lines).endsAt (engine.env.config.indicators.role Template.closeMacro) =
      true := by
    have closes : ({} : Indicators).role Template.closeMacro = some (.macroBody, .closes) := by cbv
    intro lines
    rw [marks, closes]
    rfl
  have found : ∀ files, (defined files).macros.get? m = some d := fun files => by
    rw [Bindings.get?_insert, if_pos rfl]
  obtain ⟨levels, maxDepth⟩ := Nat.exists_eq_add_one_of_ne_zero (Nat.ne_of_gt deep)
  have opened : ∀ room files, Run.stepWithin engine.env engine.env.config.maxDepth room
      { settings := engine.settings, files } ⟨Template.openMacro m formals, ⟨name, 1⟩⟩ =
        .ok (capturing [] files) := fun room files =>
    Run.stepWithin_of_route (Run.route_openMacro marks callable rfl rfl tight declared ⟨name, 1⟩)
  have captured : ∀ room files, Run.stepWithin engine.env engine.env.config.maxDepth room
      (capturing [] files) ⟨Template.use x, ⟨name, 2⟩⟩ =
        .ok (capturing [⟨Template.use x, ⟨name, 2⟩⟩] files) := fun room files =>
    Run.process_inside (held _ _) inside
  have completed : ∀ room files, Run.stepWithin engine.env engine.env.config.maxDepth room
      (capturing [⟨Template.use x, ⟨name, 2⟩⟩] files) ⟨Template.closeMacro, ⟨name, 3⟩⟩ =
        .ok (defined files) := fun room files =>
    Run.process_ends (held _ _) (ends _)
  have called : ∀ room files, Run.stepWithin engine.env engine.env.config.maxDepth room
      (defined files) ⟨Template.call m argument, ⟨name, 4⟩⟩ =
        .ok { defined files with
          cursors := CursorDirectory.emit {} ('[' :: (v ++ [']'])) } := fun room files => by
    rw [maxDepth]
    exact Run.stepWithin_call_use marks named letter callable free rfl rfl (found files) rfl
      (obtains _ _) deep ⟨name, 4⟩
  have read : ∀ room, Run.readFile
      (Run.stepWithin engine.env engine.env.config.maxDepth room) ⟨name, 0⟩ 5
      { settings := engine.settings
        files := ⟨[⟨name, (Template.viaMacro m x formals argument).map .ok, 0⟩]⟩ } =
        .ok final := by
    intro room
    rw [Run.readFile_cons rfl (opened room _), Run.readFile_cons rfl (captured room _),
      Run.readFile_cons rfl (completed room _), Run.readFile_cons rfl (called room _),
      Run.readFile_nil rfl]
    rfl
  rw [renderText_of_readFile h read rfl]
  exact congrArg (fun document => Except.ok (Rendering.mk document [])) (render_line _)

end

end Engine

section

variable {m x v : Text} (named : Text.isName x = true) (callable : Text.isName m = true)
  (feed : '\n' ∉ v)

include named callable feed

theorem Channel.alone_template (channel : Channel) :
    ∀ line ∈ channel.template m x v, line.Alone := by
  have escaped : '\n' ∉ Text.escape ['_'] v := by
    intro mem
    rcases Text.mem_escape (List.cons_ne_nil _ _) mem with backslash | inside
    · cases backslash
    · exact feed inside
  have viaMacro : ∀ (formals : Text) (argument : Option Text), formals.Alone →
      (∀ a ∈ argument, a.Alone) → ∀ line ∈ Template.viaMacro m x formals argument, line.Alone := by
    intro formals argument declared given line mem
    simp only [Template.viaMacro, List.mem_cons, List.not_mem_nil, or_false] at mem
    rcases mem with rfl | rfl | rfl | rfl
    · exact Template.alone_openMacro callable declared
    · exact Template.alone_use named
    · exact Template.alone_closeMacro
    · exact Template.alone_call callable given
  have name : x.Alone := .of_isName named
  cases channel with
  | definition =>
    exact List.forall_mem_cons.mpr ⟨Template.alone_define named feed,
      List.forall_mem_singleton.mpr (Template.alone_use named)⟩
  | positional =>
    refine viaMacro _ _ name fun a mem => ?_
    cases mem
    exact Text.alone_quote escaped
  | named =>
    refine viaMacro _ _ name fun a mem => ?_
    cases mem
    exact name.append (Text.alone_quote escaped) (by decide)
  | default => exact viaMacro _ _ (name.append (Text.alone_quote feed) (by decide)) nofun

end

/-- What becomes of a value in the lines of a run that give it to the variable `x`. -/
structure Run.Verbatim (env : Environment) (run : Run) (m x v : Text) : Prop where
  define : ∀ location, run.route env ⟨Template.define x v, location⟩ =
    .ok ({ run with settings := run.settings.define x v }, .none)
  /-- The value is put out as long as no other definition and no layer hides it. -/
  defined : ∀ later : Run, later.settings.get? x = (run.settings.define x v).get? x →
    later.scopes.lookup? x = none → later.Shows env x v
  openMacro : ∀ location, run.route env ⟨Template.openMacro m (x ++ '=' :: v.quote), location⟩ =
    .ok (run.startCapture (.macroBody m [{ name := x, default? := some v }]) true location, .none)
  /-- A call replays the lines of the macro, whatever they are. Whenever one of them uses the
  variable, the value is put out. -/
  call : ∀ d argument location, run.macros.get? m = some d → d.Obtains x v argument →
    run.depth < env.config.maxDepth →
    ∃ layer, let r : Replay := ⟨d.body, layer, run.margin, location⟩
      run.route env ⟨Template.call m argument, location⟩ =
          .ok ({ run with depth := run.depth + 1 }, .call r) ∧
        ∀ levels room started n now,
          ({ run with depth := run.depth + 1 } : Run).start (.replay r) = .ok started →
          Run.Reads (Run.Does (Run.stepWithin env levels room)) (.replay r) started n now →
          now.Shows env x v

namespace Engine

/-- Values pass verbatim, whatever characters are in them: through a definition, as the argument of
a macro by its position or its name, and as the default of a parameter. They are not split at
blanks, quotes or equals signs, and references in them are not replaced. This holds of the templates
that do nothing else, and of the lines of every run that is in live text and captures nothing. -/
theorem values_verbatim (engine : Engine) (marks : engine.env.config.indicators = {}) {m x : Text}
    (named : Text.isName x = true) (letter : x.head?.any isAlphabetic = true)
    (callable : Text.isName m = true) (free : Directive.ofWord? m = none) (v : Text) :
    (∀ (channel : Channel) (name : Text), '\n' ∉ v → 0 < engine.env.config.maxDepth →
      engine.renderText name ((channel.template m x v).flatMap (· ++ ['\n'])) =
        .ok
          { document := { lines := ['[' :: (v ++ [']'])], cursors := [] }
            evaluations := [] }) ∧
      ∀ run : Run, run.captures.isCapturing = false → run.conditionals.isActive = true →
        run.Verbatim engine.env m x v := by
  have tight : (x ++ '=' :: v.quote).Tight := (Text.Tight.of_isName named).append v.tight_quote '='
  have formal : Parameter.listOfText x = .ok [{ name := x }] := by
    rw [Parameter.listOfText, Arguments.items_name named, Outcome.ok_bind]
    simp [Parameter.ofItems, Parameter.ofItem, named]
  have defaulted : Parameter.listOfText (x ++ '=' :: v.quote) =
      .ok [{ name := x, default? := some v }] := by
    rw [Parameter.listOfText, Arguments.items_named named, Outcome.ok_bind]
    rfl
  constructor
  · intro channel name feed deep
    have lines := Text.lines_flatMap (channel.alone_template named callable feed)
    have only : ∀ (p : Parameter) body definedAt,
        (⟨m, [p], body, definedAt⟩ : MacroDefinition).parameters = [] ++ p :: [] := fun _ _ _ => rfl
    cases channel with
    | definition => exact renderText_definition marks named letter lines
    | positional =>
      exact renderText_viaMacro marks named letter callable free deep (.of_isName named) formal
        (fun _ _ => .positional rfl rfl (List.forall_mem_nil _)) lines
    | named =>
      exact renderText_viaMacro marks named letter callable free deep (.of_isName named) formal
        (fun _ _ => .named (only _ _ _) rfl (List.forall_mem_nil _)) lines
    | default =>
      exact renderText_viaMacro marks named letter callable free deep tight defaulted
        (fun _ _ => .default (only _ _ _) rfl (List.forall_mem_nil _) rfl) lines
  · intro run uncaptured live
    refine
      { define := Run.route_define marks named uncaptured live v
        defined := fun later => Run.shows_of_define marks named letter
        openMacro := Run.route_openMacro marks callable uncaptured live tight defaulted
        call := ?_ }
    intro d argument location found obtains shallow
    obtain ⟨layer, bound, routed⟩ := Run.route_call marks callable uncaptured live named free found
      obtains shallow location
    have idle : ({ run with depth := run.depth + 1 } : Run).captures.captures = [] :=
      run.captures.isCapturing_eq_false_iff.mp uncaptured
    exact ⟨layer, routed, fun levels room started n now hs reads =>
      Run.shows_of_reads marks named letter idle bound hs reads⟩

def plainEngine : Engine where
  env :=
    { config := {}, tables := fun _ => none, loader := Loader.ofMemory ⟨[]⟩
      evaluator := evaluateCondition }

/-- Quotes, backslashes, an equals sign, a reference, and blanks at both ends. -/
def awkward : Text :=
  [' ', '"', 'a', '"', ' ', '=', ' ', '\\', '_', 'x', ' ']

theorem values_verbatim_awkward :
    Text.isName ['x'] = true ∧ Text.isName ['m'] = true ∧ Directive.ofWord? ['m'] = none ∧
      plainEngine.renderText ['t']
          "_#MACRO m x\n[_x]\n_#END_MACRO\n_m \" \\\"a\\\" = \\\\\\\\_x \"\n".toList =
        .ok
          { document := { lines := ["[ \"a\" = \\_x ]".toList], cursors := [] }
            evaluations := [] } ∧
      plainEngine.renderText ['t']
          "_#MACRO m x=\" \\\"a\\\" = \\\\_x \"\n[_x]\n_#END_MACRO\n_m\n".toList =
        .ok
          { document := { lines := ["[ \"a\" = \\_x ]".toList], cursors := [] }
            evaluations := [] } ∧
      ({ settings := {} } : Run).Verbatim plainEngine.env ['m'] ['x'] awkward := by
  have named : Text.isName ['x'] = true := rfl
  have callable : Text.isName ['m'] = true := rfl
  have free : Directive.ofWord? ['m'] = none := by cbv
  have feed : '\n' ∉ awkward := by decide
  have passes := values_verbatim plainEngine rfl named rfl callable free awkward
  have positional :
      "_#MACRO m x\n[_x]\n_#END_MACRO\n_m \" \\\"a\\\" = \\\\\\\\_x \"\n".toList =
        (Channel.positional.template ['m'] ['x'] awkward).flatMap (· ++ ['\n']) := by cbv
  have default :
      "_#MACRO m x=\" \\\"a\\\" = \\\\_x \"\n[_x]\n_#END_MACRO\n_m\n".toList =
        (Channel.default.template ['m'] ['x'] awkward).flatMap (· ++ ['\n']) := by cbv
  refine ⟨named, callable, free, ?_, ?_, passes.2 { settings := {} } rfl rfl⟩
  · rw [positional]
    exact passes.1 .positional ['t'] feed (by decide)
  · rw [default]
    exact passes.1 .default ['t'] feed (by decide)

end Engine

end LineTemplate
