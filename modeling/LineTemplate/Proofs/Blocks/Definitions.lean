import LineTemplate.Proofs.Blocks.MacroBlocks

/-!
# Macro definitions

What the lines that were read say about the macro table. A macro is known if a block that defines it
has been completed, and the last such block is its definition. It plays no part which source the
block was in: the template, a file, the body of another macro or a loop.

A call replays the body that is the definition when it begins, and goes on with it if the macro is
defined anew meanwhile. Main statement: `latest_definition_replayed`.
-/

namespace LineTemplate

open Run

def Line.indentation (line : Line) : Text :=
  line.text.takeWhile Unicode.isBlank

/-! ## Lines that open and call macros -/

section

variable {env : Environment} {reading : Reading} {run routed : Run} {line : Line} {task : Task}
  {kind : Directive} {name : Text} {rest : Option Text}

theorem Reading.Directs.route (h : reading.Directs env kind name rest) :
    reading.run.route env reading.line =
      reading.run.direct env kind name (rest.getD []) reading.line.indentation true
        reading.line.location := by
  have uncaptured : ¬ reading.run.captures.isCapturing = true := by simp [h.uncaptured]
  rw [Run.route, if_neg uncaptured, h.meaning]
  dsimp only [execute]
  rw [h.live]
  rfl

theorem Reading.Directs.starts (h : reading.Directs env .defineMacro name rest)
    (hr : reading.run.route env reading.line = .ok (routed, task)) :
    ∃ parameters, Parameter.listOfText (rest.getD []) = .ok parameters ∧
      routed.captures.captures = [.ofBlock name parameters reading [] 0] := by
  rw [h.route] at hr
  obtain ⟨next, hn, he⟩ := Outcome.map_eq_ok.mp hr
  cases he
  replace hn := located_eq_ok.mp hn
  unfold openMacro at hn
  split at hn
  · cases hn
  · split at hn
    · cases hn
    · rename_i parameters parsed
      cases hn
      have idle := reading.run.captures.isCapturing_eq_false_iff.mp h.uncaptured
      exact ⟨parameters, parsed, congrArg (List.cons _) idle⟩

theorem directs_of_role (uncaptured : run.captures.captures = [])
    (live : run.conditionals.isActive = true)
    (opens : env.config.indicators.role line.text = some (.macroBody, .opens)) (level : Nat) :
    ∃ name formals, Reading.Directs env ⟨run, line, level⟩ .defineMacro name formals := by
  have role := Statement.classify_role env.config.indicators run.macros.contains line.text
  rw [opens] at role
  cases meaning : Statement.classify env.config.indicators run.macros.contains line.text with
  | error e =>
    rw [meaning] at role
    cases role
  | ok statement =>
    rw [meaning] at role
    have same := Statement.classify_raw meaning
    obtain ⟨raw, content⟩ := statement
    cases same
    cases content with
    | literal => cases role
    | cursor op name rest => cases op <;> cases role
    | directive kind object formals =>
      cases kind <;> cases role
      obtain ⟨name, rfl⟩ := Statement.classify_object meaning rfl
      exact ⟨name, formals, run.captures.isCapturing_eq_false_iff.mpr uncaptured, live, meaning⟩

/-- Only a directive that is acted on starts a call or an include. -/
theorem directs_of_levels (hr : run.route env line = .ok (routed, task)) (deeper : task.levels ≠ 0)
    (level : Nat) : ∃ kind name rest, (kind = .call ∨ kind = .includeFile) ∧
      Reading.Directs env ⟨run, line, level⟩ kind name rest := by
  have uncaptured : run.captures.isCapturing = false := by
    cases effect_of_route hr with
    | captured => exact absurd rfl deeper
    | completed _ _ completes => exact absurd (complete_task completes).1 deeper
    | executed idle => exact run.captures.isCapturing_eq_false_iff.mpr idle
  have idle {outcome : Outcome} (h : outcome.map (·, Task.none) = .ok (routed, task)) : False := by
    obtain ⟨next, -, he⟩ := Outcome.map_eq_ok.mp h
    cases he
    exact deeper rfl
  rw [Run.route, if_neg (by simp [uncaptured])] at hr
  split at hr
  · cases hr
  · rename_i statement meaning
    have same := Statement.classify_raw meaning
    obtain ⟨raw, content⟩ := statement
    cases same
    cases content with
    | literal =>
      dsimp only [execute] at hr
      split at hr
      · exact (idle hr).elim
      · cases hr
        exact absurd rfl deeper
    | cursor op name rest => exact (idle hr).elim
    | directive kind object rest =>
      dsimp only [execute] at hr
      cases kind with
      | call | includeFile =>
        obtain ⟨name, rfl⟩ := Statement.classify_object meaning rfl
        cases live : run.conditionals.isActive with
        | true => exact ⟨_, name, rest, by simp, uncaptured, live, meaning⟩
        | false =>
          rw [live] at hr
          cases hr
          exact absurd rfl deeper
      | endLoop | endMacro => cases hr
      | _ => exact (idle hr).elim

/-- Only a directive that is acted on starts a call. -/
theorem directs_of_call {r : Replay} (hr : run.route env line = .ok (routed, .call r))
    (level : Nat) : ∃ name rest, Reading.Directs env ⟨run, line, level⟩ .call name rest := by
  obtain ⟨kind, name, rest, rfl | rfl, directs⟩ := directs_of_levels hr Nat.one_ne_zero level
  · exact ⟨name, rest, directs⟩
  · have routes := directs.route.symm.trans hr
    obtain ⟨_, _, -, -, -, -, he⟩ := includeFile_ok (located_eq_ok.mp routes)
    cases he

theorem Reading.Directs.call_unknown (h : reading.Directs env .call name rest)
    (unknown : reading.run.macros.get? name = none) :
    reading.run.route env reading.line =
      .error (.fault ⟨.undefinedMacro name, reading.line.location⟩ reading.run.evaluations) := by
  rw [h.route]
  dsimp only [direct]
  rw [if_pos rfl, call, unknown]
  rfl

/-- A call that succeeds in its own line replays the body that the table has for the macro. -/
theorem Reading.Directs.call_known (h : reading.Directs env .call name rest)
    (hr : reading.run.route env reading.line = .ok (routed, task)) :
    ∃ d args, reading.run.macros.get? name = some d ∧
      reading.run.readArguments env (rest.getD []) = .ok args ∧
      task = .call
        { body := d.body, layer := d.bind args, origin := reading.line.location
          margin := reading.run.margin ++ reading.line.indentation } := by
  rw [h.route] at hr
  dsimp only [direct] at hr
  rw [if_pos rfl] at hr
  replace hr := located_eq_ok.mp hr
  unfold call at hr
  split at hr
  · cases hr
  · rename_i d found
    obtain ⟨args, read, hr⟩ := Outcome.bind_eq_ok.mp hr
    obtain ⟨deeper, -, hr⟩ := Outcome.bind_eq_ok.mp hr
    cases hr
    exact ⟨d, args, found, read, rfl⟩

end

/-! ## The captured body and the history -/

/-- A macro body is captured in live text if and only if the history ends in an open block, and what
is captured of it is what was read of the block. -/
structure BodyCaptured (env : Environment) (history : List Reading) (run : Run) : Prop where
  single : run.captures.captures.length ≤ 1
  ofOpen : ∀ {first body name formals inner},
    OpenBlock env history first body name formals inner →
      ∃ parameters, Parameter.listOfText (formals.getD []) = .ok parameters ∧
        run.captures.captures = [.ofBlock name parameters first body inner]
  isOpen : ∀ {c rest name parameters}, run.captures.captures = c :: rest → c.active = true →
    c.head = .macroBody name parameters →
      ∃ first body formals inner, OpenBlock env history first body name formals inner ∧
        Parameter.listOfText (formals.getD []) = .ok parameters ∧
        c = .ofBlock name parameters first body inner

namespace BodyCaptured

variable {env : Environment} {history body : List Reading} {run taken routed : Run} {line : Line}
  {task : Task} {level inner : Nat} {c : Capture} {rest : List Capture} {first : Reading}
  {name : Text} {formals : Option Text}

theorem of_eq (h : BodyCaptured env history run) (same : routed.captures = run.captures) :
    BodyCaptured env history routed where
  single := same ▸ h.single
  ofOpen := same ▸ h.ofOpen
  isOpen := same ▸ h.isOpen

theorem not_open (h : BodyCaptured env history run) (idle : run.captures.captures = []) :
    ¬ OpenBlock env history first body name formals inner := by
  intro isOpen
  obtain ⟨parameters, -, capturing⟩ := h.ofOpen isOpen
  rw [idle] at capturing
  cases capturing

theorem alone (h : BodyCaptured env history run) (capturing : run.captures.captures = c :: rest) :
    rest = [] := by
  have single := h.single
  rw [capturing] at single
  simpa using single

theorem captured_of_open (h : BodyCaptured env history run)
    (capturing : run.captures.captures = c :: rest)
    (isOpen : OpenBlock env history first body name formals inner) :
    ∃ parameters, Parameter.listOfText (formals.getD []) = .ok parameters ∧
      c = .ofBlock name parameters first body inner := by
  obtain ⟨parameters, parsed, captured⟩ := h.ofOpen isOpen
  exact ⟨parameters, parsed, (List.cons.inj (capturing.symm.trans captured)).1⟩

theorem not_directs {kind : Directive} (capturing : run.captures.captures = c :: rest) :
    ¬ Reading.Directs env ⟨run, line, level⟩ kind name formals := by
  intro directs
  have idle := run.captures.isCapturing_eq_false_iff.mp directs.uncaptured
  rw [capturing] at idle
  cases idle

theorem inside (h : BodyCaptured env history taken)
    (capturing : taken.captures.captures = c :: rest)
    (inside : c.endsAt (env.config.indicators.role line.text) = false) :
    BodyCaptured env (history ++ [⟨taken, line, level⟩])
      { taken with captures := ⟨c.grow line (env.config.indicators.role line.text) :: rest⟩ } := by
  obtain rfl := h.alone capturing
  constructor
  case single => exact Nat.le_refl 1
  case ofOpen =>
    intro first body name formals inner isOpen
    rcases openBlock_concat_iff.mp isOpen with ⟨-, -, -, opens⟩ | ⟨body, inner', rfl, before, skips⟩
    · exact absurd opens (not_directs capturing)
    · obtain ⟨parameters, parsed, rfl⟩ := h.captured_of_open capturing before
      have grown := Capture.grow_of_skip
        (c := .ofBlock name parameters first body inner') skips line
      refine ⟨parameters, parsed, congrArg (· :: []) (grown.trans ?_)⟩
      simp [Capture.ofBlock]
  case isOpen =>
    intro c' rest' name parameters captured active head
    obtain ⟨rfl, -⟩ := List.cons.inj captured
    obtain ⟨first, body, formals, inner, before, parsed, rfl⟩ := h.isOpen capturing active head
    have skips : some ((Capture.ofBlock name parameters first body inner).grow line
        (env.config.indicators.role line.text)).outline = _ := Capture.outline_grow inside
    refine ⟨first, body ++ [⟨taken, line, level⟩], formals, _,
      openBlock_concat_iff.mpr (.inr ⟨body, inner, rfl, before, skips.symm⟩), parsed, ?_⟩
    rw [Capture.grow_of_skip skips.symm]
    simp [Capture.ofBlock]

theorem ends (h : BodyCaptured env history taken)
    (capturing : taken.captures.captures = c :: rest)
    (ends : c.endsAt (env.config.indicators.role line.text) = true)
    (idle : routed.captures.captures = rest) :
    BodyCaptured env (history ++ [⟨taken, line, level⟩]) routed := by
  obtain rfl := h.alone capturing
  constructor
  case single => simp [idle]
  case ofOpen =>
    intro first body name formals inner isOpen
    rcases openBlock_concat_iff.mp isOpen with ⟨-, -, -, opens⟩ | ⟨body, inner', rfl, before, skips⟩
    · exact absurd opens (not_directs capturing)
    · obtain ⟨parameters, -, rfl⟩ := h.captured_of_open capturing before
      cases skips.symm.trans (Capture.skip_of_endsAt ends)
  case isOpen =>
    intro c' rest' name parameters captured
    rw [idle] at captured
    cases captured

theorem executed (h : BodyCaptured env history taken) (idle : taken.captures.captures = [])
    (action : Action env taken line.location (env.config.indicators.role line.text) routed task)
    (hr : taken.route env line = .ok (routed, task)) :
    BodyCaptured env (history ++ [⟨taken, line, level⟩]) routed := by
  have ofOpen {first : Reading} {body : List Reading} {name : Text} {formals : Option Text}
      {inner : Nat}
      (isOpen : OpenBlock env (history ++ [⟨taken, line, level⟩]) first body name formals inner) :
      ∃ parameters, Parameter.listOfText (formals.getD []) = .ok parameters ∧
        routed.captures.captures = [.ofBlock name parameters first body inner] := by
    rcases openBlock_concat_iff.mp isOpen with ⟨rfl, rfl, rfl, opens⟩ | ⟨body, inner', rfl, before, -⟩
    · exact opens.starts hr
    · exact absurd before (h.not_open idle)
  generalize roleEq : env.config.indicators.role line.text = role at action
  cases action with
  | captureStarted head =>
    refine ⟨by simp [startCapture, CaptureStack.push, idle], ofOpen, ?_⟩
    intro c rest name parameters captured active named
    obtain ⟨rfl, -⟩ := List.cons.inj captured
    cases named
    -- The block was opened in live text, so the line is one that opens a macro.
    obtain ⟨name', formals, opens⟩ := directs_of_role idle active roleEq level
    obtain ⟨parameters', parsed, same⟩ := opens.starts hr
    obtain ⟨shape, -⟩ := List.cons.inj (captured.symm.trans same)
    cases congrArg Capture.head shape
    exact ⟨_, [], formals, 0, openBlock_concat_iff.mpr (.inl ⟨rfl, rfl, rfl, opens⟩), parsed, shape⟩
  | _ =>
    refine ⟨h.single, ofOpen, ?_⟩
    intro c rest name parameters captured
    cases idle.symm.trans captured

theorem read (h : BodyCaptured env history taken)
    (hr : taken.route env line = .ok (routed, task)) :
    BodyCaptured env (history ++ [⟨taken, line, level⟩]) routed := by
  cases effect_of_route hr with
  | captured capturing inside => exact h.inside capturing inside
  | completed capturing ends completes =>
    obtain ⟨-, macros, rfl⟩ := complete_task completes
    exact h.ends capturing ends rfl
  | executed idle action => exact h.executed idle action hr

end BodyCaptured

/-! ## The table and the history -/

namespace MacroBlock

variable {env : Environment} {history : List Reading} {reading : Reading} {b b' : MacroBlock}
  {name name' : Text} {formals formals' : Option Text} {parameters parameters' : List Parameter}
  {d d' : MacroDefinition}

theorem latest_of_completed (completed : b.Completed history [])
    (defines : b.Defines env name formals) : b.Latest env history name formals :=
  ⟨[], completed, defines, fun _ _ _ _ _ => Nat.zero_le _⟩

/-- If a block is completed just now, a block that is the latest one is completed just now. -/
theorem Latest.completed (h : b'.Latest env history name formals')
    (completed : b.Completed history []) (defines : b.Defines env name formals) :
    b'.Completed history [] ∧ b'.Defines env name formals' := by
  obtain ⟨later, completed', defines', last⟩ := h
  have none := last b formals [] completed defines
  obtain rfl := List.eq_nil_of_length_eq_zero (Nat.le_zero.mp none)
  exact ⟨completed', defines'⟩

/-- A line that completes no block of a name leaves the latest one what it was. -/
theorem latest_concat_iff
    (unfinished : ∀ b formals, Completed (history ++ [reading]) b [] → ¬ b.Defines env name formals) :
    b.Latest env (history ++ [reading]) name formals ↔ b.Latest env history name formals := by
  have earlier {b : MacroBlock} {formals : Option Text} {later : List Reading}
      (completed : b.Completed (history ++ [reading]) later) (defines : b.Defines env name formals) :
      ∃ later', later = later' ++ [reading] ∧ b.Completed history later' := by
    rcases completed_concat_iff.mp completed with ⟨rfl, -⟩ | before
    · exact absurd defines (unfinished b formals completed)
    · exact before
  constructor
  · rintro ⟨later, completed, defines, last⟩
    obtain ⟨later, rfl, before⟩ := earlier completed defines
    refine ⟨later, before, defines, fun b' formals' later' completed' defines' => ?_⟩
    have le := last b' formals' _ (completed_concat_iff.mpr (.inr ⟨later', rfl, completed'⟩)) defines'
    simpa using le
  · rintro ⟨later, completed, defines, last⟩
    refine ⟨_, completed_concat_iff.mpr (.inr ⟨later, rfl, completed⟩), defines, ?_⟩
    intro b' formals' later' completed' defines'
    obtain ⟨later', rfl, before'⟩ := earlier completed' defines'
    simpa using last b' formals' later' before' defines'

theorem Yields.eq (h : b.Yields name formals d)
    (parsed : Parameter.listOfText (formals.getD []) = .ok parameters) :
    d = ⟨name, parameters, b.lines, b.first.line.location⟩ := by
  obtain ⟨dname, dparameters, body, definedAt⟩ := d
  obtain ⟨rfl, parsed', rfl, rfl⟩ := h
  cases parsed.symm.trans parsed'
  rfl

/-- Blocks of which the same is captured yield the same definition. -/
theorem Yields.eq_of_capture (h : b.Yields name formals d) (h' : b'.Yields name' formals' d')
    (parsed : Parameter.listOfText (formals.getD []) = .ok parameters)
    (parsed' : Parameter.listOfText (formals'.getD []) = .ok parameters')
    (same : Capture.ofBlock name' parameters' b'.first b'.body 0 =
      .ofBlock name parameters b.first b.body 0) : d' = d := by
  have heads : CaptureHead.macroBody name' parameters' = .macroBody name parameters :=
    congrArg Capture.head same
  have location : b'.first.line.location = b.first.line.location :=
    congrArg Capture.openedAt same
  have lines : b'.lines = b.lines := List.reverse_injective (congrArg Capture.newestFirst same)
  cases heads
  rw [h.eq parsed, h'.eq parsed', lines, location]

end MacroBlock

/-- The definition that a history gives to a name: that of the latest block. -/
def DefinedLast (env : Environment) (history : List Reading) (name : Text) (d : MacroDefinition) :
    Prop :=
  ∃ (b : MacroBlock) (formals : Option Text),
    b.Latest env history name formals ∧ b.Yields name formals d

/-- The macro table of a run is what the history makes it. -/
structure Recorded (env : Environment) (history : List Reading) (run : Run) : Prop where
  bodies : BodyCaptured env history run
  defined : ∀ {b name formals later}, MacroBlock.Completed history b later →
    b.Defines env name formals → run.macros.contains name = true
  table : ∀ name d, run.macros.get? name = some d ↔ DefinedLast env history name d

namespace Recorded

variable {env : Environment} {history : List Reading} {run taken routed : Run} {line : Line}
  {task : Task} {level : Nat} {b : MacroBlock} {name : Text} {formals : Option Text}
  {d : MacroDefinition}

theorem of_eq (h : Recorded env history run) (captures : routed.captures = run.captures)
    (macros : routed.macros = run.macros) : Recorded env history routed where
  bodies := h.bodies.of_eq captures
  defined := macros ▸ h.defined
  table := macros ▸ h.table

theorem initial (settings : Settings) : Recorded env [] { settings } := by
  have empty {b : MacroBlock} {later : List Reading} : ¬ b.Completed [] later := by
    rintro ⟨before, split⟩
    simp [MacroBlock.readings] at split
  refine ⟨⟨Nat.zero_le 1, ?_, ?_⟩, fun completed => absurd completed empty, ?_⟩
  · intro first body name formals inner isOpen
    cases List.suffix_nil.mp isOpen.atEnd
  · intro c rest name parameters captured
    cases captured
  · intro name d
    constructor
    · intro found
      cases found
    · rintro ⟨b, formals, ⟨later, completed, -⟩, -⟩
      exact absurd completed empty

theorem keeps (h : Recorded env history taken) (hr : taken.route env line = .ok (routed, task))
    (macros : routed.macros = taken.macros)
    (unfinished : ∀ b name formals, MacroBlock.Completed (history ++ [⟨taken, line, level⟩]) b [] →
      ¬ b.Defines env name formals) :
    Recorded env (history ++ [⟨taken, line, level⟩]) routed where
  bodies := h.bodies.read hr
  defined := by
    intro b name formals later completed defines
    rcases completed_concat_iff.mp completed with ⟨rfl, -⟩ | ⟨later, -, completed⟩
    · exact absurd defines (unfinished b name formals completed)
    · rw [macros]
      exact h.defined completed defines
  table := by
    intro name d
    rw [macros, h.table name d]
    simp only [DefinedLast, MacroBlock.latest_concat_iff fun b => unfinished b name]

/-- The macro of a block is defined when the block is completed, in place of what it was. -/
theorem defines (h : Recorded env history taken) (hr : taken.route env line = .ok (routed, task))
    (completed : b.Completed (history ++ [⟨taken, line, level⟩]) [])
    (defines : b.Defines env name formals) (yields : b.Yields name formals d)
    (macros : routed.macros = taken.macros.insert name d) :
    Recorded env (history ++ [⟨taken, line, level⟩]) routed := by
  obtain ⟨parameters, parsed, captured⟩ := h.bodies.ofOpen (defines.openBlock completed).1
  -- No other block is completed by the line, because only one is captured.
  have only {b' : MacroBlock} {name' : Text} {formals' : Option Text}
      (completed' : b'.Completed (history ++ [⟨taken, line, level⟩]) [])
      (defines' : b'.Defines env name' formals') :
      name' = name ∧ ∀ d', b'.Yields name' formals' d' → d' = d := by
    obtain ⟨parameters', parsed', same⟩ :=
      h.bodies.captured_of_open captured (defines'.openBlock completed').1
    have heads : CaptureHead.macroBody name' parameters' = .macroBody name parameters :=
      congrArg Capture.head same.symm
    cases heads
    exact ⟨rfl, fun d' yields' => yields.eq_of_capture yields' parsed parsed' same.symm⟩
  refine ⟨h.bodies.read hr, ?_, ?_⟩
  · intro b' name' formals' later completed' defines'
    rw [macros, Bindings.contains, Bindings.get?_insert]
    by_cases same : name' = name
    · rw [if_pos same]
      rfl
    · rw [if_neg same]
      rcases completed_concat_iff.mp completed' with ⟨rfl, -⟩ | ⟨later, -, before⟩
      · exact absurd (only completed' defines').1 same
      · exact h.defined before defines'
  · intro name' d'
    rw [macros, Bindings.get?_insert]
    by_cases same : name' = name
    · subst same
      rw [if_pos rfl]
      constructor
      · rintro ⟨⟩
        exact ⟨b, formals, MacroBlock.latest_of_completed completed defines, yields⟩
      · rintro ⟨b', formals', latest, yields'⟩
        obtain ⟨completed', defines'⟩ := latest.completed completed defines
        rw [(only completed' defines').2 d' yields']
    · rw [if_neg same, h.table name' d']
      have other (b' : MacroBlock) (formals' : Option Text)
          (completed' : b'.Completed (history ++ [⟨taken, line, level⟩]) []) :
          ¬ b'.Defines env name' formals' :=
        fun defines' => same (only completed' defines').1
      simp only [DefinedLast, MacroBlock.latest_concat_iff other]

theorem complete_macros {c : Capture} (h : run.complete c line.location = (routed, task))
    (other : ∀ name parameters, c.active = true → c.head ≠ .macroBody name parameters) :
    routed.macros = run.macros := by
  unfold complete at h
  split at h
  · cases h
    rfl
  · rename_i active
    split at h
    · cases h
      rfl
    · rename_i head
      exact absurd head (other _ _ (by simpa using active))

/-- The line that closes a body completes its block, if it is the body of a macro. -/
theorem ends {c : Capture} {rest : List Capture} (h : Recorded env history taken)
    (hr : taken.route env line = .ok (routed, task)) (capturing : taken.captures.captures = c :: rest)
    (ends : c.endsAt (env.config.indicators.role line.text) = true)
    (completes : { taken with captures := ⟨rest⟩ }.complete c line.location = (routed, task)) :
    Recorded env (history ++ [⟨taken, line, level⟩]) routed := by
  by_cases isMacro : c.active = true ∧ ∃ name parameters, c.head = .macroBody name parameters
  · obtain ⟨active, name, parameters, head⟩ := isMacro
    obtain ⟨first, body, formals, inner, isOpen, parsed, rfl⟩ :=
      h.bodies.isOpen capturing active head
    obtain ⟨closes, depth⟩ : env.config.indicators.role line.text =
          some ((Capture.ofBlock name parameters first body inner).head.kind, .closes) ∧
        (Capture.ofBlock name parameters first body inner).depth = 0 := by
      simpa [Capture.endsAt] using ends
    obtain rfl : inner = 0 := depth
    let b : MacroBlock := ⟨first, body, ⟨taken, line, level⟩⟩
    have completed : b.Completed (history ++ [⟨taken, line, level⟩]) [] :=
      completed_concat_iff.mpr (.inl ⟨rfl, rfl, isOpen.atEnd⟩)
    have blockDefines : b.Defines env name formals := ⟨isOpen.opens, isOpen.within, closes⟩
    have lines : (Capture.ofBlock name parameters first body 0).body = b.lines :=
      List.reverse_reverse _
    cases completes
    exact h.defines hr completed blockDefines ⟨rfl, parsed, lines, rfl⟩ rfl
  · have macros : routed.macros = ({ taken with captures := ⟨rest⟩ } : Run).macros :=
      complete_macros completes fun name parameters active head =>
        isMacro ⟨active, name, parameters, head⟩
    refine h.keeps hr macros fun b name formals completed defines => ?_
    obtain ⟨parameters, -, rfl⟩ :=
      h.bodies.captured_of_open capturing (defines.openBlock completed).1
    exact isMacro ⟨rfl, name, parameters, rfl⟩

/-- A line that is read makes the table what the history with the line makes it. -/
theorem read (h : Recorded env history taken) (hr : taken.route env line = .ok (routed, task)) :
    Recorded env (history ++ [⟨taken, line, level⟩]) routed := by
  cases effect_of_route hr with
  | captured capturing inside =>
    refine h.keeps hr rfl fun b name formals completed defines => ?_
    obtain ⟨isOpen, closes⟩ := defines.openBlock completed
    obtain ⟨parameters, -, rfl⟩ := h.bodies.captured_of_open capturing isOpen
    rw [Reading.role] at closes
    rw [closes] at inside
    cases inside
  | completed capturing ends completes => exact h.ends hr capturing ends completes
  | executed idle action =>
    refine h.keeps hr action.macros fun b name formals completed defines => ?_
    exact h.bodies.not_open idle (defines.openBlock completed).1

theorem step {p q : Progress} (h : Recorded env p.history p.run) (step : Progress.Steps env p q) :
    Recorded env q.history q.run := by
  cases step with
  | ended => exact h
  | started hs =>
    obtain ⟨files, scopes, margin, rfl⟩ := start_ok hs
    exact h.of_eq rfl rfl
  | @read outer run taken routed source n levels jobs history line task next hr =>
    obtain ⟨files, rfl, -⟩ := Visit.files_of_next? next
    have taken : Recorded env history { run with files } := h.of_eq rfl rfl
    exact taken.read hr
  | finished atEnd hf =>
    obtain ⟨-, files, scopes, rfl⟩ := finish_ok hf
    exact h.of_eq rfl rfl

end Recorded

/-! ## Calls -/

namespace Progress

/-- The lines that were read between the next line of one moment and a later moment, by the source
which that line starts. -/
def linesSince (p q : Progress) : List Line :=
  linesAt p.jobs.length (q.history.drop (p.history.length + 1))

/-- The source that the next line starts supplies these lines, all of them before it ends, and no
others. -/
def Supplies (env : Environment) (p : Progress) (lines : List Line) : Prop :=
  ∀ n q, p.after env (n + 1) = .ok q →
    (p.jobs.length < q.jobs.length ∧ p.linesSince q <+: lines) ∨
    ∃ k ≤ n, ∃ ended, p.after env (k + 1) = .ok ended ∧ ended.jobs.length = p.jobs.length ∧
      p.linesSince ended = lines

theorem supplies_of_call {env : Environment} {p : Progress} {reading : Reading} {routed : Run}
    {r : Replay} (upcoming : p.upcoming? = some reading)
    (hr : reading.run.route env reading.line = .ok (routed, .call r)) :
    p.Supplies env r.body := by
  obtain ⟨outer, source, m, levels, jobs, current, hn⟩ := next_of_upcoming env upcoming
  rw [hr, Outcome.map_ok] at hn
  have started (k : Nat) : p.after env (k + 1) =
      after env ⟨.visit (.replay r) 1 :: .read outer source (m + 1) levels :: jobs, routed,
        p.history ++ [reading]⟩ k := by
    rw [after_succ, hn]
    rfl
  have level : (Job.read outer source (m + 1) levels :: jobs).length = p.jobs.length := by
    rw [current]
    rfl
  have since {q : Progress} {log : List Reading} (h : q.history = p.history ++ [reading] ++ log) :
      p.linesSince q = linesAt p.jobs.length log := by
    have past : (p.history ++ [reading]).length = p.history.length + 1 := List.length_append
    rw [linesSince, h, List.drop_left' past]
  intro n q reached
  rw [started] at reached
  rcases replay_whole reached with ⟨deeper, log, history, lines⟩ |
    ⟨k, le, ended, reached, returned, log, history, lines⟩
  · left
    rw [level] at deeper lines
    rw [since history]
    exact ⟨deeper, lines⟩
  · right
    rw [level] at lines
    refine ⟨k, le, ended, (started k).trans reached, ?_, (since history).trans lines⟩
    rw [returned, level]

end Progress

/-- The macro table at a moment of a run, and the calls that are made there, are what the lines that
were read before make them. -/
structure LatestDefinitions (env : Environment) (p : Progress) : Prop where
  /-- A name is that of a macro if and only if a block that defines it has been completed. -/
  defined : ∀ name, p.run.macros.contains name = true ↔
    ∃ (b : MacroBlock) (formals : Option Text) (later : List Reading),
      b.Completed p.history later ∧ b.Defines env name formals
  /-- The macro is then that of the last of these blocks. -/
  table : ∀ name d, p.run.macros.get? name = some d ↔ DefinedLast env p.history name d
  /-- A call without such a block is a fault. -/
  unknown : ∀ reading name arguments, p.upcoming? = some reading →
    reading.Directs env .call name arguments →
    (∀ (b : MacroBlock) formals later, b.Completed p.history later → ¬ b.Defines env name formals) →
    p.next env =
      .error (.fault ⟨.undefinedMacro name, reading.line.location⟩ p.run.evaluations)
  /-- Only a line that names the macro calls it. -/
  named : ∀ reading routed r, p.upcoming? = some reading →
    reading.run.route env reading.line = .ok (routed, .call r) →
    ∃ name arguments, reading.Directs env .call name arguments
  /-- A call replays the body of the last block, to its end, whatever is defined meanwhile. -/
  replays : ∀ reading name arguments routed task, p.upcoming? = some reading →
    reading.Directs env .call name arguments →
    reading.run.route env reading.line = .ok (routed, task) →
    ∃ (b : MacroBlock) (formals : Option Text) (d : MacroDefinition) (args : Arguments),
      b.Latest env p.history name formals ∧ b.Yields name formals d ∧
      reading.run.readArguments env (arguments.getD []) = .ok args ∧
      task = .call
        { body := b.lines, layer := d.bind args, origin := reading.line.location
          margin := reading.run.margin ++ reading.line.indentation } ∧
      p.Supplies env b.lines

section

variable {env : Environment} {p : Progress} {reading : Reading} {name : Text}

theorem macros_of_upcoming (upcoming : p.upcoming? = some reading) :
    reading.run.macros = p.run.macros ∧ reading.run.evaluations = p.run.evaluations := by
  obtain ⟨outer, source, n, levels, jobs, -, -, next⟩ := Progress.eq_of_upcoming upcoming
  obtain ⟨files, taken, -⟩ := Visit.files_of_next? next
  rw [taken]
  exact ⟨rfl, rfl⟩

theorem Recorded.latestDefinitions (h : Recorded env p.history p.run) : LatestDefinitions env p := by
  have known (name : Text) : p.run.macros.contains name = true ↔
      ∃ d, p.run.macros.get? name = some d := Option.isSome_iff_exists
  constructor
  case defined =>
    intro name
    constructor
    · intro contains
      obtain ⟨d, found⟩ := (known name).mp contains
      obtain ⟨b, formals, ⟨later, completed, defines, -⟩, -⟩ := (h.table name d).mp found
      exact ⟨b, formals, later, completed, defines⟩
    · rintro ⟨b, formals, later, completed, defines⟩
      exact h.defined completed defines
  case table => exact h.table
  case unknown =>
    intro reading name arguments upcoming calls undefined
    obtain ⟨outer, source, n, levels, jobs, -, next⟩ := Progress.next_of_upcoming env upcoming
    obtain ⟨macros, evaluations⟩ := macros_of_upcoming upcoming
    have none : reading.run.macros.get? name = none := by
      rw [macros, Option.eq_none_iff_forall_not_mem]
      intro d found
      obtain ⟨b, formals, ⟨later, completed, defines, -⟩, -⟩ := (h.table name d).mp found
      exact undefined b formals later completed defines
    rw [next, calls.call_unknown none, evaluations]
    rfl
  case named =>
    intro reading routed r upcoming hr
    exact directs_of_call hr reading.level
  case replays =>
    intro reading name arguments routed task upcoming calls hr
    obtain ⟨d, args, found, read, rfl⟩ := calls.call_known hr
    obtain ⟨macros, -⟩ := macros_of_upcoming upcoming
    rw [macros] at found
    obtain ⟨b, formals, latest, yields⟩ := (h.table name d).mp found
    have supplies := Progress.supplies_of_call upcoming hr
    rw [yields.body] at supplies
    refine ⟨b, formals, d, args, latest, yields, read, ?_, supplies⟩
    rw [yields.body]

end

namespace Engine

/-- At every moment of a run, and the engine goes through these moments, the table has a macro for
exactly the names of which a block was completed, and the macro is that of the last one. A call
replays the body of that block to its end. -/
theorem latest_definition_replayed (engine : Engine) (key : Text) (source : Source)
    (origin : Location) :
    (∃ n, (∀ p, engine.moment key source origin n = .ok p → p.jobs = []) ∧
      engine.renderSource key source origin =
        (engine.moment key source origin n).map fun p =>
          { document := p.run.cursors.render, evaluations := p.run.evaluations }) ∧
    ∀ n p, engine.moment key source origin n = .ok p → LatestDefinitions engine.env p := by
  refine ⟨renderSource_eq_moment engine key source origin, fun n p reached => ?_⟩
  have recorded : Recorded engine.env p.history p.run :=
    Progress.after_induction (Recorded.initial engine.settings) (fun _ _ => Recorded.step) reached
  exact recorded.latestDefinitions

def overwriting : Engine where
  env :=
    { config := {}, tables := fun _ => none, evaluator := evaluateCondition
      loader := Loader.ofMemory ⟨[]⟩ }

/-- A macro that defines itself anew, and goes on. -/
def overwritingTemplate : Source :=
  [.ok "_MACRO m".toList, .ok "_MACRO m".toList, .ok ['x'], .ok "_END_MACRO".toList, .ok ['y'],
    .ok "_END_MACRO".toList, .ok "_m".toList]

def overwritingBody : List Line :=
  [⟨"_MACRO m".toList, ⟨['t'], 2⟩⟩, ⟨['x'], ⟨['t'], 3⟩⟩, ⟨"_END_MACRO".toList, ⟨['t'], 4⟩⟩,
    ⟨['y'], ⟨['t'], 5⟩⟩]

/-- Where the macro is called, it has the first body. All lines of it are read, although the macro
has the second body by then. -/
theorem latest_definition_replayed_overwriting :
    ∃ p q, overwriting.moment ['t'] overwritingTemplate ⟨['t'], 0⟩ 7 = .ok p ∧
      overwriting.moment ['t'] overwritingTemplate ⟨['t'], 0⟩ 13 = .ok q ∧
      LatestDefinitions overwriting.env p ∧ LatestDefinitions overwriting.env q ∧
      (p.run.macros.get? ['m']).map MacroDefinition.body = some overwritingBody ∧
      (q.run.macros.get? ['m']).map MacroDefinition.body = some [⟨['x'], ⟨['t'], 3⟩⟩] ∧
      p.linesSince q = overwritingBody := by
  have both : (overwriting.moment ['t'] overwritingTemplate ⟨['t'], 0⟩ 7 >>= fun p =>
      (overwriting.moment ['t'] overwritingTemplate ⟨['t'], 0⟩ 13).map fun q =>
        ((p.run.macros.get? ['m']).map MacroDefinition.body,
          (q.run.macros.get? ['m']).map MacroDefinition.body, p.linesSince q)) =
      .ok (some overwritingBody, some [⟨['x'], ⟨['t'], 3⟩⟩], overwritingBody) := by cbv
  obtain ⟨p, hp, both⟩ := Outcome.bind_eq_ok.mp both
  obtain ⟨q, hq, both⟩ := Outcome.map_eq_ok.mp both
  simp only [Prod.mk.injEq] at both
  obtain ⟨before, after, lines⟩ := both
  obtain ⟨-, latest⟩ := latest_definition_replayed overwriting ['t'] overwritingTemplate ⟨['t'], 0⟩
  exact ⟨p, q, hp, hq, latest 7 p hp, latest 13 q hq, before, after, lines⟩

end Engine

end LineTemplate
