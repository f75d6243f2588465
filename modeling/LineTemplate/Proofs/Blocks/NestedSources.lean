import LineTemplate.Proofs.Blocks.Mismatch
import LineTemplate.Proofs.Blocks.Rendered
import Mathlib

/-!
# Templates that are nested well

If a template and all files are nested well, so is everything that is ever replayed, and no render
ends with a mismatch of blocks.
Main statement: `blocks_match`.
-/

namespace LineTemplate

/-- The lines of a source are nested well. -/
def Visit.Nested (ind : Indicators) (source : Visit) : Prop :=
  LineTemplate.Nested .block (ind.forms (source.texts 0))

/-- The bodies of all macros are nested well. -/
def MacroTable.Nested (ind : Indicators) (macros : MacroTable) : Prop :=
  ∀ name definition, macros.get? name = some definition →
    LineTemplate.Nested .block (ind.forms (definition.body.map Line.text))

/-- All that is left to do is nested well. -/
def Task.Nested (ind : Indicators) : Task → Prop
  | none => True
  | iterate iterations => ∀ r ∈ iterations, (Visit.replay r).Nested ind
  | call r => (Visit.replay r).Nested ind
  | includeFile f => (Visit.file f).Nested ind

/-- All sources that can be included are nested well. -/
def Loader.Nested (ind : Indicators) (loader : Loader) : Prop :=
  ∀ key source, loader.openKey key = .ok source →
    LineTemplate.Nested .block (ind.forms source.texts)

namespace Run

section

variable {env : Environment} {outer run run' taken : Run} {line : Line} {task : Task}
  {source : Visit} {n : Nat} {location : Location} {loops deeper : Run → Visit → Outcome}
  {base : List Chain} {s s' : Outline}

theorem execute_nested {statement : Statement} (macros : run.macros.Nested env.config.indicators)
    (loader : env.loader.Nested env.config.indicators)
    (h : run.execute env statement location = .ok (run', task)) :
    task.Nested env.config.indicators := by
  have idle {outcome : Outcome} (h : outcome.map (·, Task.none) = .ok (run', task)) :
      task.Nested env.config.indicators := by
    obtain ⟨next, -, he⟩ := Outcome.map_eq_ok.mp h
    cases he
    trivial
  obtain ⟨raw, content⟩ := statement
  cases content with
  | literal =>
    dsimp only [execute] at h
    split at h
    · exact idle h
    · cases h
      trivial
  | cursor op name rest => exact idle h
  | directive kind object expression =>
    cases kind with
    | call =>
      dsimp only [execute, direct] at h
      split at h
      · obtain ⟨r, definition, found, body, -, -, rfl⟩ := call_ok (located_eq_ok.mp h)
        have nested := macros _ definition found
        rw [← body] at nested
        simpa [Task.Nested, Visit.Nested] using nested
      · cases h
        trivial
    | includeFile =>
      dsimp only [execute, direct] at h
      split at h
      · obtain ⟨key, source, opened, -, -, -, rfl⟩ := includeFile_ok (located_eq_ok.mp h)
        exact loader key source opened
      · cases h
        trivial
    | endLoop | endMacro => cases h
    | _ => exact idle h

/-- The forms of the lines that were captured so far. -/
def capturedForms (env : Environment) (run : Run) : List Form :=
  match run.captures.captures with
  | [] => []
  | c :: _ => env.config.indicators.forms (c.body.map Line.text)

/-- What a block that is nested well leaves to do, and the macros after it. -/
theorem complete_nested {c : Capture} (macros : run.macros.Nested env.config.indicators)
    (body : LineTemplate.Nested .block (env.config.indicators.forms (c.body.map Line.text)))
    (h : run.complete c location = (run', task)) :
    run'.macros.Nested env.config.indicators ∧ task.Nested env.config.indicators := by
  unfold complete at h
  split at h
  · cases h
    exact ⟨macros, trivial⟩
  · split at h
    · cases h
      refine ⟨macros, fun r hr => ?_⟩
      obtain ⟨i, hi, rfl⟩ := List.mem_iff_getElem.mp hr
      simpa [Visit.Nested] using body
    · cases h
      refine ⟨fun name definition found => ?_, trivial⟩
      rw [Bindings.get?_insert] at found
      split at found
      · cases found
        exact body
      · exact macros name definition found

/-- Between the lines of a source, macros are nested well, and so is what is left of the source. -/
structure Orderly (env : Environment) (base : List Chain) (s : Outline) (rest : List Form)
    (run : Run) : Prop where
  outlined : Outlined base s run
  sound : s.Sound (run.capturedForms env) rest
  macros : run.macros.Nested env.config.indicators

theorem Action.capturedForms {role : Role} (h : Action env run location role run' task)
    (uncaptured : run.captures.captures = []) : run'.capturedForms env = [] := by
  cases h with
  | captureStarted head => rfl
  | _ => simp [Run.capturedForms, uncaptured]

theorem execute_of_route (uncaptured : run.captures.captures = [])
    (hr : run.route env line = .ok (run', task)) :
    ∃ statement, run.execute env statement line.location = .ok (run', task) := by
  have idle : ¬ run.captures.isCapturing = true := by simp [CaptureStack.isCapturing, uncaptured]
  rw [route, if_neg idle] at hr
  split at hr
  · cases hr
  · rename_i statement _
    exact ⟨statement, hr⟩

/-- A line that goes into the body that is captured leaves the rest of the body. -/
theorem sound_captured {c : Capture} {others : List Capture} {rest : List Form}
    (outlined : Outlined base s run)
    (sound : s.Sound (run.capturedForms env) (env.config.indicators.form line.text :: rest))
    (capturing : run.captures.captures = c :: others)
    (inside : c.endsAt (env.config.indicators.role line.text) = false)
    (next : s.next (env.config.indicators.form line.text) = some s') :
    s'.Sound (capturedForms env { run with
      captures := ⟨c.grow line (env.config.indicators.role line.text) :: others⟩ }) rest := by
  have role := env.config.indicators.form_role line.text
  obtain ⟨skipped, rfl⟩ := outlined.capturing capturing
  obtain ⟨chains, _⟩ := s
  subst skipped
  have skip : Nesting.skip c.head.captured.kind c.depth
      (env.config.indicators.form line.text).role = some (c.head.captured.kind,
        (c.grow line (env.config.indicators.role line.text)).depth) := by
    rw [role, c.head.captured_kind]
    exact (Capture.outline_grow inside).symm
  rw [Outline.next_of_skipped rfl, skip] at next
  cases next
  have grown : capturedForms env { run with
        captures := ⟨[c.grow line (env.config.indicators.role line.text)]⟩ } =
      run.capturedForms env ++ [env.config.indicators.form line.text] := by
    simp [Run.capturedForms, capturing, Capture.body, Indicators.forms]
  rw [grown]
  exact sound.inside skip

theorem sound_completed {c : Capture} {others : List Capture} {rest : List Form}
    (outlined : Outlined base s run)
    (sound : s.Sound (run.capturedForms env) (env.config.indicators.form line.text :: rest))
    (capturing : run.captures.captures = c :: others)
    (ends : c.endsAt (env.config.indicators.role line.text) = true)
    (next : s.next (env.config.indicators.form line.text) = some s') :
    LineTemplate.Nested .block (env.config.indicators.forms (c.body.map Line.text)) ∧
      s'.Sound [] rest := by
  have role := env.config.indicators.form_role line.text
  obtain ⟨skipped, rfl⟩ := outlined.capturing capturing
  obtain ⟨chains, _⟩ := s
  subst skipped
  have skip : Nesting.skip c.head.captured.kind c.depth
      (env.config.indicators.form line.text).role = none := by
    rw [role, c.head.captured_kind, Capture.skip_of_endsAt ends]
  obtain ⟨body, sound'⟩ := sound.ended skip
  rw [Run.capturedForms, capturing] at body
  rw [Outline.next_of_skipped rfl, skip] at next
  cases next
  exact ⟨body, sound'⟩

/-- A line that is nested well in its source leaves the rest of the source as it has to be. -/
theorem Orderly.route {rest : List Form}
    (h : Orderly env base s (env.config.indicators.form line.text :: rest) run)
    (loader : env.loader.Nested env.config.indicators)
    (hr : run.route env line = .ok (run', task)) :
    (∃ s', Orderly env base s' rest run') ∧ task.Nested env.config.indicators := by
  obtain ⟨s', next, outlined⟩ := route_outlines h.outlined hr
  -- The outline after the line is determined, so only the rest of the source is followed here.
  cases effect_of_route hr with
  | executed uncaptured action =>
    have unskipped := h.outlined.uncaptured_iff.mp uncaptured
    obtain ⟨s'', next', sound⟩ := h.sound.line unskipped
    cases next.symm.trans next'
    have macros : run'.macros.Nested env.config.indicators := by
      rw [action.macros]
      exact h.macros
    obtain ⟨statement, executed⟩ := execute_of_route uncaptured hr
    refine ⟨⟨s', outlined, ?_, macros⟩, execute_nested h.macros loader executed⟩
    rwa [action.capturedForms uncaptured]
  | captured capturing inside =>
    have sound := sound_captured h.outlined h.sound capturing inside next
    exact ⟨⟨s', outlined, sound, h.macros⟩, trivial⟩
  | @completed c others run' task capturing ends completes =>
    obtain ⟨body, sound⟩ := sound_completed h.outlined h.sound capturing ends next
    obtain ⟨-, rfl⟩ := h.outlined.capturing capturing
    have before : ({ run with captures := ⟨[]⟩ } : Run).macros.Nested env.config.indicators :=
      h.macros
    obtain ⟨macros, nested⟩ := complete_nested before body completes
    obtain ⟨-, table, rfl⟩ := complete_task completes
    exact ⟨⟨s', outlined, sound, macros⟩, nested⟩

/-! ## Visits -/

/-- A way to visit a source that is nested well: afterwards the macros still are, and it does not
end with a mismatch. -/
structure Tidies (ind : Indicators) (source : Visit) (visitor : Run → Outcome) : Prop where
  restores : Restores visitor
  macros : ∀ run after, run.captures.captures = [] → run.macros.Nested ind → source.Nested ind →
    visitor run = .ok after → after.macros.Nested ind
  mild : ∀ run, run.captures.captures = [] → run.macros.Nested ind → source.Nested ind →
    Mild (visitor run)

theorem Tidies.isolates {ind : Indicators}
    (h : ∀ source, Tidies ind source (loops · source)) : Isolates loops :=
  fun source => (h source).restores

theorem iterate_tidies (hl : ∀ source, Tidies env.config.indicators source (loops · source))
    {iterations : List Replay} (uncaptured : run.captures.captures = [])
    (macros : run.macros.Nested env.config.indicators)
    (nested : ∀ r ∈ iterations, (Visit.replay r).Nested env.config.indicators) :
    Mild (iterations.foldlM (fun run r => loops run (.replay r)) run) ∧
      ∀ after, iterations.foldlM (fun run r => loops run (.replay r)) run = .ok after →
        after.macros.Nested env.config.indicators := by
  induction iterations generalizing run with
  | nil =>
    refine ⟨.ok _, ?_⟩
    rintro _ ⟨⟩
    exact macros
  | cons r rest ih =>
    obtain ⟨here, nested⟩ := List.forall_mem_cons.mp nested
    have further (next : Run) (hr : loops run (.replay r) = .ok next) := by
      have captures : next.captures = run.captures :=
        congrArg Surroundings.captures ((hl (.replay r)).restores run next uncaptured hr)
      have idle : next.captures.captures = [] := by rw [captures, uncaptured]
      exact ih idle ((hl (.replay r)).macros run next uncaptured macros here hr) nested
    constructor
    · rw [List.foldlM_cons]
      exact ((hl (.replay r)).mild run uncaptured macros here).bind
        fun next hr => (further next hr).1
    · intro after done
      rw [List.foldlM_cons] at done
      obtain ⟨next, hr, done⟩ := Outcome.bind_eq_ok.mp done
      exact (further next hr).2 after done

/-- What a line leaves to do is done without a mismatch. -/
theorem perform_tidies (hl : ∀ source, Tidies env.config.indicators source (loops · source))
    (hd : ∀ source, Tidies env.config.indicators source (deeper · source))
    (uncaptured : task ≠ .none → run.captures.captures = [])
    (macros : run.macros.Nested env.config.indicators)
    (nested : task.Nested env.config.indicators) :
    Mild (run.perform loops deeper task) ∧
      ∀ after, run.perform loops deeper task = .ok after →
        after.macros.Nested env.config.indicators := by
  cases task with
  | none =>
    refine ⟨.ok _, ?_⟩
    rintro _ ⟨⟩
    exact macros
  | iterate iterations => exact iterate_tidies hl (uncaptured nofun) macros nested
  | call | includeFile =>
    have idle : run.captures.captures = [] := uncaptured nofun
    refine ⟨((hd _).mild run idle macros nested).map _, fun after done => ?_⟩
    obtain ⟨ended, hv, rfl⟩ := Outcome.map_eq_ok.mp done
    have kept := (hd _).macros run ended idle macros nested hv
    exact kept

theorem Orderly.files {rest : List Form} (h : Orderly env base s rest run) (files : FileStack) :
    Orderly env base s rest { run with files } where
  outlined := h.outlined.of_eq rfl rfl rfl
  sound := h.sound
  macros := h.macros

theorem Orderly.possible {form : Form} {rest : List Form}
    (h : Orderly env base s (form :: rest) run) : ∃ s', s.next form = some s' := by
  cases skipped : s.skipped with
  | none =>
    obtain ⟨s', next, -⟩ := h.sound.line skipped
    exact ⟨s', next⟩
  | some block => exact ⟨_, Outline.next_of_skipped skipped⟩

theorem process_tidies {rest : List Form}
    (h : Orderly env base s (env.config.indicators.form line.text :: rest) run)
    (avoids : LoaderAvoids env.loader) (loader : env.loader.Nested env.config.indicators)
    (hl : ∀ source, Tidies env.config.indicators source (loops · source))
    (hd : ∀ source, Tidies env.config.indicators source (deeper · source)) :
    Mild (process env loops deeper run line) ∧
      ∀ after, process env loops deeper run line = .ok after →
        ∃ s', Orderly env base s' rest after := by
  have performed {routed : Run} {task : Task} (hr : run.route env line = .ok (routed, task)) :
      Mild (routed.perform loops deeper task) ∧
        ∀ after, routed.perform loops deeper task = .ok after →
          ∃ s', Orderly env base s' rest after := by
    obtain ⟨⟨s', between⟩, nested⟩ := h.route loader hr
    have idle := (effect_of_route hr).uncaptured h.outlined.single
    obtain ⟨mild, macros⟩ := perform_tidies hl hd idle between.macros nested
    refine ⟨mild, fun after done => ⟨s', ?_⟩⟩
    have same := perform_surroundings (Tidies.isolates hl) (Tidies.isolates hd) idle done
    have captures : after.captures = routed.captures := congrArg Surroundings.captures same
    have forms : after.capturedForms env = routed.capturedForms env := by
      rw [Run.capturedForms, captures]
      rfl
    have outlined : Outlined base s' after :=
      between.outlined.of_eq (congrArg Surroundings.conditionals same)
        (congrArg Surroundings.floors same) captures
    exact ⟨outlined, forms ▸ between.sound, macros after done⟩
  obtain ⟨s', possible⟩ := h.possible
  constructor
  · exact (route_mild h.outlined avoids possible).bind fun _ hr => (performed hr).1
  · intro after done
    obtain ⟨⟨routed, task⟩, hr, hp⟩ := Outcome.bind_eq_ok.mp done
    exact (performed hr).2 after hp

section

variable (avoids : LoaderAvoids env.loader) (loader : env.loader.Nested env.config.indicators)
  (hl : ∀ source, Tidies env.config.indicators source (loops · source))
  (hd : ∀ source, Tidies env.config.indicators source (deeper · source))

include avoids loader hl hd

theorem Reads.orderly {started : Run} (uncaptured : outer.captures.captures = [])
    (macros : outer.macros.Nested env.config.indicators)
    (nested : source.Nested env.config.indicators) (hs : outer.start source = .ok started)
    (reads : Reads (Does (process env loops deeper)) source started n run) :
    ∃ s, Orderly env outer.conditionals.chains s
      (env.config.indicators.forms (source.texts n)) run := by
  induction reads with
  | start =>
    have outlined := start_outlined uncaptured hs
    have idle := outlined.uncaptured_iff.mpr rfl
    refine ⟨{}, outlined, ?_, ?_⟩
    · rw [Run.capturedForms, idle]
      exact Outline.sound_of_nested nested
    · cases source with
      | replay r =>
        cases hs
        exact macros
      | file f =>
        obtain ⟨files, -, hs⟩ := Outcome.bind_eq_ok.mp hs
        cases hs
        exact macros
  | @line n run taken run' line before next done ih =>
    obtain ⟨s, between⟩ := ih
    have inSource := before.inSource
      (process_keeps (Tidies.isolates hl) (Tidies.isolates hd)) uncaptured hs
    rw [inSource.texts_cons next] at between
    obtain ⟨-, -, files, rfl⟩ := inSource.next next
    exact (process_tidies (between.files files) avoids loader hl hd).2 run' done

end

theorem start_mild : Mild (run.start source) := by
  cases source with
  | replay r => exact .ok _
  | file f =>
    exact .bind (located_mild (push?_avoids mismatch_structural _ _ _)) fun _ _ => .ok _

/-- A source that has nothing open can be left. -/
theorem finish_mild (h : Outlined base {} run) : Mild (outer.finish run source) := by
  have idle : run.captures.captures = [] := h.uncaptured_iff.mpr rfl
  have closed : run.openBlock? = none := by
    refine openBlock?_eq_none.mpr ⟨?_, ?_⟩
    · rw [CaptureStack.depth, idle]
      exact Nat.zero_le _
    · rw [h.depth]
      exact Nat.le_of_eq (Nat.zero_add _)
  have leaves (location : Location) : Mild (run.leave outer.floors location) := by
    unfold leave
    rw [closed]
    exact .ok _
  cases source with
  | replay | file => exact .bind (leaves _) fun _ _ => .ok _

theorem visit_tidies (avoids : LoaderAvoids env.loader)
    (loader : env.loader.Nested env.config.indicators) (bound : Nat)
    (hl : ∀ source, Tidies env.config.indicators source (loops · source))
    (hd : ∀ source, Tidies env.config.indicators source (deeper · source)) (source : Visit) :
    Tidies env.config.indicators source
      fun run => run.visit (process env loops deeper) bound source where
  restores := visit_isolates (Tidies.isolates hl) (Tidies.isolates hd) source
  macros run after uncaptured macros nested done := by
    obtain ⟨started, last, finished, hs, reads, -, hf⟩ := visit_ok done
    obtain ⟨s, between⟩ := reads.orderly avoids loader hl hd uncaptured macros nested hs
    obtain ⟨-, files, scopes, rfl⟩ := finish_ok hf
    exact between.macros
  mild run uncaptured macros nested := by
    intro stop failed
    rcases visit_error failed with hs | ⟨started, hs, failed⟩
    · exact start_mild stop hs
    · have inSource {n : Nat} {reached : Run}
          (reads : Reads (Does (process env loops deeper)) source started n reached) :
          InSource run source n reached :=
        reads.inSource (process_keeps (Tidies.isolates hl) (Tidies.isolates hd)) uncaptured hs
      have orderly {n : Nat} {reached : Run}
          (reads : Reads (Does (process env loops deeper)) source started n reached) :=
        reads.orderly avoids loader hl hd uncaptured macros nested hs
      rcases failed with stops | ⟨last, finished, reads, atEnd, hf⟩
      · cases stops with
        | line before next fails =>
          obtain ⟨s, between⟩ := orderly before
          rw [(inSource before).texts_cons next] at between
          obtain ⟨-, -, files, rfl⟩ := (inSource before).next next
          exact (process_tidies (between.files files) avoids loader hl hd).1 stop fails
        | unreadable before next =>
          obtain ⟨path, cause, rfl⟩ := Visit.unreadable_of_next? next
          exact not_false
        | tooMany => exact not_false
      · obtain ⟨s, between⟩ := orderly reads
        rw [(inSource reads).texts_nil atEnd] at between
        cases Outline.eq_of_sound_nil between.sound
        exact finish_mild between.outlined stop hf

theorem visitBelow_tidies (avoids : LoaderAvoids env.loader)
    (loader : env.loader.Nested env.config.indicators) (levels : Nat) (source : Visit) :
    Tidies env.config.indicators source (visitBelow env levels · source) :=
  visitBelow_induction (Q := Tidies env.config.indicators)
    (fun _ => ⟨nofun, nofun, fun _ _ _ _ => .error not_false⟩)
    (fun _ _ bound hl hd source => visit_tidies avoids loader bound hl hd source) levels source

end

end Run

namespace Engine

variable {engine : Engine} {key name text path : Text} {source : Source} {rendering : Rendering}
  {origin : Location}

theorem renderSource_mild (avoids : Run.LoaderAvoids engine.env.loader)
    (loader : engine.env.loader.Nested engine.env.config.indicators)
    (nested : Nested .block (engine.env.config.indicators.forms source.texts)) :
    Mild (engine.renderSource key source origin) := by
  have noMacros : MacroTable.Nested engine.env.config.indicators {} := by
    intro name definition found
    cases found
  have tidies := Run.visitBelow_tidies avoids loader (engine.env.config.maxDepth + 1)
    (.file { key, source, margin := [], origin })
  exact (tidies.mild { settings := engine.settings } rfl noMacros nested).map _

theorem nested_ofMemory {ind : Indicators} {files : Bindings Source}
    (nested : ∀ key source, files.get? key = some source → Nested .block (ind.forms source.texts)) :
    (Loader.ofMemory files).Nested ind := by
  intro key source opened
  dsimp only [Loader.ofMemory] at opened
  split at opened
  · rename_i found
    cases opened
    exact nested key source found
  · cases opened

theorem openPath_error_mild {fault : Fault}
    (avoids : Run.LoaderAvoids engine.env.loader) (failed : engine.openPath path = .error fault) :
    ¬ fault.Mismatch := by
  have opens : Avoids Fault.Mismatch (engine.openPath path) :=
    .bind (avoids.1 _ _ _) fun key _ => .bind (avoids.2 key) fun _ _ => .ok _
  exact opens fault failed

theorem renderText_mild (avoids : Run.LoaderAvoids engine.env.loader)
    (loader : engine.env.loader.Nested engine.env.config.indicators)
    (nested : Nested .block (engine.env.config.indicators.forms text.lines)) :
    Mild (engine.renderText name text) := by
  have lines : (Source.ofText text).texts = text.lines := Source.texts_map_ok _
  exact renderSource_mild avoids loader (lines ▸ nested)

theorem renderPath_mild (avoids : Run.LoaderAvoids engine.env.loader)
    (loader : engine.env.loader.Nested engine.env.config.indicators) :
    Mild (engine.renderPath path) := by
  unfold renderPath
  cases opened : engine.openPath path with
  | error fault => exact .error (openPath_error_mild avoids opened)
  | ok found =>
    obtain ⟨key, -, found⟩ := Outcome.bind_eq_ok.mp opened
    obtain ⟨source, loads, found⟩ := Outcome.bind_eq_ok.mp found
    cases found
    exact renderSource_mild avoids loader (loader key source loads)

theorem renderText_skims (done : engine.renderText name text = .ok rendering) :
    ∃ rest, Skims (engine.env.config.indicators.forms text.lines) rest ∧ Nested .block rest := by
  have lines : (Source.ofText text).texts = text.lines := Source.texts_map_ok _
  rw [← lines]
  exact (renderSource_skims done).2

theorem renderPath_skims (done : engine.renderPath path = .ok rendering) :
    ∃ key texts, engine.openPath path = .ok (key, texts.map .ok) ∧
      ∃ rest, Skims (engine.env.config.indicators.forms texts) rest ∧ Nested .block rest := by
  unfold renderPath at done
  cases opened : engine.openPath path with
  | error fault =>
    rw [opened] at done
    cases done
  | ok found =>
    obtain ⟨key, source⟩ := found
    rw [opened] at done
    obtain ⟨readable, skims⟩ := renderSource_skims done
    exact ⟨key, source.texts, by rw [← readable], skims⟩

/-- Blocks match. If a template and all files that it can include are nested well, no render ends
with a mismatch of blocks, whatever is replayed and wherever. If a template is rendered, it is
nested well where the bodies of loops and macros are passed over. -/
theorem blocks_match (engine : Engine) :
    (∀ files, engine.env.loader = Loader.ofMemory files →
      (∀ key source, files.get? key = some source →
        Nested .block (engine.env.config.indicators.forms source.texts)) →
      (∀ name text block location evaluations,
        Nested .block (engine.env.config.indicators.forms text.lines) →
        engine.renderText name text =
          .error (.fault ⟨.unmatched block, location⟩ evaluations) →
        block = .closeWithoutCursor) ∧
      ∀ path block location evaluations,
        engine.renderPath path = .error (.fault ⟨.unmatched block, location⟩ evaluations) →
        block = .closeWithoutCursor) ∧
    (∀ name text rendering, engine.renderText name text = .ok rendering →
      ∃ rest, Skims (engine.env.config.indicators.forms text.lines) rest ∧
        Nested .block rest) ∧
    ∀ path rendering, engine.renderPath path = .ok rendering →
      ∃ key texts, engine.openPath path = .ok (key, texts.map .ok) ∧
        ∃ rest, Skims (engine.env.config.indicators.forms texts) rest ∧ Nested .block rest := by
  refine ⟨fun files memory nested => ?_, fun _ _ _ => renderText_skims,
    fun _ _ => renderPath_skims⟩
  have avoids : Run.LoaderAvoids engine.env.loader := memory ▸ Run.loaderAvoids_ofMemory files
  have loader : engine.env.loader.Nested engine.env.config.indicators :=
    memory ▸ nested_ofMemory nested
  constructor
  · intro name text block location evaluations well failed
    have mild : Mild (engine.renderText name text) := renderText_mild avoids loader well
    exact mild.unmatched failed
  · intro path block location evaluations failed
    have mild : Mild (engine.renderPath path) := renderPath_mild avoids loader
    exact mild.unmatched failed

/-- A file that leaves a cursor inside of a chain, without having entered any. -/
def leavingFile : Source :=
  [.ok "_IF_NOT_SET x".toList, .ok ['_', '}'], .ok "_END_IF".toList]

def withLeaving : Engine where
  env :=
    { config := {}, tables := fun _ => none, evaluator := evaluateCondition
      loader := Loader.ofMemory (Bindings.empty.insert ['p'] leavingFile) }

/-- A template whose macro would not succeed if it was called. -/
def uncalledTemplate : Text := "_MACRO m\n_END_IF\n_END_MACRO".toList

theorem blocks_match_leaving :
    (withLeaving.renderPath ['p'] =
        .error (.fault ⟨.unmatched .closeWithoutCursor, ⟨['p'], 2⟩⟩ []) ∧
      ∀ path block location evaluations,
        withLeaving.renderPath path = .error (.fault ⟨.unmatched block, location⟩ evaluations) →
        block = .closeWithoutCursor) ∧
    ∃ rendering rest, withLeaving.renderText ['t'] uncalledTemplate = .ok rendering ∧
      Skims (withLeaving.env.config.indicators.forms uncalledTemplate.lines) rest ∧
      Nested .block rest := by
  have forms : withLeaving.env.config.indicators.forms leavingFile.texts =
      [.opener, .plain, .endIf] := by cbv
  have file : Nested .block (withLeaving.env.config.indicators.forms leavingFile.texts) := by
    rw [forms]
    exact .chain (.plain .nil) .ended .nil
  have files : ∀ key source, (Bindings.empty.insert ['p'] leavingFile).get? key = some source →
      Nested .block (withLeaving.env.config.indicators.forms source.texts) := by
    intro key source found
    rw [Bindings.get?_insert] at found
    split at found
    · cases found
      exact file
    · cases found
  obtain ⟨matched, rendered, -⟩ := blocks_match withLeaving
  have uncalled : withLeaving.renderText ['t'] uncalledTemplate = .ok ⟨⟨[], []⟩, []⟩ := by cbv
  obtain ⟨rest, skims, nested⟩ := rendered _ _ _ uncalled
  exact ⟨⟨by cbv, (matched _ rfl files).2⟩, _, rest, uncalled, skims, nested⟩

end Engine

end LineTemplate
