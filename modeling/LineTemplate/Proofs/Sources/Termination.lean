import LineTemplate.Proofs.Lines.Faults
import LineTemplate.Proofs.Sources.Isolation
import Mathlib.Order.Filter.AtTopBot.Basic

/-!
# Termination

The bounds of the engine are never reached, so a render ends with a document or a fault. Two
quantities fall. A call or an include goes one level down of those that the configuration allows. A
loop replays a body that is shorter than the source around it, because the body was captured there.

The bounds also decide nothing: the plain recursion of the interpreter, cut off at any bound that is
high enough, has the same result. Main statement: `render_terminates`.
-/

namespace LineTemplate.Run

/-! ## The bounds are high enough -/

section

variable {env : Environment} {loops deeper : Run → Visit → Outcome} {run : Run} {line : Line}
  {n d : Nat}

/-- A bound is no problem for sources of fewer than `size` lines that are started at a depth. -/
def Suffices (depth size : Nat) (visitor : Run → Visit → Outcome) : Prop :=
  ∀ run source, run.captures.captures = [] → run.depth = depth → source.size < size →
    visitor run source ≠ .error .exhausted

theorem iterate_ne_exhausted (isolates : Isolates loops) {iterations : List Replay}
    (hl : Suffices run.depth n loops) (short : ∀ r ∈ iterations, r.body.length < n)
    (uncaptured : run.captures.captures = []) :
    iterations.foldlM (fun run r => loops run (.replay r)) run ≠ .error .exhausted := by
  induction iterations generalizing run with
  | nil => nofun
  | cons r rest ih =>
    intro h
    rw [List.foldlM_cons] at h
    rcases Outcome.bind_eq_error.mp h with h | ⟨next, hr, h⟩
    · exact hl run (.replay r) uncaptured rfl (short r (by simp)) h
    · have same := isolates _ _ _ uncaptured hr
      have captures : next.captures = run.captures := congrArg Surroundings.captures same
      have depth : next.depth = run.depth := congrArg Surroundings.depth same
      exact ih (depth ▸ hl) (fun r hr => short r (by simp [hr])) (by rw [captures, uncaptured]) h

/-- After `n` lines of a source, the loops in it replay fewer than `n` lines, and calls and includes
go one level down. -/
theorem process_ne_exhausted (isolates : Isolates loops) (within : run.captures.Within n)
    (hl : Suffices run.depth n loops)
    (hd : run.depth < env.config.maxDepth → ∀ size, Suffices (run.depth + 1) size deeper) :
    process env loops deeper run line ≠ .error .exhausted := by
  intro h
  rcases Outcome.bind_eq_error.mp h with h | ⟨⟨routed, task⟩, hr, h⟩
  · exact route_ne_exhausted run env line h
  · have effect := effect_of_route hr
    have idle := effect.uncaptured within.single
    have depth := effect.depth
    cases task with
    | none => cases h
    | iterate iterations =>
      have hl' : Suffices routed.depth n loops := by
        rw [depth]
        exact hl
      exact iterate_ne_exhausted isolates hl' (effect.iterate_short within) (idle nofun) h
    | call | includeFile =>
      have shallow := effect.shallow Nat.one_ne_zero
      exact hd shallow _ routed _ (idle nofun) depth (Nat.lt_succ_self _)
        (Outcome.map_eq_error.mp h)

theorem Reads.le_size {does : Run → Line → Run → Prop} {outer started : Run} {source : Visit}
    (inSource : ∀ {n run}, Reads does source started n run → InSource outer source n run)
    (h : Reads does source started n run) : n ≤ source.size := by
  cases h with
  | start => exact Nat.zero_le _
  | line before next => exact ((inSource before).next next).1

/-- A loop body is shorter than the source around it, so as many loops can nest as there are
lines. -/
theorem visitWithin_suffices (isolates : Isolates deeper)
    (hd : d < env.config.maxDepth → ∀ size, Suffices (d + 1) size deeper) (room : Nat) :
    Suffices d room (visitWithin env deeper room) := by
  induction room with
  | zero => exact fun _ _ _ _ small => absurd small (Nat.not_lt_zero _)
  | succ room ih =>
    intro run source uncaptured depth small h
    have loops : Isolates (visitWithin env deeper room) := visitWithin_isolates isolates room
    obtain ⟨started, hs, stops⟩ := visit_exhausted h
    have inSource : ∀ {n run'},
        Reads (Does (process env (visitWithin env deeper room) deeper)) source started n run' →
          InSource run source n run' :=
      Reads.inSource (process_keeps loops isolates) uncaptured hs
    -- Either the line after `n` others ran out, or the source supplies more lines than it has.
    cases stops with
    | @line n run' taken line _ reads next stopped =>
      have between := inSource reads
      obtain ⟨fewer, -, files, rfl⟩ := between.next next
      have here : run'.depth = d := between.depth.trans depth
      have within : ({ run' with files } : Run).captures.Within n := between.captures
      refine process_ne_exhausted loops within ?_ (here ▸ hd) stopped
      intro r s hc hdepth short
      exact ih r s hc (hdepth.trans here) (by omega)
    | tooMany reads =>
      have := reads.le_size inSource
      omega

/-- As many levels as the configuration allows are enough. -/
theorem visitBelow_suffices {levels : Nat} (allowed : d ≤ env.config.maxDepth)
    (enough : env.config.maxDepth < d + levels) (size : Nat) :
    Suffices d size (visitBelow env levels) := by
  induction levels generalizing d size with
  | zero => omega
  | succ levels ih =>
    intro run source uncaptured depth small
    exact visitWithin_suffices (visitBelow_isolates levels)
      (fun shallow size => ih shallow (by omega) size) (source.size + 1) run source uncaptured depth
      (Nat.lt_succ_self _)

end

/-! ## The plain recursion -/

/-- Processes a source by plain recursion. The bound `fuel` is on everything at once: on the nesting
of sources, whether loops, calls or includes, and on the lines that a file supplies. -/
def visitUpTo (env : Environment) : (fuel : Nat) → Run → Visit → Outcome
  | 0, _, _ => .error .exhausted
  | fuel + 1, run, source =>
    run.visit (process env (visitUpTo env fuel) (visitUpTo env fuel)) fuel source

/-- On all bounds that are high enough the result is `result`, unless that itself ran out. -/
def Settles {α : Type} (bounded : Nat → Except Stop α) (result : Except Stop α) : Prop :=
  result ≠ .error .exhausted → ∀ᶠ fuel in Filter.atTop, bounded fuel = result

section

variable {α β : Type} {bounded : Nat → Except Stop α} {result : Except Stop α}

theorem settles_const (result : Except Stop α) : Settles (fun _ => result) result :=
  fun _ => .of_forall fun _ => rfl

theorem Settles.bind {next : Nat → α → Except Stop β} {last : α → Except Stop β}
    (h : Settles bounded result) (hn : ∀ a, result = .ok a → Settles (next · a) (last a)) :
    Settles (fun fuel => bounded fuel >>= next fuel) (result >>= last) := by
  intro finished
  cases result with
  | error e =>
    have he : (Except.error e : Except Stop α) ≠ .error .exhausted := by
      rintro ⟨⟩
      exact finished rfl
    filter_upwards [h he] with fuel same
    rw [same]
    rfl
  | ok a =>
    filter_upwards [h nofun, hn a rfl finished] with fuel ha hb
    rw [ha]
    exact hb

theorem Settles.map {f : α → β} (h : Settles bounded result) :
    Settles (fun fuel => (bounded fuel).map f) (result.map f) := by
  intro finished
  have hr : result ≠ .error .exhausted := fun he => finished (by rw [he]; rfl)
  filter_upwards [h hr] with fuel same
  rw [same]

theorem Settles.of_succ (h : Settles (fun fuel => bounded (fuel + 1)) result) :
    Settles bounded result := by
  intro finished
  obtain ⟨bound, hb⟩ := Filter.eventually_atTop.mp (h finished)
  refine Filter.eventually_atTop.mpr ⟨bound + 1, fun fuel high => ?_⟩
  obtain ⟨fuel, rfl⟩ := Nat.exists_eq_add_of_le' (Nat.le_of_add_left_le high)
  exact hb fuel (Nat.le_of_succ_le_succ high)

theorem settles_foldlM {γ : Type} {stepUpTo : Nat → α → γ → Except Stop α}
    {step : α → γ → Except Stop α} (h : ∀ a c, Settles (stepUpTo · a c) (step a c))
    (items : List γ) (a : α) :
    Settles (fun fuel => items.foldlM (stepUpTo fuel) a) (items.foldlM step a) := by
  induction items generalizing a with
  | nil => exact settles_const _
  | cons c rest ih =>
    simp only [List.foldlM_cons]
    exact (h a c).bind fun next _ => ih next

end

section

variable {env : Environment} {stepUpTo : Nat → Run → Line → Outcome} {step : Run → Line → Outcome}
  {loops deeper : Run → Visit → Outcome}

/-- A file that was read to its end is read to its end on every higher bound. -/
theorem settles_readFile (h : ∀ run line, Settles (stepUpTo · run line) (step run line))
    (origin : Location) (bound : Nat) (run : Run) :
    Settles (fun fuel => readFile (stepUpTo fuel) origin fuel run)
      (readFile step origin bound run) := by
  -- The induction lowers the bound on the lines, but not the one on what a line starts.
  suffices uniform : readFile step origin bound run ≠ .error .exhausted →
      ∀ᶠ fuel in Filter.atTop, ∀ high, bound ≤ high →
        readFile (stepUpTo fuel) origin high run = readFile step origin bound run by
    intro finished
    filter_upwards [uniform finished, Filter.eventually_ge_atTop bound] with fuel same high
    exact same fuel high
  induction bound generalizing run with
  | zero => exact fun finished => absurd rfl finished
  | succ bound ih =>
    intro finished
    unfold readFile at finished
    cases next : run.files.next with
    | mk supplied files =>
      rcases supplied with _ | fault | line
      · refine .of_forall fun fuel high hb => ?_
        obtain ⟨high, rfl⟩ := Nat.exists_eq_add_of_le' (Nat.le_of_add_left_le hb)
        simp only [readFile, next]
      · refine .of_forall fun fuel high hb => ?_
        obtain ⟨high, rfl⟩ := Nat.exists_eq_add_of_le' (Nat.le_of_add_left_le hb)
        simp only [readFile, next]
      · simp only [next] at finished
        have hs := h { run with files } line
        cases done : step { run with files } line with
        | error e =>
          rw [done] at finished hs
          filter_upwards [hs finished] with fuel same high hb
          obtain ⟨high, rfl⟩ := Nat.exists_eq_add_of_le' (Nat.le_of_add_left_le hb)
          simp only [readFile, next, same, done, Outcome.error_bind]
        | ok run' =>
          rw [done] at finished hs
          filter_upwards [hs (by simp), ih run' finished] with fuel same rest high hb
          obtain ⟨high, rfl⟩ := Nat.exists_eq_add_of_le' (Nat.le_of_add_left_le hb)
          simp only [readFile, next, same, done, Outcome.ok_bind]
          exact rest high (Nat.le_of_succ_le_succ hb)

theorem settles_visit (h : ∀ run line, Settles (stepUpTo · run line) (step run line))
    (bound : Nat) (run : Run) (source : Visit) :
    Settles (fun fuel => run.visit (stepUpTo fuel) fuel source) (run.visit step bound source) := by
  refine (settles_const (run.start source)).bind fun started _ => ?_
  have lines : Settles (fun fuel => started.read (stepUpTo fuel) fuel source)
      (started.read step bound source) := by
    cases source with
    | replay r => exact settles_foldlM h r.body started
    | file f => exact settles_readFile h f.origin bound started
  exact lines.bind fun finished _ => settles_const _

theorem settles_process
    (hl : ∀ source run, Settles (visitUpTo env · run source) (loops run source))
    (hd : ∀ source run, Settles (visitUpTo env · run source) (deeper run source)) (run : Run)
    (line : Line) :
    Settles (fun fuel => process env (visitUpTo env fuel) (visitUpTo env fuel) run line)
      (process env loops deeper run line) := by
  refine (settles_const (run.route env line)).bind fun ⟨routed, task⟩ _ => ?_
  cases task with
  | none => exact settles_const _
  | iterate iterations => exact settles_foldlM (fun run r => hl (.replay r) run) iterations routed
  | call r => exact (hd (.replay r) routed).map
  | includeFile f => exact (hd (.file f) routed).map

/-- What the engine finds on its bounds is what the plain recursion finds on high ones. -/
theorem settles_visitBelow (env : Environment) (levels : Nat) (run : Run) (source : Visit) :
    Settles (visitUpTo env · run source) (visitBelow env levels run source) :=
  visitBelow_induction
    (Q := fun source visitor => ∀ run, Settles (visitUpTo env · run source) (visitor run))
    (fun _ _ finished => absurd rfl finished)
    (fun _ _ bound hl hd source run =>
      Settles.of_succ (settles_visit (settles_process hl hd) bound run source))
    levels source run

end

end LineTemplate.Run

namespace LineTemplate.Engine

/-- Renders a source by plain recursion, with one bound on everything. -/
def renderSourceUpTo (engine : Engine) (fuel : Nat) (key : Text) (source : Source)
    (origin : Location) : Except Stop Rendering :=
  let started : Run := { settings := engine.settings }
  let file : FileVisit := { key, source, margin := [], origin }
  (Run.visitUpTo engine.env fuel started (.file file)).map fun run =>
    { document := run.cursors.render, evaluations := run.evaluations }

def renderTextUpTo (engine : Engine) (fuel : Nat) (name text : Text) : Except Stop Rendering :=
  engine.renderSourceUpTo fuel name (Source.ofText text) ⟨name, 0⟩

def renderPathUpTo (engine : Engine) (fuel : Nat) (path : Text) : Except Stop Rendering :=
  let origin : Location := ⟨path, 0⟩
  match engine.openPath path with
  | .error fault => .error (.fault (fault.at origin) [])
  | .ok (key, source) => engine.renderSourceUpTo fuel key source origin

theorem renderSource_ne_exhausted (engine : Engine) (key : Text) (source : Source)
    (origin : Location) : engine.renderSource key source origin ≠ .error .exhausted := by
  intro h
  exact Run.visitBelow_suffices (Nat.zero_le _) (by omega) _ _ (.file _) rfl rfl
    (Nat.lt_succ_self _) (Outcome.map_eq_error.mp h)

theorem renderSourceUpTo_eventually_eq (engine : Engine) (key : Text) (source : Source)
    (origin : Location) :
    ∃ bound, ∀ fuel, bound ≤ fuel →
      engine.renderSourceUpTo fuel key source origin = engine.renderSource key source origin := by
  have settles := (Run.settles_visitBelow engine.env (engine.env.config.maxDepth + 1)
    { settings := engine.settings } (.file { key, source, margin := [], origin })).map
      (f := fun run => ({ document := run.cursors.render,
                          evaluations := run.evaluations } : Rendering))
  exact Filter.eventually_atTop.mp (settles (engine.renderSource_ne_exhausted key source origin))

/-- Every render ends, whatever the template, the files and the options are. The engine never runs
out of its bounds, and the plain recursion gives the same answer on every bound that is high
enough. -/
theorem render_terminates (engine : Engine) :
    (∀ name text, engine.renderText name text ≠ .error .exhausted ∧
      ∃ bound, ∀ fuel, bound ≤ fuel →
        engine.renderTextUpTo fuel name text = engine.renderText name text) ∧
    ∀ path, engine.renderPath path ≠ .error .exhausted ∧
      ∃ bound, ∀ fuel, bound ≤ fuel →
        engine.renderPathUpTo fuel path = engine.renderPath path := by
  constructor
  · intro name text
    exact ⟨engine.renderSource_ne_exhausted _ _ _, engine.renderSourceUpTo_eventually_eq _ _ _⟩
  · intro path
    unfold renderPath renderPathUpTo
    cases engine.openPath path with
    | error fault => exact ⟨nofun, 0, fun _ _ => rfl⟩
    | ok opened =>
      exact ⟨engine.renderSource_ne_exhausted _ _ _, engine.renderSourceUpTo_eventually_eq _ _ _⟩

end LineTemplate.Engine
