import LineTemplate.Proofs.Blocks.Definitions
import LineTemplate.Proofs.Lines.Faults
import LineTemplate.Proofs.Sources.Files

/-!
# Where lines come from

Lines travel: a body is captured, is kept in the table of macros beyond the end of its file, is
replayed and captured again. `Traced` is the invariant that all of them were once read from a file,
at the place that they name. It rests on the files of a run, because a file could otherwise be read
under the key of another one.

Main statement: `locations_true`.
-/

namespace LineTemplate

/-- A line stands in a file at the place that it names. -/
def Bindings.Supplies (files : Bindings Source) (line : Line) : Prop :=
  ∃ source n, files.get? line.location.path = some source ∧ line.location.line = n + 1 ∧
    source[n]? = some (.ok line.text)

def locations (history : List Reading) : List Location :=
  history.map (·.line.location)

/-- How many lines of a source were read. A line that is replayed does not count again. -/
def linesRead (history : List Reading) (path : Text) : Nat :=
  ((locations history).filter (·.path = path)).dedup.length

/-- A place at which the reading has been, or one before the first line. -/
def Reached (history : List Reading) (location : Location) : Prop :=
  location.line = 0 ∨ location ∈ locations history

section

variable {history : List Reading} {reading : Reading} {location : Location} {path : Text} {n : Nat}

@[simp] theorem locations_append (history history' : List Reading) :
    locations (history ++ history') = locations history ++ locations history' :=
  List.map_append

@[simp] theorem locations_singleton (reading : Reading) :
    locations [reading] = [reading.line.location] := rfl

theorem location_mem_of_line_mem {line : Line} (h : line ∈ history.map Reading.line) :
    line.location ∈ locations history := by
  obtain ⟨reading, member, rfl⟩ := List.mem_map.mp h
  exact List.mem_map_of_mem member

theorem le_linesRead (h : ∀ i < n, ⟨path, i + 1⟩ ∈ locations history) :
    n ≤ linesRead history path := by
  let places : List Location := (List.range n).map fun i => ⟨path, i + 1⟩
  have distinct : places.Nodup :=
    List.nodup_range.map fun i j same => Nat.succ.inj (congrArg Location.line same)
  have read : places ⊆ ((locations history).filter (·.path = path)).dedup := by
    intro place member
    obtain ⟨i, low, rfl⟩ := List.mem_map.mp member
    exact List.mem_dedup.mpr
      (List.mem_filter.mpr ⟨h i (List.mem_range.mp low), decide_eq_true rfl⟩)
  have length : places.length = n := by simp [places]
  exact length ▸ (List.subperm_of_subset distinct read).length_le

end

/-! ## What is still to be read -/

/-- The lines of a replay were read before. A file is that of its key, and the first `n` of its
lines were read. -/
def Visit.Traced (files : Bindings Source) (history : List Reading) (n : Nat) : Visit → Prop
  | replay r => r.body ⊆ history.map Reading.line ∧ Reached history r.origin
  | file f => files.get? f.key = some f.source ∧ Reached history f.origin ∧
      ∀ i < n, ⟨f.key, i + 1⟩ ∈ locations history

def Job.Traced (files : Bindings Source) (history : List Reading) : Job → Prop
  | visit source _ => source.Traced files history 0
  | read _ source n _ => source.Traced files history n

/-- All lines that are captured are among the given ones. -/
def CaptureStack.From (s : CaptureStack) (lines : List Line) : Prop :=
  ∀ c ∈ s.captures, c.newestFirst ⊆ lines

/-- The loader opens these files, and the one at `root` is not among the others. -/
structure Environment.Serves (env : Environment) (files : Bindings Source) (root : FileVisit) :
    Prop where
  first : files.get? root.key = some root.source
  others : ∀ key source, key ≠ root.key → env.loader.openKey key = .ok source →
    files.get? key = some source

section

variable {env : Environment} {files : Bindings Source} {history : List Reading}
  {reading : Reading} {source : Visit} {job : Job} {run taken routed : Run} {line : Line}
  {task : Task} {location : Location} {n level : Nat}

theorem Reached.later (h : Reached history location) (reading : Reading) :
    Reached (history ++ [reading]) location := by
  rcases h with first | member
  · exact .inl first
  · exact .inr (by simp [member])

theorem reached_last (run : Run) (line : Line) (level : Nat) :
    Reached (history ++ [⟨run, line, level⟩]) line.location :=
  .inr (by simp)

theorem Visit.Traced.origin (h : source.Traced files history n) :
    Reached history source.origin := by
  cases source with
  | replay r => exact h.2
  | file f => exact h.2.1

theorem Visit.Traced.later (h : source.Traced files history n) (reading : Reading) :
    source.Traced files (history ++ [reading]) n := by
  cases source with
  | replay r => exact ⟨List.map_append ▸ List.subset_append_of_subset_left _ h.1, h.2.later reading⟩
  | file f => exact ⟨h.1, h.2.1.later reading, fun i low => by simp [h.2.2 i low]⟩

theorem Job.Traced.later (h : job.Traced files history) (reading : Reading) :
    job.Traced files (history ++ [reading]) := by
  cases job with
  | visit source levels => exact Visit.Traced.later h reading
  | read outer source n levels => exact Visit.Traced.later h reading

/-- The next line of a source stands where it says, and all lines before it were read. -/
theorem Visit.Traced.supplies (h : source.Traced files history n)
    (supplied : ∀ reading ∈ history, files.Supplies reading.line)
    (earlier : ∀ place ∈ locations history, ∀ i < place.line,
      ⟨place.path, i + 1⟩ ∈ locations history)
    (reading : Reading) (here : source.line? n = some reading.line) :
    files.Supplies reading.line ∧ ∀ i < reading.line.location.line,
      ⟨reading.line.location.path, i + 1⟩ ∈ locations (history ++ [reading]) := by
  obtain ⟨run, line, level⟩ := reading
  cases source with
  | replay r =>
    have known := h.1 (List.mem_of_getElem? here)
    have before := earlier _ (location_mem_of_line_mem known)
    obtain ⟨reading, member, same⟩ := List.mem_map.mp known
    exact ⟨same ▸ supplied reading member, fun i low => by simp [before i low]⟩
  | file f =>
    obtain ⟨named, -, read⟩ := h
    unfold Visit.line? at here
    dsimp only at here
    split at here
    · rename_i text found
      cases here
      refine ⟨⟨f.source, n, named, rfl, found⟩, fun i low => ?_⟩
      rcases Nat.lt_succ_iff_lt_or_eq.mp low with before | rfl
      · simp [read i before]
      · simp
    · cases here

/-- After one more line, the file has supplied one line more. -/
theorem Visit.Traced.next (h : source.Traced files history n) (reading : Reading)
    (here : source.line? n = some reading.line) :
    source.Traced files (history ++ [reading]) (n + 1) := by
  obtain ⟨run, line, level⟩ := reading
  cases source with
  | replay r => exact ⟨List.map_append ▸ List.subset_append_of_subset_left _ h.1, h.2.later _⟩
  | file f =>
    obtain ⟨named, origin, read⟩ := h
    unfold Visit.line? at here
    dsimp only at here
    split at here
    · cases here
      refine ⟨named, origin.later _, fun i low => ?_⟩
      rcases Nat.lt_succ_iff_lt_or_eq.mp low with before | rfl
      · simp [read i before]
      · simp
    · cases here

/-! ## Lines -/

/-- All that a line adds to the bodies that are captured is itself. -/
theorem Run.captures_from {lines : List Line} (h : taken.captures.From lines)
    (hr : taken.route env line = .ok (routed, task)) : routed.captures.From (lines ++ [line]) := by
  have before {c : Capture} (member : c ∈ taken.captures.captures) :
      c.newestFirst ⊆ lines ++ [line] := List.subset_append_of_subset_left _ (h c member)
  cases effect_of_route hr with
  | captured capturing inside =>
    intro c member
    rcases List.mem_cons.mp member with rfl | member
    · exact List.cons_subset.mpr ⟨by simp, before (capturing ▸ List.mem_cons_self)⟩
    · exact before (capturing ▸ List.mem_cons_of_mem _ member)
  | completed capturing ends completes =>
    obtain ⟨-, macros, rfl⟩ := complete_task completes
    intro c member
    exact before (capturing ▸ List.mem_cons_of_mem _ member)
  | executed idle action =>
    generalize env.config.indicators.role line.text = role at action
    intro c member
    cases action with
    | captureStarted head =>
      rcases List.mem_cons.mp member with rfl | member
      · exact List.nil_subset _
      · exact before member
    | _ => exact before member

/-- The body of a macro was read. -/
theorem Recorded.body_subset (h : Recorded env history run) {name : Text} {d : MacroDefinition}
    (found : run.macros.get? name = some d) : d.body ⊆ history.map Reading.line := by
  obtain ⟨b, formals, ⟨later, ⟨before, split⟩, -⟩, yields⟩ := (h.table name d).mp found
  rw [yields.body, split]
  exact List.map_subset _ fun reading member => by simp [MacroBlock.readings, member]

/-- What a line starts was read before, or is a file. -/
theorem Run.task_traced {root : FileVisit} (serves : env.Serves files root)
    (recorded : Recorded env history taken)
    (captured : taken.captures.From (history.map Reading.line))
    (rooted : root.key ∈ taken.files.frames.map FileFrame.path)
    (hr : taken.route env line = .ok (routed, task)) :
    ∀ job ∈ task.jobs, job.Traced files (history ++ [⟨taken, line, level⟩]) := by
  intro job member
  cases task with
  | none => cases member
  | iterate iterations =>
    obtain ⟨r, hr', rfl⟩ := List.mem_map.mp member
    cases effect_of_route hr with
    | @completed c _ _ _ capturing _ completes =>
      obtain ⟨body, -, origin⟩ := (complete_iterate completes).2 r hr'
      have known : r.body ⊆ history.map Reading.line := by
        rw [body, Capture.body]
        exact List.reverse_subset.mpr (captured c (capturing ▸ List.mem_cons_self))
      exact ⟨List.map_append ▸ List.subset_append_of_subset_left _ known, origin ▸ reached_last ..⟩
    | executed _ action => exact absurd action Action.ne_iterate
  | call r =>
    obtain rfl := List.mem_singleton.mp member
    obtain ⟨name, rest, directs⟩ := directs_of_call hr 0
    obtain ⟨d, args, found, -, same⟩ := directs.call_known hr
    cases same
    have known : d.body ⊆ history.map Reading.line := recorded.body_subset found
    exact ⟨List.map_append ▸ List.subset_append_of_subset_left _ known, reached_last ..⟩
  | includeFile f =>
    obtain rfl := List.mem_singleton.mp member
    obtain ⟨kind, name, rest, rfl | rfl, directs⟩ := directs_of_levels hr Nat.one_ne_zero 0
    · obtain ⟨_, _, -, -, same⟩ := directs.call_known hr
      cases same
    · have routes := directs.route.symm.trans hr
      obtain ⟨key, opened, found, unread, -, -, same⟩ := includeFile_ok (located_eq_ok.mp routes)
      cases same
      -- The first file is still being read, so the included one has another key.
      have other : key ≠ root.key := by
        rintro rfl
        rw [(FileStack.contains_iff _ _).mpr rooted] at unread
        cases unread
      exact ⟨serves.others key opened other found, reached_last ..,
        fun i before => absurd before i.not_lt_zero⟩

end

namespace Progress

/-- All lines that were read stand where they say, and all that is still to be read will. -/
structure Traced (files : Bindings Source) (p : Progress) : Prop where
  supplied : ∀ reading ∈ p.history, files.Supplies reading.line
  /-- The lines before a line that was read were read. -/
  earlier : ∀ place ∈ locations p.history, ∀ i < place.line,
    ⟨place.path, i + 1⟩ ∈ locations p.history
  captured : p.run.captures.From (p.history.map Reading.line)
  jobs : ∀ job ∈ p.jobs, job.Traced files p.history

variable {env : Environment} {files : Bindings Source} {root : FileVisit} {p q : Progress}

namespace Traced

theorem initial (serves : env.Serves files root) (origin : root.origin.line = 0)
    (settings : Settings) :
    Traced files { jobs := [.visit (.file root) 0], run := { settings } } where
  supplied := nofun
  earlier := nofun
  captured := nofun
  jobs := by
    intro job member
    obtain rfl := List.mem_singleton.mp member
    exact ⟨serves.first, .inl origin, nofun⟩

theorem step (serves : env.Serves files root) (framed : Framed root p)
    (recorded : Recorded env p.history p.run) (h : Traced files p) (step : Steps env p q) :
    Traced files q := by
  obtain ⟨supplied, earlier, captured, jobs⟩ := h
  cases step with
  | ended => exact ⟨supplied, earlier, captured, jobs⟩
  | @started source levels rest run run' history hs =>
    obtain ⟨_, _, _, rfl⟩ := Run.start_ok hs
    obtain ⟨first, others⟩ := List.forall_mem_cons.mp jobs
    exact ⟨supplied, earlier, captured, List.forall_mem_cons.mpr ⟨first, others⟩⟩
  | @read outer run taken routed source n levels rest history line task next hr =>
    obtain ⟨first, others⟩ := List.forall_mem_cons.mp jobs
    have before : run.files.frames = source.frames n ++ rest.flatMap Job.frames := framed.frames
    obtain ⟨here, onTop, opened, rfl⟩ := Run.next?_ok before next
    have source_traced : source.Traced files history n := first
    obtain ⟨stands, read⟩ := source_traced.supplies supplied earlier
      ⟨{ run with files := opened }, line, rest.length⟩ here
    have rooted : root.key ∈ opened.frames.map FileFrame.path := by
      have member := framed.rooted.mem_frames
      have onStack : opened.frames.map FileFrame.path = run.files.frames.map FileFrame.path := by
        rw [onTop, before, List.map_append, List.map_append, source.paths_frames (n + 1) n]
      rw [onStack, before]
      exact member
    have recorded' : Recorded env history { run with files := opened } := recorded.of_eq rfl rfl
    constructor
    case supplied =>
      intro reading member
      rcases List.mem_append.mp member with member | member
      · exact supplied reading member
      · obtain rfl := List.mem_singleton.mp member
        exact stands
    case earlier =>
      intro place member i low
      rw [locations_append] at member
      rcases List.mem_append.mp member with member | member
      · rw [locations_append]
        exact List.mem_append_left _ (earlier place member i low)
      · obtain rfl := List.mem_singleton.mp member
        exact read i low
    case captured =>
      have before : ({ run with files := opened } : Run).captures.From
          (history.map Reading.line) := captured
      exact List.map_append ▸ Run.captures_from before hr
    case jobs =>
      intro job member
      rcases List.mem_append.mp member with member | member
      · exact Run.task_traced serves recorded' captured rooted hr job member
      · rcases List.mem_cons.mp member with rfl | member
        · exact source_traced.next _ here
        · exact (others job member).later _
  | finished atEnd hf =>
    obtain ⟨-, _, _, rfl⟩ := Run.finish_ok hf
    exact ⟨supplied, earlier, captured, (List.forall_mem_cons.mp jobs).2⟩

/-- The next line stands where it says. -/
theorem upcoming (h : Traced files p) (framed : Framed root p) {reading : Reading}
    (upcoming : p.upcoming? = some reading) : files.Supplies reading.line := by
  obtain ⟨outer, source, n, levels, jobs, current, -, next⟩ := eq_of_upcoming upcoming
  have before : p.run.files.frames = source.frames n ++ jobs.flatMap Job.frames := by
    rw [framed.frames, current]
    rfl
  have source_traced : source.Traced files p.history n :=
    h.jobs (.read outer source n levels) (current ▸ List.mem_cons_self)
  obtain ⟨here, -⟩ := Run.next?_ok before next
  exact (source_traced.supplies h.supplied h.earlier reading here).1

theorem le_linesRead (h : Traced files p) {location : Location}
    (reached : Reached p.history location) :
    location.line ≤ linesRead p.history location.path := by
  rcases reached with first | member
  · rw [first]
    exact Nat.zero_le _
  · exact LineTemplate.le_linesRead (h.earlier location member)

end Traced

end Progress

/-! ## Faults -/

namespace Run

variable {env : Environment} {files : Bindings Source} {history : List Reading} {run : Run}
  {source : Visit} {frames : List FileFrame} {n : Nat} {stop : Stop}

theorem start_failsAt (run : Run) (source : Visit) :
    FailsAt source.origin (run.start source) := by
  cases source with
  | replay r => exact failsAt_ok r.origin _
  | file f => exact (located_failsAt run f.origin _).bind fun _ => failsAt_ok _ _

theorem leave_failsAt (run : Run) (floors : Floors) (location : Location) :
    FailsAt location (run.leave floors location) := by
  unfold leave
  split
  · exact located_failsAt run location _
  · exact failsAt_ok location _

/-- Where a file is that is being read, the reading has been. -/
theorem reached_location {f : FileVisit} (traced : (Visit.file f).Traced files history n)
    (onTop : run.files.frames = (Visit.file f).frames n ++ frames) :
    Reached history (run.files.location?.getD f.origin) := by
  have here : run.files.location? = some ⟨f.key, n⟩ := by
    simp [FileStack.location?, onTop, Visit.frames, FileFrame.location]
  rw [here]
  cases n with
  | zero => exact .inl rfl
  | succ n => exact .inr (traced.2.2 n (Nat.lt_succ_self n))

theorem finish_error {outer : Run} (traced : source.Traced files history n)
    (onTop : run.files.frames = source.frames n ++ frames)
    (failed : outer.finish run source = .error stop) :
    ∃ location, stop.At location ∧ Reached history location := by
  cases source with
  | replay r =>
    refine ⟨_, ((leave_failsAt run outer.floors _).bind fun _ => failsAt_ok _ _) stop failed, ?_⟩
    cases last : r.body.getLast? with
    | none => exact traced.2
    | some line => exact .inr (location_mem_of_line_mem (traced.1 (List.mem_of_getLast? last)))
  | file f =>
    exact ⟨_, ((leave_failsAt run outer.floors _).bind fun _ => failsAt_ok _ _) stop failed,
      reached_location traced onTop⟩

end Run

namespace Progress

variable {env : Environment} {files : Bindings Source} {root : FileVisit} {p : Progress}
  {stop : Stop}

/-- A step that does not succeed ends with a fault. It is located at the line that is read, or
where the reading has been. -/
theorem Traced.next_error (h : Traced files p) (framed : Framed root p)
    (failed : p.next env = .error stop) :
    ∃ location, stop.At location ∧
      (∀ reading, p.upcoming? = some reading → location = reading.line.location) ∧
      (p.upcoming? = none → Reached p.history location) := by
  have frames := framed.frames
  have jobs := h.jobs
  unfold next at failed
  split at failed
  · cases failed
  · rename_i source levels rest current
    have idle : p.upcoming? = none := by simp [upcoming?, current]
    have traced : source.Traced files p.history 0 := jobs (.visit source levels) (by simp [current])
    exact ⟨source.origin, ((Run.start_failsAt p.run source).map _) stop failed, by simp [idle],
      fun _ => traced.origin⟩
  · rename_i outer source n levels rest current
    rw [current] at frames
    have traced : source.Traced files p.history n :=
      jobs (.read outer source n levels) (by simp [current])
    split at failed
    · rename_i atEnd
      have idle : p.upcoming? = none := by simp [upcoming?, current, atEnd]
      obtain ⟨location, at_, reached⟩ :=
        Run.finish_error traced frames (Outcome.map_eq_error.mp failed)
      exact ⟨location, at_, by simp [idle], fun _ => reached⟩
    · rename_i fault taken unreadable
      have idle : p.upcoming? = none := by simp [upcoming?, current, unreadable]
      cases source with
      | replay r =>
        obtain ⟨line, -, same⟩ := Option.map_eq_some_iff.mp unreadable
        cases same
      | file f =>
        exact ⟨_, Run.located_failsAt p.run _ (.error fault : Except Fault Progress) stop failed,
          by simp [idle], fun _ => Run.reached_location traced frames⟩
    · rename_i line taken supplied
      have read : p.upcoming? = some ⟨taken, line, rest.length⟩ := by
        simp [upcoming?, current, supplied]
      refine ⟨line.location, ((Run.route_failsAt taken env line).map _) stop failed, ?_, ?_⟩
      · intro reading same
        rw [read] at same
        cases same
        rfl
      · simp [read]

end Progress

namespace Engine

/-- What a run says about lines is true: those that are read, also again, and those that it keeps
stand in a file where they say, and so does every fault. -/
structure Truthful (engine : Engine) (files : Bindings Source) (key : Text) (source : Source)
    (origin : Location) : Prop where
  /-- The engine goes through the moments of which the others speak. -/
  moments : ∃ n, (∀ p, engine.moment key source origin n = .ok p → p.jobs = []) ∧
    engine.renderSource key source origin =
      (engine.moment key source origin n).map fun p =>
        { document := p.run.cursors.render, evaluations := p.run.evaluations }
  /-- A line that is handed to the run stands where it says. -/
  handed : ∀ n p reading, engine.moment key source origin n = .ok p →
    p.upcoming? = some reading → files.Supplies reading.line
  captured : ∀ n p c, engine.moment key source origin n = .ok p → c ∈ p.run.captures.captures →
    ∀ line ∈ c.newestFirst, files.Supplies line
  defined : ∀ n p name d, engine.moment key source origin n = .ok p →
    p.run.macros.get? name = some d → ∀ line ∈ d.body, files.Supplies line
  /-- What goes wrong in a line is located there. Any other fault is located at line 0, or at one of
  the lines that were read of its source. -/
  faults : ∀ stop, engine.renderSource key source origin = .error stop →
    ∃ n p location, engine.moment key source origin n = .ok p ∧ p.next engine.env = .error stop ∧
      stop.At location ∧
      (∀ reading, p.upcoming? = some reading → location = reading.line.location) ∧
      (p.upcoming? = none → location.line ≤ linesRead p.history location.path)

theorem truthful_of_serves {engine : Engine} {files : Bindings Source} {key : Text}
    {source : Source} {origin : Location}
    (serves : engine.env.Serves files { key, source, margin := [], origin })
    (first : origin.line = 0) : engine.Truthful files key source origin := by
  let root : FileVisit := { key, source, margin := [], origin }
  have invariant (n : Nat) (p : Progress) (reached : engine.moment key source origin n = .ok p) :
      p.Traced files ∧ Progress.Framed root p ∧ Recorded engine.env p.history p.run :=
    Progress.after_induction
      (P := fun p => p.Traced files ∧ Progress.Framed root p ∧ Recorded engine.env p.history p.run)
      ⟨.initial serves first engine.settings, .initial root engine.settings,
        .initial engine.settings⟩
      (fun _ _ ⟨traced, framed, recorded⟩ step =>
        ⟨traced.step serves framed recorded step, framed.step step, recorded.step step⟩)
      reached
  have stands {p : Progress} {line : Line} (traced : p.Traced files)
      (read : line ∈ p.history.map Reading.line) : files.Supplies line := by
    obtain ⟨reading, member, rfl⟩ := List.mem_map.mp read
    exact traced.supplied reading member
  constructor
  case moments => exact engine.renderSource_eq_moment key source origin
  case handed =>
    intro n p reading reached upcoming
    obtain ⟨traced, framed, -⟩ := invariant n p reached
    exact traced.upcoming framed upcoming
  case captured =>
    intro n p c reached member line captured
    obtain ⟨traced, -, -⟩ := invariant n p reached
    exact stands traced (traced.captured c member captured)
  case defined =>
    intro n p name d reached found line member
    obtain ⟨traced, -, recorded⟩ := invariant n p reached
    exact stands traced (recorded.body_subset found member)
  case faults =>
    intro stop failed
    obtain ⟨n, -, same⟩ := engine.renderSource_eq_moment key source origin
    rw [same] at failed
    obtain ⟨k, p, reached, last⟩ := Progress.after_error (Outcome.map_eq_error.mp failed)
    obtain ⟨traced, framed, -⟩ := invariant k p reached
    obtain ⟨location, located, atLine, elsewhere⟩ := traced.next_error framed last
    exact ⟨k, p, location, reached, last, located, atLine,
      fun idle => traced.le_linesRead (elsewhere idle)⟩

theorem memory_openKey {engine : Engine} {loaded : Bindings Source}
    (memory : engine.env.loader = .ofMemory loaded) {key : Text} {source : Source} :
    engine.env.loader.openKey key = .ok source ↔ loaded.get? key = some source := by
  rw [memory]
  dsimp only [Loader.ofMemory]
  cases loaded.get? key <;> simp

/-- The text of a template takes the place of a source that is held under its name. -/
theorem serves_insert {engine : Engine} {loaded : Bindings Source}
    (memory : engine.env.loader = .ofMemory loaded) {key : Text} {source : Source}
    {margin : Text} {origin : Location} :
    engine.env.Serves (loaded.insert key source) { key, source, margin, origin } where
  first := by rw [Bindings.get?_insert, if_pos rfl]
  others _ _ other opened := by
    rw [Bindings.get?_insert, if_neg other]
    exact (memory_openKey memory).mp opened

theorem serves_opened {engine : Engine} {loaded : Bindings Source}
    (memory : engine.env.loader = .ofMemory loaded) {path key : Text} {source : Source}
    (opening : engine.openPath path = .ok (key, source)) {margin : Text} {origin : Location} :
    engine.env.Serves loaded { key, source, margin, origin } := by
  obtain ⟨_, -, found⟩ := Outcome.bind_eq_ok.mp opening
  obtain ⟨_, opens, same⟩ := Outcome.bind_eq_ok.mp found
  cases same
  exact ⟨(memory_openKey memory).mp opens, fun _ _ _ => (memory_openKey memory).mp⟩

/-- All that an engine with sources in memory says about lines is true. The text of a template has
its own name, in place of a source that is held under that name. -/
theorem locations_true (engine : Engine) {loaded : Bindings Source}
    (memory : engine.env.loader = .ofMemory loaded) :
    (∀ name text,
      engine.renderText name text = engine.renderSource name (.ofText text) ⟨name, 0⟩ ∧
      engine.Truthful (loaded.insert name (.ofText text)) name (.ofText text) ⟨name, 0⟩) ∧
    ∀ path,
      (∃ fault : Fault, engine.renderPath path = .error (.fault (fault.at ⟨path, 0⟩) [])) ∨
      ∃ key source, loaded.get? key = some source ∧
        engine.renderPath path = engine.renderSource key source ⟨path, 0⟩ ∧
        engine.Truthful loaded key source ⟨path, 0⟩ := by
  refine ⟨fun name text => ⟨rfl, truthful_of_serves (serves_insert memory) rfl⟩, fun path => ?_⟩
  cases opening : engine.openPath path with
  | error fault => exact .inl ⟨fault, by simp only [renderPath, opening]⟩
  | ok opened =>
    obtain ⟨key, source⟩ := opened
    have serves : engine.env.Serves loaded { key, source, margin := [], origin := ⟨path, 0⟩ } :=
      serves_opened memory opening
    exact .inr ⟨key, source, serves.first, by simp only [renderPath, opening],
      truthful_of_serves serves rfl⟩

/-- An engine with a file that defines a macro, of which a line is no directive. -/
def withMacroFile : Engine where
  env :=
    { config := {}, tables := fun _ => none, evaluator := evaluateCondition
      loader := Loader.ofMemory ⟨[(['f'], .ofText "_MACRO m\n_#NOPE\n_END_MACRO".toList)]⟩ }

/-- The macro is called when its file is no longer read, and the fault is located in that file. -/
theorem locations_true_macro_file :
    withMacroFile.env.loader =
        .ofMemory ⟨[(['f'], .ofText "_MACRO m\n_#NOPE\n_END_MACRO".toList)]⟩ ∧
      withMacroFile.renderText ['t'] "_INCLUDE f\n_m".toList =
        .error (.fault ⟨.malformed (.unknownDirective "_#NOPE".toList), ⟨['f'], 2⟩⟩ []) ∧
      ∃ p reading,
        withMacroFile.moment ['t'] (.ofText "_INCLUDE f\n_m".toList) ⟨['t'], 0⟩ 9 = .ok p ∧
        p.upcoming? = some reading ∧ reading.line = ⟨"_#NOPE".toList, ⟨['f'], 2⟩⟩ ∧
        Bindings.Supplies
          (Bindings.insert ⟨[(['f'], .ofText "_MACRO m\n_#NOPE\n_END_MACRO".toList)]⟩ ['t']
            (.ofText "_INCLUDE f\n_m".toList)) reading.line := by
  refine ⟨rfl, by cbv, ?_⟩
  obtain ⟨-, truthful⟩ :=
    (locations_true withMacroFile rfl).1 ['t'] "_INCLUDE f\n_m".toList
  have last : (withMacroFile.moment ['t'] (.ofText "_INCLUDE f\n_m".toList) ⟨['t'], 0⟩ 9).map
      (fun p => p.upcoming?.map Reading.line) = .ok (some ⟨"_#NOPE".toList, ⟨['f'], 2⟩⟩) := by cbv
  obtain ⟨p, reached, upcoming⟩ := Outcome.map_eq_ok.mp last
  obtain ⟨reading, upcoming, line⟩ := Option.map_eq_some_iff.mp upcoming
  exact ⟨p, reading, reached, upcoming, line, truthful.handed 9 p reading reached upcoming⟩

end Engine

end LineTemplate
