import LineTemplate.Proofs.Sources.Depth
import LineTemplate.Proofs.Sources.Locations

/-!
# Cycles of includes

Without macros, only files go deeper. Then the depth of a run is the number of files in its stack,
less the one with which it began (`depth_of_includes`). No file is in the stack twice, so the stack
is no higher than the number of files that there are, and a cycle of includes is found as such
before the limit is reached.

Main statement: `cycles_caught`.
-/

namespace LineTemplate

/-- No line of a source begins the definition of a macro. -/
def Source.MacroFree (ind : Indicators) (source : Source) : Prop :=
  ∀ text, .ok text ∈ source → ind.role text ≠ some (.macroBody, .opens)

namespace Job

/-- Jobs of a run that calls no macro, up to the file with which it began. -/
inductive Includes : List Job → Prop where
  | root (outer : Run) (f : FileVisit) (n : Nat) : Includes [read outer (.file f) n 0]
  | included (outer : Run) (f : FileVisit) (n : Nat) {jobs : List Job} (beneath : Includes jobs) :
    Includes (read outer (.file f) n 1 :: jobs)
  | replayed (outer : Run) (r : Replay) (n : Nat) {jobs : List Job} (beneath : Includes jobs) :
    Includes (read outer (.replay r) n 0 :: jobs)
  | replay (r : Replay) {jobs : List Job} (beneath : Includes jobs) :
    Includes (visit (.replay r) 0 :: jobs)

/-- All jobs of such a run. A file that is to be started is the next thing to be done. -/
inductive CallFree : List Job → Prop where
  | ended : CallFree []
  | first (f : FileVisit) : CallFree [visit (.file f) 0]
  | starts (f : FileVisit) {jobs : List Job} (beneath : Includes jobs) :
    CallFree (visit (.file f) 1 :: jobs)
  | within {jobs : List Job} (includes : Includes jobs) : CallFree jobs

variable {jobs : List Job} {outer : Run} {source : Visit} {n levels : Nat} {task : Task}

theorem Includes.counted (h : Includes jobs) :
    callsAndIncludes jobs + 1 = (jobs.flatMap frames).length := by
  induction h with
  | root => rfl
  | included outer f n beneath ih =>
    rw [callsAndIncludes_cons, List.flatMap_cons, List.length_append, ← ih]
    simp [levels, frames, Visit.frames]
    omega
  | replayed _ _ _ beneath ih | replay _ beneath ih =>
    rw [callsAndIncludes_cons, List.flatMap_cons, List.length_append, ← ih]
    simp [levels, frames, Visit.frames]

theorem Includes.continued (h : Includes (read outer source n levels :: jobs)) (m : Nat) :
    Includes (read outer source m levels :: jobs) := by
  cases h with
  | root => exact .root outer _ m
  | included _ _ _ beneath => exact .included outer _ m beneath
  | replayed _ _ _ beneath => exact .replayed outer _ m beneath

theorem CallFree.includes (h : CallFree (read outer source n levels :: jobs)) :
    Includes (read outer source n levels :: jobs) := by
  cases h with
  | within includes => exact includes

theorem CallFree.started (h : CallFree (visit source levels :: jobs)) :
    CallFree (read outer source 0 levels :: jobs) := by
  cases h with
  | first f => exact .within (.root outer f 0)
  | starts f beneath => exact .within (.included outer f 0 beneath)
  | within includes =>
    cases includes with
    | replay r beneath => exact .within (.replayed outer r 0 beneath)

theorem CallFree.finished (h : CallFree (read outer source n levels :: jobs)) : CallFree jobs := by
  cases h.includes with
  | root => exact .ended
  | included _ _ _ beneath | replayed _ _ _ beneath => exact .within beneath

/-- What a line starts is done before the rest of its source. -/
theorem CallFree.read (h : CallFree (read outer source n levels :: jobs))
    (uncalled : ∀ r, task ≠ .call r) :
    CallFree (task.jobs ++ read outer source (n + 1) levels :: jobs) := by
  have rest := h.includes.continued (n + 1)
  cases task with
  | none => exact .within rest
  | iterate iterations =>
    refine .within ?_
    induction iterations with
    | nil => exact rest
    | cons r others ih => exact .replay r (ih nofun)
  | call r => exact absurd rfl (uncalled r)
  | includeFile f => exact .starts f rest

end Job

/-! ## Runs without macros -/

section

variable {env : Environment} {files : Bindings Source} {root : FileVisit} {p q : Progress}
  {reading : Reading}

/-- Without lines that begin a definition, no macro is known. -/
theorem Recorded.no_macros {history : List Reading} {run : Run} (h : Recorded env history run)
    (free : ∀ reading ∈ history, reading.role env ≠ some (.macroBody, .opens)) (name : Text) :
    run.macros.get? name = none := by
  rw [Option.eq_none_iff_forall_not_mem]
  intro d found
  obtain ⟨b, formals, ⟨later, ⟨before, split⟩, defines, -⟩, -⟩ := (h.table name d).mp found
  have member : b.first ∈ history := by simp [split, MacroBlock.readings]
  have role := Statement.classify_role env.config.indicators b.first.run.macros.contains
    b.first.line.text
  have meaning := defines.opens.meaning
  rw [Run.classify] at meaning
  rw [meaning] at role
  exact free b.first member role.symm

theorem Bindings.Supplies.role_ne {ind : Indicators} {line : Line} (h : files.Supplies line)
    (free : ∀ key source, files.get? key = some source → source.MacroFree ind) :
    ind.role line.text ≠ some (.macroBody, .opens) := by
  obtain ⟨source, n, found, -, here⟩ := h
  exact free _ source found line.text (List.mem_of_getElem? here)

/-- What is known of a run at any moment. -/
structure Progress.Uncalled (env : Environment) (files : Bindings Source) (root : FileVisit)
    (p : Progress) : Prop where
  traced : p.Traced files
  framed : Progress.Framed root p
  recorded : Recorded env p.history p.run
  counts : Progress.Counts env p
  callFree : Job.CallFree p.jobs

namespace Progress.Uncalled

theorem initial (serves : env.Serves files root) (origin : root.origin.line = 0)
    (settings : Settings) :
    Uncalled env files root { jobs := [.visit (.file root) 0], run := { settings } } where
  traced := .initial serves origin settings
  framed := .initial root settings
  recorded := .initial settings
  counts := ⟨rfl, Nat.zero_le _⟩
  callFree := .first root

section

variable (free : ∀ key source, files.get? key = some source →
  source.MacroFree env.config.indicators)

include free

theorem no_macros (h : Uncalled env files root p) (name : Text) :
    p.run.macros.get? name = none :=
  h.recorded.no_macros (fun reading member => (h.traced.supplied reading member).role_ne free) name

theorem step (serves : env.Serves files root) (h : Uncalled env files root p)
    (step : Steps env p q) : Uncalled env files root q where
  traced := h.traced.step serves h.framed h.recorded step
  framed := h.framed.step step
  recorded := h.recorded.step step
  counts := h.counts.step step
  callFree := by
    have unknown := h.no_macros free
    have jobs := h.callFree
    cases step with
    | ended => exact jobs
    | started => exact jobs.started
    | @read outer run taken routed source n levels rest history line task next hr =>
      refine jobs.read fun r calls => ?_
      subst calls
      obtain ⟨files', taken_eq, -⟩ := Visit.files_of_next? next
      obtain ⟨name, arguments, directs⟩ := directs_of_call hr 0
      obtain ⟨d, args, found, -⟩ := directs.call_known hr
      dsimp only at found
      rw [taken_eq] at found
      cases (unknown name).symm.trans found
    | finished => exact jobs.finished

end

/-- Where a line is read, the files in the stack are what the depth says. -/
theorem depth_of_includes (h : Uncalled env files root p) (upcoming : p.upcoming? = some reading) :
    reading.run.depth + 1 = reading.run.files.frames.length ∧
      (reading.run.files.frames.map FileFrame.path).Nodup ∧
      ∀ frame ∈ reading.run.files.frames, ∃ source, files.get? frame.path = some source := by
  obtain ⟨outer, source, n, levels, jobs, current, -, next⟩ := eq_of_upcoming upcoming
  have before : p.run.files.frames = source.frames n ++ jobs.flatMap Job.frames := by
    rw [h.framed.frames, current]
    rfl
  obtain ⟨-, onTop, _, taken⟩ := Run.next?_ok before next
  have paths : reading.run.files.frames.map FileFrame.path =
      p.run.files.frames.map FileFrame.path := by
    rw [onTop, before, List.map_append, List.map_append, source.paths_frames (n + 1) n]
  have depth : reading.run.depth = p.run.depth := by rw [taken]
  have height : reading.run.files.frames.length = p.run.files.frames.length := by
    simpa using congrArg List.length paths
  have callFree := h.callFree
  rw [current] at callFree
  refine ⟨?_, paths ▸ h.framed.distinct, fun frame member => ?_⟩
  · rw [depth, height, h.counts.1, h.framed.frames, current]
    exact callFree.includes.counted
  · have known : frame.path ∈ p.run.files.frames.map FileFrame.path :=
      paths ▸ List.mem_map_of_mem member
    obtain ⟨frame', member', same⟩ := List.mem_map.mp known
    rw [h.framed.frames] at member'
    obtain ⟨job, inJobs, inFrames⟩ := List.mem_flatMap.mp member'
    have traced := h.traced.jobs job inJobs
    cases job with
    | visit => cases inFrames
    | read outer source n levels =>
      cases source with
      | replay => cases inFrames
      | file f =>
        obtain rfl := List.mem_singleton.mp inFrames
        exact ⟨f.source, same ▸ traced.1⟩

end Progress.Uncalled

end

/-! ## The height of the stack -/

/-- Different names of a map are no more than it has entries. -/
theorem Bindings.length_le_size {α : Type} {b : Bindings α} {names : List Text}
    (distinct : names.Nodup) (known : ∀ name ∈ names, ∃ a, b.get? name = some a) :
    names.length ≤ b.size := by
  have within : names ⊆ b.entries.map Prod.fst := by
    intro name member
    obtain ⟨a, found⟩ := known name member
    obtain ⟨before, after, entries, -⟩ := List.lookup_eq_some_iff.mp found
    simp [entries]
  calc names.length ≤ (b.entries.map Prod.fst).length :=
        (List.subperm_of_subset distinct within).length_le
    _ = b.size := List.length_map _

theorem Bindings.size_insert_le {α : Type} (b : Bindings α) (name : Text) (a : α) :
    (b.insert name a).size ≤ b.size + 1 :=
  Nat.succ_le_succ (List.length_filter_le _ _)

namespace Progress

variable {env : Environment} {files loaded : Bindings Source} {root : FileVisit} {p : Progress}
  {reading : Reading} {stop : Stop}

theorem Uncalled.shallow (h : Uncalled env files root p) (room : files.size ≤ env.config.maxDepth)
    (upcoming : p.upcoming? = some reading) : reading.run.depth < env.config.maxDepth := by
  obtain ⟨depth, distinct, known⟩ := h.depth_of_includes upcoming
  have height : (reading.run.files.frames.map FileFrame.path).length ≤ files.size := by
    refine Bindings.length_le_size distinct fun path member => ?_
    obtain ⟨frame, inStack, rfl⟩ := List.mem_map.mp member
    exact known frame inStack
  rw [List.length_map] at height
  omega

theorem start_not_tooDeep (run : Run) (source : Visit) :
    Avoids (Stop.FailsWith Fault.TooDeep) (run.start source) := by
  cases source with
  | replay r => exact .ok _
  | file f =>
    exact .bind (Run.located_avoids (Run.push?_avoids tooDeep_structural _ _ _)) fun _ _ => .ok _

theorem finish_not_tooDeep (outer run : Run) (source : Visit) :
    Avoids (Stop.FailsWith Fault.TooDeep) (outer.finish run source) := by
  have leaves (location : Location) :
      Avoids (Stop.FailsWith Fault.TooDeep) (run.leave outer.floors location) := by
    unfold Run.leave
    split
    · exact Run.located_avoids (.error (unmatched_not_tooDeep _))
    · exact .ok _
  cases source with
  | replay | file => exact .bind (leaves _) fun _ _ => .ok _

/-- Only a line at the limit exceeds it. -/
theorem next_not_tooDeep (memory : env.loader = .ofMemory loaded)
    (shallow : ∀ reading, p.upcoming? = some reading → reading.run.depth < env.config.maxDepth) :
    Avoids (Stop.FailsWith Fault.TooDeep) (p.next env) := by
  unfold next
  split
  · exact .ok _
  · exact (start_not_tooDeep _ _).map _
  · rename_i outer source n levels rest current
    split
    · exact (finish_not_tooDeep _ _ _).map _
    · rename_i fault taken unreadable
      obtain ⟨path, cause, rfl⟩ := Visit.unreadable_of_next? unreadable
      exact Run.located_avoids (.error (tooDeep_structural _))
    · rename_i line taken supplied
      have read : p.upcoming? = some ⟨taken, line, rest.length⟩ := by
        simp [upcoming?, current, supplied]
      exact (Run.route_not_tooDeep (shallow _ read) memory line).map _

end Progress

/-- An include of a file that is being read is a fault, if it is not too deep. -/
theorem Reading.Directs.include_active {env : Environment} {reading : Reading}
    {name path key : Text} {rest : Option Text} (h : reading.Directs env .includeFile name rest)
    (shallow : reading.run.depth < env.config.maxDepth)
    (names : reading.run.substitute env name = .ok path)
    (resolves : env.loader.resolve path (some reading.line.location.path)
      env.config.includeDirs = .ok key)
    (active : key ∈ reading.run.files.frames.map FileFrame.path) :
    reading.run.route env reading.line =
      .error (.fault ⟨.circularInclude key reading.run.files.chain, reading.line.location⟩
        reading.run.evaluations) := by
  have contains : reading.run.files.contains key = true :=
    (FileStack.contains_iff _ _).mpr active
  have descends : reading.run.descend env =
      .ok { reading.run with depth := reading.run.depth + 1 } := if_pos shallow
  have circular : reading.run.includeFile env name reading.line.indentation
      reading.line.location = .error (.circularInclude key reading.run.files.chain) := by
    unfold Run.includeFile
    rw [names, Outcome.ok_bind, descends, Outcome.ok_bind, resolves, Outcome.ok_bind,
      if_pos contains]
    rfl
  rw [h.route]
  dsimp only [Run.direct]
  rw [if_pos rfl, circular]
  rfl

namespace Engine

/-- Files that include each other are found to do so. At every line, the files that are being read
are different ones, and the depth is one less than their number. An include of one of them is a
circular include, and the limit is never exceeded. -/
structure CyclesCaught (engine : Engine) (key : Text) (source : Source) (origin : Location) :
    Prop where
  moments : ∃ n, (∀ p, engine.moment key source origin n = .ok p → p.jobs = []) ∧
    engine.renderSource key source origin =
      (engine.moment key source origin n).map fun p =>
        { document := p.run.cursors.render, evaluations := p.run.evaluations }
  counted : ∀ n p reading, engine.moment key source origin n = .ok p →
    p.upcoming? = some reading →
    (reading.run.files.frames.map FileFrame.path).Nodup ∧
      reading.run.depth + 1 = reading.run.files.frames.length
  caught : ∀ n p reading name rest path found, engine.moment key source origin n = .ok p →
    p.upcoming? = some reading → reading.Directs engine.env .includeFile name rest →
    reading.run.substitute engine.env name = .ok path →
    engine.env.loader.resolve path (some reading.line.location.path)
      engine.env.config.includeDirs = .ok found →
    found ∈ reading.run.files.frames.map FileFrame.path →
    p.next engine.env =
      .error (.fault ⟨.circularInclude found reading.run.files.chain, reading.line.location⟩
        reading.run.evaluations)
  never : ∀ limit location evaluations, engine.renderSource key source origin ≠
    .error (.fault ⟨.tooDeep limit, location⟩ evaluations)

theorem cyclesCaught_of_serves {engine : Engine} {files loaded : Bindings Source} {key : Text}
    {source : Source} {origin : Location} (memory : engine.env.loader = .ofMemory loaded)
    (serves : engine.env.Serves files { key, source, margin := [], origin })
    (first : origin.line = 0) (room : files.size ≤ engine.env.config.maxDepth)
    (free : ∀ key source, files.get? key = some source →
      source.MacroFree engine.env.config.indicators) :
    engine.CyclesCaught key source origin := by
  let root : FileVisit := { key, source, margin := [], origin }
  have invariant (n : Nat) (p : Progress) (reached : engine.moment key source origin n = .ok p) :
      p.Uncalled engine.env files root :=
    Progress.after_induction (.initial serves first engine.settings)
      (fun _ _ uncalled step => uncalled.step free serves step) reached
  constructor
  case moments => exact engine.renderSource_eq_moment key source origin
  case counted =>
    intro n p reading reached upcoming
    obtain ⟨depth, distinct, -⟩ := (invariant n p reached).depth_of_includes upcoming
    exact ⟨distinct, depth⟩
  case caught =>
    intro n p reading name rest path found reached upcoming directs names resolves active
    obtain ⟨_, _, _, _, _, -, next⟩ := Progress.next_of_upcoming engine.env upcoming
    have shallow := (invariant n p reached).shallow room upcoming
    rw [next, directs.include_active shallow names resolves active]
    rfl
  case never =>
    intro limit location evaluations failed
    obtain ⟨n, -, same⟩ := engine.renderSource_eq_moment key source origin
    rw [same] at failed
    obtain ⟨k, p, reached, last⟩ := Progress.after_error (Outcome.map_eq_error.mp failed)
    have avoids := Progress.next_not_tooDeep memory fun reading upcoming =>
      (invariant k p reached).shallow room upcoming
    exact avoids _ last ⟨_, _, rfl, limit, rfl⟩

/-- Cycles of includes are caught as such, if the limit is higher than the number of files, and no
line of a file or of the template begins the definition of a macro. -/
theorem cycles_caught (engine : Engine) {loaded : Bindings Source}
    (memory : engine.env.loader = .ofMemory loaded)
    (room : loaded.size < engine.env.config.maxDepth)
    (free : ∀ key source, loaded.get? key = some source →
      source.MacroFree engine.env.config.indicators) :
    (∀ name text, (Source.ofText text).MacroFree engine.env.config.indicators →
      engine.CyclesCaught name (.ofText text) ⟨name, 0⟩ ∧
      ∀ limit location evaluations, engine.renderText name text ≠
        .error (.fault ⟨.tooDeep limit, location⟩ evaluations)) ∧
    ∀ path,
      (∀ key source, engine.openPath path = .ok (key, source) →
        engine.CyclesCaught key source ⟨path, 0⟩) ∧
      ∀ limit location evaluations, engine.renderPath path ≠
        .error (.fault ⟨.tooDeep limit, location⟩ evaluations) := by
  constructor
  · intro name text freeText
    have caught : engine.CyclesCaught name (.ofText text) ⟨name, 0⟩ := by
      refine cyclesCaught_of_serves memory (serves_insert memory) rfl
        (Nat.le_trans (Bindings.size_insert_le ..) room) fun key source found => ?_
      rw [Bindings.get?_insert] at found
      split at found
      · cases found
        exact freeText
      · exact free key source found
    exact ⟨caught, caught.never⟩
  · intro path
    have caught (key : Text) (source : Source)
        (opening : engine.openPath path = .ok (key, source)) :
        engine.CyclesCaught key source ⟨path, 0⟩ :=
      cyclesCaught_of_serves memory (serves_opened memory opening) rfl (Nat.le_of_lt room) free
    refine ⟨caught, fun limit location evaluations failed => ?_⟩
    unfold renderPath at failed
    cases opening : engine.openPath path with
    | ok opened =>
      rw [opening] at failed
      exact (caught _ _ opening).never limit location evaluations failed
    | error fault =>
      rw [opening] at failed
      have opens : Avoids Fault.TooDeep (engine.openPath path) :=
        .bind (memory ▸ Run.resolve_avoids tooDeep_structural loaded _ _ _) fun key _ =>
          .bind (memory ▸ Run.openKey_avoids tooDeep_structural loaded key) fun _ _ => .ok _
      cases failed
      exact opens _ opening ⟨limit, rfl⟩

/-- Two files that include each other. -/
def mutualFiles : Bindings Source :=
  (Bindings.empty.insert ['a'] [.ok "_INCLUDE b".toList]).insert ['b'] [.ok "_INCLUDE a".toList]

def withMutual : Engine where
  env :=
    { config := { maxDepth := 3 }, tables := fun _ => none, evaluator := evaluateCondition
      loader := Loader.ofMemory mutualFiles }

/-- There are two files, so a limit of three is enough for the cycle to be found. -/
theorem cycles_caught_mutual :
    withMutual.env.loader = .ofMemory mutualFiles ∧
      mutualFiles.size < withMutual.env.config.maxDepth ∧
      (∀ key source, mutualFiles.get? key = some source →
        source.MacroFree withMutual.env.config.indicators) ∧
      withMutual.renderPath ['a'] =
        .error (.fault ⟨.circularInclude ['a'] [['a'], ['b']], ⟨['b'], 1⟩⟩ []) ∧
      ∀ limit location evaluations, withMutual.renderPath ['a'] ≠
        .error (.fault ⟨.tooDeep limit, location⟩ evaluations) := by
  have includes (file : Char) (known : file = 'a' ∨ file = 'b') :
      Source.MacroFree withMutual.env.config.indicators [.ok ("_INCLUDE ".toList ++ [file])] := by
    intro text member
    cases List.mem_singleton.mp member
    have role : withMutual.env.config.indicators.role ("_INCLUDE ".toList ++ [file]) = none := by
      rcases known with rfl | rfl <;> cbv
    rw [role]
    exact (Option.some_ne_none _).symm
  have free : ∀ key source, mutualFiles.get? key = some source →
      source.MacroFree withMutual.env.config.indicators := by
    intro key source found
    rw [mutualFiles, Bindings.get?_insert, Bindings.get?_insert] at found
    split at found
    · cases found
      exact includes 'a' (.inl rfl)
    · split at found
      · cases found
        exact includes 'b' (.inr rfl)
      · cases found
  have room : mutualFiles.size < withMutual.env.config.maxDepth := by decide
  obtain ⟨-, never⟩ := (cycles_caught withMutual rfl room free).2 ['a']
  exact ⟨rfl, room, free, by cbv, never⟩

end Engine

end LineTemplate
