import LineTemplate.Proofs.Sources.Moments
import LineTemplate.Proofs.Sources.Termination

/-!
# The progress of a run

A run as a sequence of small steps, each of which starts a source, reads a line or ends a source.
What is still to be done is a list of jobs, and the lines that were read are recorded in order,
whichever sources they came from.

The steps lead to the same document or fault as the recursion of the engine
(`renderSource_eq_moment`). Lines that are replayed are read to the last one, whatever happens in
the meantime (`replay_whole`).
-/

namespace LineTemplate

/-- Something that is still to be done. At the end of the source, so many calls and includes end. -/
inductive Job where
  | visit (source : Visit) (levels : Nat)
  /-- The source was started in the state `outer`, and `n` of its lines have been read. -/
  | read (outer : Run) (source : Visit) (n levels : Nat)

def Task.jobs : Task → List Job
  | none => []
  | iterate iterations => iterations.map fun r => .visit (.replay r) 0
  | call r => [.visit (.replay r) 1]
  | includeFile f => [.visit (.file f) 1]

def Visit.origin : Visit → Location
  | replay r => r.origin
  | file f => f.origin

def Run.ascend (levels : Nat) (run : Run) : Run :=
  { run with depth := run.depth - levels }

theorem Run.ascend_zero : ascend 0 = id := rfl

/-- A line that was read, and the state in which it was. The level is the number of jobs that were
to be done after its source. -/
structure Reading where
  run : Run
  line : Line
  level : Nat

def linesAt (level : Nat) (readings : List Reading) : List Line :=
  (readings.filter (·.level = level)).map Reading.line

section

variable {level : Nat} {reading : Reading}

theorem linesAt_append (readings readings' : List Reading) :
    linesAt level (readings ++ readings') = linesAt level readings ++ linesAt level readings' := by
  simp [linesAt]

theorem linesAt_same (h : reading.level = level) : linesAt level [reading] = [reading.line] := by
  simp [linesAt, h]

theorem linesAt_other (h : reading.level ≠ level) : linesAt level [reading] = [] := by
  simp [linesAt, h]

end

structure Progress where
  /-- What is still to be done, the next thing first. -/
  jobs : List Job
  run : Run
  /-- What has been read so far, the last line last. -/
  history : List Reading := []

namespace Progress

/-- The line that is read in the next step. -/
def upcoming? (p : Progress) : Option Reading :=
  match p.jobs with
  | .read _ source n _ :: jobs =>
    match source.next? n p.run with
    | some (.ok line, taken) => some ⟨taken, line, jobs.length⟩
    | _ => none
  | _ => none

/-- One step. A run that is at its end stays there. -/
def next (env : Environment) (p : Progress) : Except Stop Progress :=
  match p.jobs with
  | [] => .ok p
  | .visit source levels :: jobs =>
    (p.run.start source).map fun run =>
      { p with jobs := .read p.run source 0 levels :: jobs, run }
  | .read outer source n levels :: jobs =>
    match source.next? n p.run with
    | none => (outer.finish p.run source).map fun run => { p with jobs, run := run.ascend levels }
    | some (.error fault, _) =>
      p.run.located (p.run.files.location?.getD source.origin) (.error fault)
    | some (.ok line, taken) =>
      (taken.route env line).map fun (run, task) =>
        { jobs := task.jobs ++ .read outer source (n + 1) levels :: jobs, run
          history := p.history ++ [⟨taken, line, jobs.length⟩] }

/-- So many steps. -/
def after (env : Environment) (p : Progress) : Nat → Except Stop Progress
  | 0 => .ok p
  | n + 1 => p.after env n >>= next env

/-- What a step that succeeds can do. -/
inductive Steps (env : Environment) : Progress → Progress → Prop where
  | ended {run : Run} {history : List Reading} :
    Steps env ⟨[], run, history⟩ ⟨[], run, history⟩
  | started {source : Visit} {levels : Nat} {jobs : List Job} {run run' : Run}
      {history : List Reading} (hs : run.start source = .ok run') :
    Steps env ⟨.visit source levels :: jobs, run, history⟩
      ⟨.read run source 0 levels :: jobs, run', history⟩
  | read {outer run taken routed : Run} {source : Visit} {n levels : Nat} {jobs : List Job}
      {history : List Reading} {line : Line} {task : Task}
      (next : source.next? n run = some (.ok line, taken))
      (hr : taken.route env line = .ok (routed, task)) :
    Steps env ⟨.read outer source n levels :: jobs, run, history⟩
      ⟨task.jobs ++ .read outer source (n + 1) levels :: jobs, routed,
        history ++ [⟨taken, line, jobs.length⟩]⟩
  | finished {outer run run' : Run} {source : Visit} {n levels : Nat} {jobs : List Job}
      {history : List Reading} (atEnd : source.next? n run = none)
      (hf : outer.finish run source = .ok run') :
    Steps env ⟨.read outer source n levels :: jobs, run, history⟩
      ⟨jobs, run'.ascend levels, history⟩

section

variable {env : Environment} {p q : Progress}

theorem steps_of_next (h : p.next env = .ok q) : Steps env p q := by
  obtain ⟨jobs, run, history⟩ := p
  unfold next at h
  split at h
  · rename_i ended
    cases ended
    cases h
    exact .ended
  · rename_i source levels rest first
    cases first
    obtain ⟨run', hs, rfl⟩ := Outcome.map_eq_ok.mp h
    exact .started hs
  · rename_i outer source n levels rest first
    cases first
    split at h
    · rename_i atEnd
      obtain ⟨run', hf, rfl⟩ := Outcome.map_eq_ok.mp h
      exact .finished atEnd hf
    · cases h
    · rename_i line taken supplied
      obtain ⟨⟨routed, task⟩, hr, rfl⟩ := Outcome.map_eq_ok.mp h
      exact .read supplied hr

theorem eq_of_upcoming {reading : Reading} (h : p.upcoming? = some reading) :
    ∃ outer source n levels jobs, p.jobs = .read outer source n levels :: jobs ∧
      reading.level = jobs.length ∧
      source.next? n p.run = some (.ok reading.line, reading.run) := by
  unfold upcoming? at h
  split at h
  · rename_i outer source n levels jobs current
    split at h
    · rename_i line taken supplied
      cases h
      exact ⟨outer, source, n, levels, jobs, current, rfl, supplied⟩
    · cases h
  · cases h

theorem next_of_upcoming (env : Environment) {reading : Reading} (h : p.upcoming? = some reading) :
    ∃ outer source n levels jobs, p.jobs = .read outer source n levels :: jobs ∧
      p.next env = (reading.run.route env reading.line).map fun (run, task) =>
        { jobs := task.jobs ++ .read outer source (n + 1) levels :: jobs, run
          history := p.history ++ [reading] } := by
  obtain ⟨outer, source, n, levels, jobs, current, level, supplied⟩ := eq_of_upcoming h
  obtain ⟨taken, line, _⟩ := reading
  cases level
  refine ⟨outer, source, n, levels, jobs, current, ?_⟩
  simp only [next, current, supplied]

theorem after_add (p : Progress) (n k : Nat) :
    p.after env (n + k) = p.after env n >>= (·.after env k) := by
  induction k with
  | zero =>
    cases p.after env n with
    | error e => simp
    | ok q => simp [after]
  | succ k ih =>
    rw [← Nat.add_assoc, after, ih]
    cases p.after env n with
    | error e => rfl
    | ok q => rfl

theorem after_succ (p : Progress) (n : Nat) :
    p.after env (n + 1) = p.next env >>= (·.after env n) := by
  rw [Nat.add_comm, after_add]
  rfl

/-- A run that does not succeed goes wrong in one of its steps. -/
theorem after_error {stop : Stop} {n : Nat} (h : p.after env n = .error stop) :
    ∃ k q, p.after env k = .ok q ∧ q.next env = .error stop := by
  induction n with
  | zero => cases h
  | succ n ih =>
    rcases Outcome.bind_eq_error.mp h with h | ⟨q, reached, failed⟩
    · exact ih h
    · exact ⟨n, q, reached, failed⟩

/-- What holds at first, and after every step at which it held before, holds after any number of
steps. -/
theorem after_induction {P : Progress → Prop} (initial : P p)
    (step : ∀ q q', P q → Steps env q q' → P q') {n : Nat} (h : p.after env n = .ok q) : P q := by
  induction n generalizing q with
  | zero =>
    cases h
    exact initial
  | succ n ih =>
    obtain ⟨before, reached, last⟩ := Outcome.bind_eq_ok.mp h
    exact step before q (ih reached) (steps_of_next last)

end

/-! ## The steps and the recursion -/

/-- Unless that ran out, the steps from here lead to where only `jobs` are left, and the outcome is
`x`. -/
def Leads (env : Environment) (p : Progress) (jobs : List Job) (x : Outcome) : Prop :=
  x ≠ .error .exhausted →
    ∃ n log, p.after env n = x.map fun run => ⟨jobs, run, p.history ++ log⟩

/-- To do the jobs is to do what `visitor` does. -/
def Performs (env : Environment) (todo : List Job) (visitor : Run → Outcome) : Prop :=
  ∀ run jobs history, Leads env ⟨todo ++ jobs, run, history⟩ jobs (visitor run)

section

variable {env : Environment} {p : Progress} {jobs between : List Job} {x : Outcome}
  {y : Run → Outcome}

theorem Leads.refl (jobs : List Job) (run : Run) (history : List Reading) :
    Leads env ⟨jobs, run, history⟩ jobs (.ok run) :=
  fun _ => ⟨0, [], by rw [List.append_nil]; rfl⟩

theorem Leads.bind (h : Leads env p between x)
    (hy : ∀ run history, x = .ok run → Leads env ⟨between, run, history⟩ jobs (y run)) :
    Leads env p jobs (x >>= y) := by
  intro finished
  cases x with
  | error e =>
    obtain ⟨n, log, first⟩ := h (by simpa using finished)
    exact ⟨n, log, first⟩
  | ok run =>
    obtain ⟨n, log, first⟩ := h nofun
    obtain ⟨k, log', second⟩ := hy run (p.history ++ log) rfl finished
    refine ⟨n + k, log ++ log', ?_⟩
    rw [after_add, first, Outcome.map_ok, Outcome.ok_bind, second, List.append_assoc]
    rfl

/-- The rest of the steps, after the first one. -/
theorem Leads.of_next {α : Type} {first : Except Stop α} {second : α → Progress} {y : α → Outcome}
    (h : p.next env = first.map second)
    (rest : ∀ a, first = .ok a →
      (∃ log, (second a).history = p.history ++ log) ∧ Leads env (second a) jobs (y a)) :
    Leads env p jobs (first >>= y) := by
  intro finished
  cases first with
  | error e => exact ⟨1, [], by rw [after_succ, h]; rfl⟩
  | ok a =>
    obtain ⟨⟨log, history⟩, leads⟩ := rest a rfl
    obtain ⟨n, log', later⟩ := leads finished
    refine ⟨n + 1, log ++ log', ?_⟩
    rw [after_succ, h, Outcome.map_ok, Outcome.ok_bind, later, history, List.append_assoc]
    rfl

theorem Performs.nil : Performs env [] .ok :=
  fun run jobs history => .refl jobs run history

theorem Performs.append {todo todo' : List Job} {visitor visitor' : Run → Outcome}
    (h : Performs env todo visitor) (h' : Performs env todo' visitor') :
    Performs env (todo ++ todo') fun run => visitor run >>= visitor' := by
  intro run jobs history
  rw [List.append_assoc]
  exact (h run (todo' ++ jobs) history).bind fun run' history' _ => h' run' jobs history'

end

section

variable {env : Environment} {loops deeper : Run → Visit → Outcome} {outer : Run} {source : Visit}
  {n levels : Nat}

theorem performs_task (hl : ∀ source, Performs env [.visit source 0] (loops · source))
    (hd : ∀ source, Performs env [.visit source 1] fun run => (deeper run source).map (Run.ascend 1))
    (task : Task) : Performs env task.jobs fun run => run.perform loops deeper task := by
  cases task with
  | none => exact .nil
  | iterate iterations =>
    induction iterations with
    | nil => exact .nil
    | cons r rest ih => exact (hl (.replay r)).append ih
  | call r => exact hd (.replay r)
  | includeFile f => exact hd (.file f)

theorem leads_finish {run : Run} (atEnd : source.next? n run = none) (jobs : List Job)
    (history : List Reading) :
    Leads env ⟨.read outer source n levels :: jobs, run, history⟩ jobs
      ((outer.finish run source).map (Run.ascend levels)) := by
  have last : next env ⟨.read outer source n levels :: jobs, run, history⟩ =
      (outer.finish run source).map fun run => ⟨jobs, run.ascend levels, history⟩ := by
    simp only [next, atEnd]
  rw [Outcome.map_eq_bind]
  exact .of_next last fun run _ => ⟨⟨[], (List.append_nil _).symm⟩, .refl jobs _ history⟩

section

variable (hl : ∀ source, Performs env [.visit source 0] (loops · source))
  (hd : ∀ source, Performs env [.visit source 1] fun run => (deeper run source).map (Run.ascend 1))

include hl hd

/-- A line that is read, with all that it starts. -/
theorem leads_line {run taken : Run} {line : Line} {rest : Run → Outcome}
    (supplied : source.next? n run = some (.ok line, taken))
    (further : Performs env [.read outer source (n + 1) levels] rest) (jobs : List Job)
    (history : List Reading) :
    Leads env ⟨.read outer source n levels :: jobs, run, history⟩ jobs
      (Run.process env loops deeper taken line >>= rest) := by
  have first : next env ⟨.read outer source n levels :: jobs, run, history⟩ =
      (taken.route env line).map fun routed =>
        ⟨routed.2.jobs ++ .read outer source (n + 1) levels :: jobs, routed.1,
          history ++ [⟨taken, line, jobs.length⟩]⟩ := by
    simp only [next, supplied]
  rw [Run.process, bind_assoc]
  exact .of_next first fun routed _ => ⟨⟨_, rfl⟩,
    (performs_task hl hd routed.2 routed.1 _ _).bind fun run' history' _ =>
      further run' jobs history'⟩

theorem performs_replay {r : Replay} {rest : List Line} (drop : r.body.drop n = rest) :
    Performs env [.read outer (.replay r) n levels] fun run =>
      rest.foldlM (Run.process env loops deeper) run >>= fun finished =>
        (outer.finish finished (.replay r)).map (Run.ascend levels) := by
  induction rest generalizing n with
  | nil =>
    intro run jobs history
    have atEnd : (Visit.replay r).next? n run = none := by
      simp [Visit.next?, List.drop_eq_nil_iff.mp drop]
    exact leads_finish atEnd jobs history
  | cons line rest ih =>
    intro run jobs history
    have supplied : (Visit.replay r).next? n run = some (.ok line, run) := by
      simp [Visit.next?, ← List.head?_drop, drop]
    have drop' : r.body.drop (n + 1) = rest := by rw [← List.tail_drop, drop, List.tail_cons]
    simp only [List.foldlM_cons, bind_assoc]
    exact leads_line hl hd supplied (ih drop') jobs history

theorem performs_file (f : FileVisit) (bound : Nat) :
    Performs env [.read outer (.file f) n levels] fun run =>
      Run.readFile (Run.process env loops deeper) f.origin bound run >>= fun finished =>
        (outer.finish finished (.file f)).map (Run.ascend levels) := by
  induction bound generalizing n with
  | zero => exact fun _ _ _ finished => absurd rfl finished
  | succ bound ih =>
    intro run jobs history
    dsimp only [Run.readFile]
    split
    · rename_i supplied
      have atEnd : (Visit.file f).next? n run = none := by simp [Visit.next?, supplied]
      exact leads_finish atEnd jobs history
    · rename_i fault files supplied
      have unreadable : (Visit.file f).next? n run = some (.error fault, { run with files }) := by
        simp [Visit.next?, supplied]
      refine fun _ => ⟨1, [], ?_⟩
      rw [after_succ]
      simp only [next, List.cons_append, unreadable]
      rfl
    · rename_i line files supplied
      have next : (Visit.file f).next? n run = some (.ok line, { run with files }) := by
        simp [Visit.next?, supplied]
      rw [bind_assoc]
      exact leads_line hl hd next ih jobs history

theorem performs_visit (bound : Nat) (source : Visit) (levels : Nat) :
    Performs env [.visit source levels] fun run =>
      (run.visit (Run.process env loops deeper) bound source).map (Run.ascend levels) := by
  intro run jobs history
  have lines : Performs env [.read run source 0 levels] fun started =>
      started.read (Run.process env loops deeper) bound source >>= fun finished =>
        (run.finish finished source).map (Run.ascend levels) := by
    cases source with
    | replay r => exact performs_replay hl hd (List.drop_zero ..)
    | file f => exact performs_file hl hd f bound
  have first : next env ⟨.visit source levels :: jobs, run, history⟩ =
      (run.start source).map fun started => ⟨.read run source 0 levels :: jobs, started, history⟩ :=
    rfl
  simp only [Run.visit, Outcome.map_bind]
  exact .of_next first fun started _ =>
    ⟨⟨[], (List.append_nil _).symm⟩, lines started jobs history⟩

end

/-- Whatever the bounds are, the steps do what the recursion does. -/
theorem performs_visitBelow (env : Environment) (depth : Nat) (source : Visit) (levels : Nat) :
    Performs env [.visit source levels] fun run =>
      (Run.visitBelow env depth run source).map (Run.ascend levels) :=
  Run.visitBelow_induction
    (Q := fun source visitor => ∀ levels, Performs env [.visit source levels] fun run =>
      (visitor run).map (Run.ascend levels))
    (fun _ _ _ _ _ finished => absurd rfl finished)
    (fun _ _ bound hl hd source levels =>
      performs_visit (fun source => by simpa [Run.ascend_zero] using hl source 0)
        (fun source => hd source 1) bound source levels)
    depth source levels

end

/-! ## Lines that are replayed -/

/-- Of a replay above the jobs `base`, the first `n` lines have been read since the history was
`past`. -/
def Replaying (r : Replay) (base : List Job) (past : List Reading) (p : Progress) : Prop :=
  ∃ inner outer n levels log,
    p.jobs = inner ++ .read outer (.replay r) n levels :: base ∧ p.history = past ++ log ∧
      linesAt base.length log = r.body.take n

/-- A replay has come to its end, and all of its lines have been read since the history was
`past`. -/
def Replayed (r : Replay) (base : List Job) (past : List Reading) (p : Progress) : Prop :=
  p.jobs = base ∧ ∃ log, p.history = past ++ log ∧ linesAt base.length log = r.body

section

variable {env : Environment} {p q : Progress} {r : Replay} {base : List Job} {past : List Reading}

/-- No step ends a replay before its last line, or reads another line in its place. -/
theorem Replaying.step (h : Replaying r base past p) (step : Steps env p q) :
    Replaying r base past q ∨ Replayed r base past q := by
  obtain ⟨jobs', run', history'⟩ := p
  obtain ⟨inner, outer, n, levels, log, jobs, history, lines⟩ := h
  cases history
  cases inner with
  | nil =>
    cases step with
    | ended => cases jobs
    | started => cases jobs
    | @read _ _ taken _ _ _ _ rest _ line task next =>
      cases jobs
      left
      obtain ⟨_, found, same⟩ := Option.map_eq_some_iff.mp next
      cases same
      refine ⟨task.jobs, outer, n + 1, levels, _, rfl, List.append_assoc .., ?_⟩
      have read : linesAt base.length [⟨run', line, base.length⟩] = [line] := linesAt_same rfl
      rw [linesAt_append, lines, read, List.take_add_one, found]
      rfl
    | finished atEnd =>
      cases jobs
      right
      have short : r.body.length ≤ n := by simpa [Visit.next?] using atEnd
      exact ⟨rfl, log, rfl, by rw [lines, List.take_of_length_le short]⟩
  | cons job inner =>
    left
    cases step with
    | ended => cases jobs
    | @started source levels' =>
      cases jobs
      exact ⟨.read _ source 0 levels' :: inner, outer, n, levels, log, rfl, rfl, lines⟩
    | @read outer' _ taken _ source n' levels' _ _ line task =>
      cases jobs
      refine ⟨task.jobs ++ .read outer' source (n' + 1) levels' :: inner, outer, n, levels, _,
        by simp, List.append_assoc .., ?_⟩
      rw [linesAt_append, lines, linesAt_other (by simp; omega), List.append_nil]
    | finished =>
      cases jobs
      exact ⟨inner, outer, n, levels, log, rfl, rfl, lines⟩

/-- A replay is read line by line until its last line has been read, and only then it ends. What its
lines do plays no part. -/
theorem replay_whole {run : Run} {levels k : Nat}
    (h : after env ⟨.visit (.replay r) levels :: base, run, past⟩ k = .ok q) :
    (base.length < q.jobs.length ∧
      ∃ log, q.history = past ++ log ∧ linesAt base.length log <+: r.body) ∨
    ∃ k' ≤ k, ∃ ended, after env ⟨.visit (.replay r) levels :: base, run, past⟩ k' = .ok ended ∧
      Replayed r base past ended := by
  have progress : q = ⟨.visit (.replay r) levels :: base, run, past⟩ ∨ Replaying r base past q ∨
      ∃ k' ≤ k, ∃ ended, after env ⟨.visit (.replay r) levels :: base, run, past⟩ k' = .ok ended ∧
        Replayed r base past ended := by
    induction k generalizing q with
    | zero =>
      cases h
      exact .inl rfl
    | succ k ih =>
      obtain ⟨before, reached, last⟩ := Outcome.bind_eq_ok.mp h
      have step := steps_of_next last
      rcases ih reached with rfl | replaying | ⟨k', le, ended⟩
      · cases step with
        | started => exact .inr (.inl ⟨[], run, 0, levels, [], rfl, (List.append_nil _).symm, rfl⟩)
      · rcases replaying.step step with replaying | replayed
        · exact .inr (.inl replaying)
        · exact .inr (.inr ⟨k + 1, Nat.le_refl _, q, h, replayed⟩)
      · exact .inr (.inr ⟨k', Nat.le_succ_of_le le, ended⟩)
  rcases progress with rfl | ⟨inner, outer, n, levels', log, jobs, history, lines⟩ | ended
  · exact .inl ⟨by simp, [], (List.append_nil _).symm, List.nil_prefix⟩
  · refine .inl ⟨by rw [jobs]; simp; omega, log, history, ?_⟩
    rw [lines]
    exact List.take_prefix ..
  · exact .inr ended

end

end Progress

namespace Engine

/-- The run that renders a source, after so many steps. -/
def moment (engine : Engine) (key : Text) (source : Source) (origin : Location) (n : Nat) :
    Except Stop Progress :=
  Progress.after engine.env
    { jobs := [.visit (engine.entry key source origin).source 0]
      run := (engine.entry key source origin).outer } n

/-- The moments of a run lead to the end of the source, or to the fault that the engine finds. -/
theorem renderSource_eq_moment (engine : Engine) (key : Text) (source : Source)
    (origin : Location) :
    ∃ n, (∀ p, engine.moment key source origin n = .ok p → p.jobs = []) ∧
      engine.renderSource key source origin =
        (engine.moment key source origin n).map fun p =>
          { document := p.run.cursors.render, evaluations := p.run.evaluations } := by
  have leads := Progress.performs_visitBelow engine.env (engine.env.config.maxDepth + 1)
    (engine.entry key source origin).source 0 (engine.entry key source origin).outer [] []
  have enough := engine.renderSource_ne_exhausted key source origin
  obtain ⟨n, log, reached⟩ := leads fun ranOut =>
    enough (Outcome.map_eq_error.mpr (Outcome.map_eq_error.mp ranOut))
  have last : engine.moment key source origin n = _ := reached
  refine ⟨n, ?_, ?_⟩
  · intro p h
    obtain ⟨run, -, rfl⟩ := Outcome.map_eq_ok.mp (last.symm.trans h)
    rfl
  · rw [last, Outcome.map_map, Outcome.map_map]
    rfl

end Engine

end LineTemplate
