import LineTemplate.Proofs.Sources.Progress

/-!
# The files of a run

The files that are being read follow from what is still to be done: the stack of files has a frame
for every file that was started and has not ended, with what that file has still to supply. No file
is in the stack twice, and the one with which the run began is in it as long as anything is.
-/

namespace LineTemplate

/-- The frames that a job has on the stack of files. -/
def Job.frames : Job → List FileFrame
  | visit .. => []
  | read _ source n _ => source.frames n

namespace Job

theorem frames_task (task : Task) : task.jobs.flatMap frames = [] := by
  cases task with
  | iterate iterations => simp [Task.jobs, frames, List.flatMap_map]
  | none | call | includeFile => rfl

/-- The last of the jobs is to read the file `root`. -/
def Rooted (root : FileVisit) (jobs : List Job) : Prop :=
  jobs = [] ∨ jobs = [visit (.file root) 0] ∨
    ∃ front outer n, jobs = front ++ [read outer (.file root) n 0]

variable {root : FileVisit} {jobs : List Job} {outer : Run} {source : Visit} {n levels : Nat}

theorem Rooted.started (h : Rooted root (visit source levels :: jobs)) :
    Rooted root (read outer source 0 levels :: jobs) := by
  rcases h with h | h | ⟨front, first, m, h⟩
  · cases h
  · cases h
    exact .inr (.inr ⟨[], outer, 0, rfl⟩)
  · cases front with
    | nil => cases h
    | cons job front =>
      cases h
      exact .inr (.inr ⟨read outer source 0 levels :: front, first, m, rfl⟩)

theorem Rooted.continued (h : Rooted root (read outer source n levels :: jobs))
    (further : List Job) (m : Nat) :
    Rooted root (further ++ read outer source m levels :: jobs) := by
  rcases h with h | h | ⟨front, first, k, h⟩
  · cases h
  · cases h
  · cases front with
    | nil =>
      cases h
      exact .inr (.inr ⟨further, outer, m, rfl⟩)
    | cons job front =>
      cases h
      exact .inr (.inr ⟨further ++ read outer source m levels :: front, first, k, by simp⟩)

theorem Rooted.finished (h : Rooted root (read outer source n levels :: jobs)) :
    Rooted root jobs := by
  rcases h with h | h | ⟨front, first, m, h⟩
  · cases h
  · cases h
  · cases front with
    | nil =>
      cases h
      exact .inl rfl
    | cons job front =>
      cases h
      exact .inr (.inr ⟨front, first, m, rfl⟩)

/-- While a source is read, the file `root` is being read. -/
theorem Rooted.mem_frames (h : Rooted root (read outer source n levels :: jobs)) :
    root.key ∈ ((read outer source n levels :: jobs).flatMap frames).map FileFrame.path := by
  rcases h with h | h | ⟨front, first, m, h⟩
  · cases h
  · cases h
  · rw [h]
    simp [frames, Visit.frames]

end Job

theorem FileStack.contains_iff (s : FileStack) (path : Text) :
    s.contains path = true ↔ path ∈ s.frames.map FileFrame.path := by
  simp [contains]

namespace Run

variable {outer run taken started after : Run} {source : Visit} {n : Nat} {line : Line}
  {frames : List FileFrame}

/-- A source that is started puts its frames on top, and a file that is being read is not
started. -/
theorem start_frames (h : run.start source = .ok started) :
    started.files.frames = source.frames 0 ++ run.files.frames ∧
      ((run.files.frames.map FileFrame.path).Nodup →
        (started.files.frames.map FileFrame.path).Nodup) := by
  cases source with
  | replay r =>
    cases h
    exact ⟨rfl, id⟩
  | file f =>
    obtain ⟨files, pushed, h⟩ := Outcome.bind_eq_ok.mp h
    cases h
    replace pushed := located_eq_ok.mp pushed
    unfold FileStack.push? at pushed
    split at pushed
    · cases pushed
    · rename_i new
      cases pushed
      rw [FileStack.contains_iff] at new
      exact ⟨rfl, fun distinct => List.nodup_cons.mpr ⟨new, distinct⟩⟩

/-- A source that ends takes its frames away. -/
theorem finish_frames (h : run.files.frames = source.frames n ++ frames)
    (hf : outer.finish run source = .ok after) : after.files.frames = frames := by
  cases source with
  | replay r =>
    obtain ⟨left, hl, hf⟩ := Outcome.bind_eq_ok.mp hf
    cases hf
    obtain ⟨-, rfl⟩ := leave_eq_ok.mp hl
    exact h
  | file f =>
    obtain ⟨left, hl, hf⟩ := Outcome.bind_eq_ok.mp hf
    cases hf
    obtain ⟨-, rfl⟩ := leave_eq_ok.mp hl
    simp [FileStack.pop?, h, Visit.frames]

end Run

theorem Visit.paths_frames (source : Visit) (n m : Nat) :
    (source.frames n).map FileFrame.path = (source.frames m).map FileFrame.path := by
  cases source <;> rfl

namespace Progress

/-- The stack of files is that of the jobs, without a file twice. The run began with `root`. -/
structure Framed (root : FileVisit) (p : Progress) : Prop where
  frames : p.run.files.frames = p.jobs.flatMap Job.frames
  distinct : (p.run.files.frames.map FileFrame.path).Nodup
  rooted : Job.Rooted root p.jobs

namespace Framed

variable {env : Environment} {root : FileVisit} {p q : Progress}

theorem initial (root : FileVisit) (settings : Settings) :
    Framed root { jobs := [.visit (.file root) 0], run := { settings } } :=
  ⟨rfl, List.nodup_nil, .inr (.inl rfl)⟩

theorem step (h : Framed root p) (step : Steps env p q) : Framed root q := by
  obtain ⟨frames, distinct, rooted⟩ := h
  cases step with
  | ended => exact ⟨frames, distinct, rooted⟩
  | started hs =>
    obtain ⟨onTop, kept⟩ := Run.start_frames hs
    exact ⟨onTop.trans (congrArg _ frames), kept distinct, rooted.started⟩
  | @read outer run taken routed source n levels jobs history line task next hr =>
    have before : run.files.frames = source.frames n ++ jobs.flatMap Job.frames := frames
    obtain ⟨-, onTop, -⟩ := Run.next?_ok before next
    have files : routed.files = taken.files := (Run.effect_of_route hr).keeps.files
    have paths : taken.files.frames.map FileFrame.path = run.files.frames.map FileFrame.path := by
      rw [onTop, before, List.map_append, List.map_append, source.paths_frames (n + 1) n]
    constructor
    · change routed.files.frames = _
      rw [files, onTop, List.flatMap_append, Job.frames_task]
      rfl
    · change (routed.files.frames.map FileFrame.path).Nodup
      rw [files, paths]
      exact distinct
    · exact rooted.continued task.jobs (n + 1)
  | @finished outer run run' source n levels jobs history atEnd hf =>
    have left : run'.files.frames = jobs.flatMap Job.frames := Run.finish_frames frames hf
    have before : run.files.frames = source.frames n ++ jobs.flatMap Job.frames := frames
    refine ⟨left, ?_, rooted.finished⟩
    change (run'.files.frames.map FileFrame.path).Nodup
    rw [before, List.map_append] at distinct
    rw [left]
    exact (List.nodup_append.mp distinct).2.1

end Framed

end Progress

end LineTemplate
