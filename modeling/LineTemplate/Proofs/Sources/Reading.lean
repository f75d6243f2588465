import LineTemplate.Proofs.Lines.Outcome
import LineTemplate.Run.Render

/-!
# Reading a source

Both kinds of sources are read in the same way: `Reads` relates the start of a source to the states
between its lines. A visit that succeeds has read all lines, and one that a bound cuts short was cut
short at some line.

The rules of induction at the end are for what holds of the visits of the engine on all bounds.
-/

namespace LineTemplate

/-- What a source supplies after `n` of its lines, and the run when it has been taken. -/
def Visit.next? (source : Visit) (n : Nat) (run : Run) : Option (Except Fault Line × Run) :=
  match source with
  | .replay r => (r.body[n]?).map fun line => (.ok line, run)
  | .file _ =>
    match run.files.next with
    | (none, _) => none
    | (some supplied, files) => some (supplied, { run with files })

/-- In place of a line, a file can only have something that cannot be read. -/
theorem Visit.unreadable_of_next? {source : Visit} {n : Nat} {run taken : Run} {fault : Fault}
    (next : source.next? n run = some (.error fault, taken)) :
    ∃ path cause, fault = .unreadable path cause := by
  cases source with
  | replay r =>
    obtain ⟨line, -, he⟩ := Option.map_eq_some_iff.mp next
    cases he
  | file f =>
    dsimp only [Visit.next?] at next
    split at next
    · cases next
    · rename_i supplied files hn
      cases next
      unfold FileStack.next at hn
      split at hn
      · cases hn
      · split at hn <;> cases hn
        exact ⟨_, _, rfl⟩

namespace Run

/-- The states of a run between the lines of a source, by the number of lines before them. A line
does to the run what `does` allows. -/
inductive Reads (does : Run → Line → Run → Prop) (source : Visit) (started : Run) :
    Nat → Run → Prop where
  | start : Reads does source started 0 started
  | line {n : Nat} {run taken run' : Run} {line : Line} (before : Reads does source started n run)
      (next : source.next? n run = some (.ok line, taken)) (done : does taken line run') :
    Reads does source started (n + 1) run'

def Does (step : Run → Line → Outcome) (run : Run) (line : Line) (run' : Run) : Prop :=
  step run line = .ok run'

section

variable {step : Run → Line → Outcome} {started run finished : Run} {n bound : Nat}

theorem reads_of_foldlM {r : Replay} {rest : List Line} (drop : r.body.drop n = rest)
    (before : Reads (Does step) (.replay r) started n run)
    (h : rest.foldlM step run = .ok finished) :
    ∃ last, Reads (Does step) (.replay r) started last finished ∧
      (Visit.replay r).next? last finished = none := by
  induction rest generalizing n run with
  | nil =>
    cases h
    refine ⟨n, before, ?_⟩
    simp [Visit.next?, List.drop_eq_nil_iff.mp drop]
  | cons line rest ih =>
    rw [List.foldlM_cons] at h
    obtain ⟨run', done, h⟩ := Outcome.bind_eq_ok.mp h
    have next : (Visit.replay r).next? n run = some (.ok line, run) := by
      simp [Visit.next?, ← List.head?_drop, drop]
    have drop' : r.body.drop (n + 1) = rest := by rw [← List.tail_drop, drop, List.tail_cons]
    exact ih drop' (.line before next done) h

theorem reads_of_readFile {f : FileVisit} (before : Reads (Does step) (.file f) started n run)
    (h : readFile step f.origin bound run = .ok finished) :
    ∃ last, Reads (Does step) (.file f) started last finished ∧
      (Visit.file f).next? last finished = none := by
  induction bound generalizing n run with
  | zero => cases h
  | succ bound ih =>
    unfold readFile at h
    split at h
    · rename_i atEnd
      cases h
      exact ⟨n, before, by simp [Visit.next?, atEnd]⟩
    · cases h
    · rename_i line files supplied
      obtain ⟨run', done, h⟩ := Outcome.bind_eq_ok.mp h
      exact ih (.line before (by simp [Visit.next?, supplied]) done) h

theorem reads_of_read {source : Visit} (h : started.read step bound source = .ok finished) :
    ∃ last, Reads (Does step) source started last finished ∧
      source.next? last finished = none := by
  cases source with
  | replay r => exact reads_of_foldlM (List.drop_zero ..) .start h
  | file f => exact reads_of_readFile .start h

section

variable {path : Text} {frames : List FileFrame} {origin : Location}

theorem readFile_nil (files : run.files = ⟨⟨path, [], n⟩ :: frames⟩) :
    readFile step origin (bound + 1) run = .ok run := by
  have next : run.files.next = (none, run.files) := by
    rw [files]
    rfl
  rw [readFile, next]

theorem readFile_cons {text : Text} {unread : Source} {run' : Run}
    (files : run.files = ⟨⟨path, .ok text :: unread, n⟩ :: frames⟩)
    (done : step { run with files := ⟨⟨path, unread, n + 1⟩ :: frames⟩ } ⟨text, ⟨path, n + 1⟩⟩ =
      .ok run') :
    readFile step origin (bound + 1) run = readFile step origin bound run' := by
  have next : run.files.next =
      (some (.ok ⟨text, ⟨path, n + 1⟩⟩), ⟨⟨path, unread, n + 1⟩ :: frames⟩) := by
    rw [files]
    rfl
  rw [readFile, next]
  dsimp only
  rw [done, Outcome.ok_bind]

end

/-- A visit that succeeds starts the source, reads all of its lines and ends it. -/
theorem visit_ok {source : Visit} {after : Run} (h : run.visit step bound source = .ok after) :
    ∃ started last finished, run.start source = .ok started ∧
      Reads (Does step) source started last finished ∧ source.next? last finished = none ∧
      run.finish finished source = .ok after := by
  obtain ⟨started, hs, h⟩ := Outcome.bind_eq_ok.mp h
  obtain ⟨finished, hr, hf⟩ := Outcome.bind_eq_ok.mp h
  obtain ⟨last, reads, atEnd⟩ := reads_of_read hr
  exact ⟨started, last, finished, hs, reads, atEnd, hf⟩

/-! ## The start and the end of a source -/

theorem start_ok {source : Visit} (h : run.start source = .ok started) :
    ∃ files scopes margin,
      started = { run with files, scopes, margin, floors := run.heights } := by
  cases source with
  | replay r =>
    cases h
    exact ⟨_, _, _, rfl⟩
  | file f =>
    obtain ⟨files, -, h⟩ := Outcome.bind_eq_ok.mp h
    cases h
    exact ⟨_, _, _, rfl⟩

theorem openBlock?_eq_none : run.openBlock? = none ↔
    run.captures.depth ≤ run.floors.captures ∧
      run.conditionals.depth ≤ run.floors.conditionals := by
  unfold openBlock?
  split
  · rename_i capturing
    have open_body : run.captures.openBlock? ≠ none := by
      obtain ⟨c, hc⟩ := List.exists_mem_of_length_pos (Nat.zero_lt_of_lt capturing)
      unfold CaptureStack.openBlock?
      rw [ne_eq, Option.map_eq_none_iff, List.head?_eq_none_iff]
      exact List.ne_nil_of_mem hc
    exact ⟨fun closed => absurd closed open_body, fun low => absurd capturing (by omega)⟩
  · split
    · exact ⟨nofun, fun low => by omega⟩
    · exact ⟨fun _ => by omega, fun _ => rfl⟩

/-- A source is left with nothing open in it. -/
theorem leave_eq_ok {outer : Floors} {location : Location} {left : Run} :
    run.leave outer location = .ok left ↔ run.openBlock? = none ∧
      { run with floors := outer, cursors := run.cursors.truncate run.floors.selections } =
        left := by
  unfold leave
  cases run.openBlock? <;> simp

theorem finish_ok {source : Visit} {after : Run} (h : run.finish finished source = .ok after) :
    finished.openBlock? = none ∧ ∃ files scopes, after = { finished with
      floors := run.floors, margin := run.margin, files, scopes
      cursors := finished.cursors.truncate finished.floors.selections } := by
  cases source with
  | replay | file =>
    obtain ⟨left, hl, h⟩ := Outcome.bind_eq_ok.mp h
    obtain ⟨closed, rfl⟩ := leave_eq_ok.mp hl
    cases h
    exact ⟨closed, _, _, rfl⟩

/-! ## Sources that are not read to their end -/

/-- Why the lines of a source are not all read: the run stops at a line, the file has something else
in place of a line, or it supplies as many lines as the bound. -/
inductive Stops (step : Run → Line → Outcome) (source : Visit) (started : Run) (bound : Nat) :
    Stop → Prop where
  | line {n : Nat} {run taken : Run} {line : Line} {stop : Stop}
      (before : Reads (Does step) source started n run)
      (next : source.next? n run = some (.ok line, taken)) (fails : step taken line = .error stop) :
    Stops step source started bound stop
  | unreadable {n : Nat} {run taken : Run} {fault : Fault}
      (before : Reads (Does step) source started n run)
      (next : source.next? n run = some (.error fault, taken)) (location : Location) :
    Stops step source started bound (.fault (fault.at location) run.evaluations)
  | tooMany {run : Run} (before : Reads (Does step) source started bound run) :
    Stops step source started bound .exhausted

theorem stops_of_foldlM {r : Replay} {rest : List Line} {stop : Stop}
    (drop : r.body.drop n = rest) (before : Reads (Does step) (.replay r) started n run)
    (h : rest.foldlM step run = .error stop) : Stops step (.replay r) started bound stop := by
  induction rest generalizing n run with
  | nil => cases h
  | cons line rest ih =>
    have next : (Visit.replay r).next? n run = some (.ok line, run) := by
      simp [Visit.next?, ← List.head?_drop, drop]
    have drop' : r.body.drop (n + 1) = rest := by rw [← List.tail_drop, drop, List.tail_cons]
    rw [List.foldlM_cons] at h
    rcases Outcome.bind_eq_error.mp h with h | ⟨run', done, h⟩
    · exact .line before next h
    · exact ih drop' (.line before next done) h

theorem stops_of_readFile {f : FileVisit} {stop : Stop} {left : Nat} (count : n + left = bound)
    (before : Reads (Does step) (.file f) started n run)
    (h : readFile step f.origin left run = .error stop) :
    Stops step (.file f) started bound stop := by
  induction left generalizing n run with
  | zero =>
    cases h
    cases count
    exact .tooMany before
  | succ left ih =>
    unfold readFile at h
    split at h
    · cases h
    · rename_i fault files supplied
      have next : (Visit.file f).next? n run = some (.error fault, { run with files }) := by
        simp [Visit.next?, supplied]
      cases h
      exact .unreadable before next _
    · rename_i line files supplied
      have next : (Visit.file f).next? n run = some (.ok line, { run with files }) := by
        simp [Visit.next?, supplied]
      rcases Outcome.bind_eq_error.mp h with h | ⟨run', done, h⟩
      · exact .line before next h
      · exact ih (by omega) (.line before next done) h

/-- A visit that does not succeed cannot start the source, is stopped in it, or cannot end it. -/
theorem visit_error {source : Visit} {stop : Stop} (h : run.visit step bound source = .error stop) :
    run.start source = .error stop ∨
      ∃ started, run.start source = .ok started ∧
        (Stops step source started bound stop ∨
          ∃ last finished, Reads (Does step) source started last finished ∧
            source.next? last finished = none ∧ run.finish finished source = .error stop) := by
  rcases Outcome.bind_eq_error.mp h with h | ⟨started, hs, h⟩
  · exact .inl h
  · refine .inr ⟨started, hs, ?_⟩
    rcases Outcome.bind_eq_error.mp h with h | ⟨finished, hr, h⟩
    · refine .inl ?_
      cases source with
      | replay r => exact stops_of_foldlM (List.drop_zero ..) .start h
      | file f => exact stops_of_readFile (Nat.zero_add bound) .start h
    · obtain ⟨last, reads, atEnd⟩ := reads_of_read hr
      exact .inr ⟨last, finished, reads, atEnd, h⟩

/-! ## Bounds that are too low -/

theorem start_ne_exhausted (run : Run) (source : Visit) :
    run.start source ≠ .error .exhausted := by
  intro h
  cases source with
  | replay r => cases h
  | file f =>
    rcases Outcome.bind_eq_error.mp h with h | ⟨_, _, h⟩
    · exact located_ne_exhausted _ _ _ h
    · cases h

theorem leave_ne_exhausted (run : Run) (outer : Floors) (location : Location) :
    run.leave outer location ≠ .error .exhausted := by
  unfold leave
  split
  · exact located_ne_exhausted _ _ _
  · exact nofun

theorem finish_ne_exhausted (run finished : Run) (source : Visit) :
    run.finish finished source ≠ .error .exhausted := by
  intro h
  cases source <;>
    (rcases Outcome.bind_eq_error.mp h with h | ⟨_, _, h⟩
     · exact leave_ne_exhausted _ _ _ h
     · cases h)

/-- A visit that a bound cuts short has started the source and is stopped in it. -/
theorem visit_exhausted {source : Visit} (h : run.visit step bound source = .error .exhausted) :
    ∃ started, run.start source = .ok started ∧ Stops step source started bound .exhausted := by
  rcases visit_error h with h | ⟨started, hs, stops | ⟨last, finished, -, -, h⟩⟩
  · exact absurd h (start_ne_exhausted run source)
  · exact ⟨started, hs, stops⟩
  · exact absurd h (finish_ne_exhausted run finished source)

end

/-! ## The bounds of the engine -/

/-- What the engine does for a line: loops may still nest `room` deep in it, calls and includes
`levels` deep. -/
def stepWithin (env : Environment) (levels room : Nat) : Run → Line → Outcome :=
  process env (visitWithin env (visitBelow env levels) room) (visitBelow env levels)

section

variable {env : Environment} {Q : Visit → (Run → Outcome) → Prop}
  (exhausted : ∀ source, Q source fun _ => .error .exhausted)

include exhausted

/-- What holds of a visit whose bound is too low, and of a visit if it holds of the loops in it,
holds of every visit with bounded loops. -/
theorem visitWithin_induction {deeper : Run → Visit → Outcome}
    (visit : ∀ loops bound, (∀ source, Q source (loops · source)) →
      ∀ source, Q source fun run => run.visit (process env loops deeper) bound source)
    (room : Nat) (source : Visit) : Q source (visitWithin env deeper room · source) := by
  induction room generalizing source with
  | zero => exact exhausted source
  | succ room ih => exact visit _ _ ih source

variable (visit : ∀ loops deeper bound, (∀ source, Q source (loops · source)) →
  (∀ source, Q source (deeper · source)) →
  ∀ source, Q source fun run => run.visit (process env loops deeper) bound source)

include visit

theorem visitBelow_induction (levels : Nat) (source : Visit) :
    Q source (visitBelow env levels · source) := by
  induction levels generalizing source with
  | zero => exact exhausted source
  | succ levels ih =>
    exact visitWithin_induction exhausted (fun loops bound hl => visit loops _ bound hl ih) _ source

end

end Run

end LineTemplate
