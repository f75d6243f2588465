import LineTemplate.Proofs.Sources.Reading

/-!
# Passing lines

A list of consecutive lines of a source, and the states before and after them. Between two lines
only the read position of a file moves, so what holds of lists of lines holds of the lines of both
kinds of sources.
-/

namespace LineTemplate

/-- To take a line moves the read position of a file and changes nothing else. -/
theorem Visit.files_of_next? {source : Visit} {n : Nat} {run taken : Run}
    {supplied : Except Fault Line} (next : source.next? n run = some (supplied, taken)) :
    ∃ files, taken = { run with files } ∧ ∀ r, source = .replay r → files = run.files := by
  cases source with
  | replay r =>
    obtain ⟨line, -, he⟩ := Option.map_eq_some_iff.mp next
    cases he
    exact ⟨run.files, rfl, fun _ _ => rfl⟩
  | file f =>
    dsimp only [next?] at next
    split at next
    · cases next
    · rename_i files _
      cases next
      exact ⟨files, rfl, nofun⟩

namespace Run

/-- After `n` lines of the source, in the state `run`, the source supplies `lines` next, and they
lead to `final`. -/
inductive Passes (step : Run → Line → Outcome) (source : Visit) :
    (n : Nat) → (run : Run) → (lines : List Line) → (final : Run) → Prop where
  | nil {n : Nat} {run : Run} : Passes step source n run [] run
  | cons {n : Nat} {run taken run' final : Run} {line : Line} {lines : List Line}
      (next : source.next? n run = some (.ok line, taken)) (done : step taken line = .ok run')
      (further : Passes step source (n + 1) run' lines final) :
    Passes step source n run (line :: lines) final

namespace Passes

variable {step : Run → Line → Outcome} {source : Visit} {n : Nat} {run final : Run}
  {lines lines' : List Line} {line : Line}

theorem cons_inv (h : Passes step source n run (line :: lines) final) :
    ∃ files run', (∀ r, source = .replay r → files = run.files) ∧
      step { run with files } line = .ok run' ∧ Passes step source (n + 1) run' lines final := by
  cases h with
  | @cons _ _ taken run' _ _ _ next done further =>
    obtain ⟨files, rfl, same⟩ := Visit.files_of_next? next
    exact ⟨files, run', same, done, further⟩

theorem append_inv (h : Passes step source n run (lines ++ lines') final) :
    ∃ between, Passes step source n run lines between ∧
      Passes step source (n + lines.length) between lines' final := by
  induction lines generalizing n run with
  | nil => exact ⟨run, .nil, h⟩
  | cons line lines ih =>
    cases h with
    | cons next done further =>
      obtain ⟨between, first, second⟩ := ih further
      refine ⟨between, .cons next done first, ?_⟩
      rw [List.length_cons, Nat.add_comm lines.length, ← Nat.add_assoc]
      exact second

/-- The lines of a replay are passed one after the other. -/
theorem of_foldlM {r : Replay} {rest : List Line} (drop : r.body.drop n = lines ++ rest)
    (h : lines.foldlM step run = .ok final) : Passes step (.replay r) n run lines final := by
  induction lines generalizing n run with
  | nil =>
    cases h
    exact .nil
  | cons line lines ih =>
    rw [List.foldlM_cons] at h
    obtain ⟨run', done, h⟩ := Outcome.bind_eq_ok.mp h
    have next : (Visit.replay r).next? n run = some (.ok line, run) := by
      simp [Visit.next?, ← List.head?_drop, drop]
    have drop' : r.body.drop (n + 1) = lines ++ rest := by
      rw [← List.tail_drop, drop, List.cons_append, List.tail_cons]
    exact .cons next done (ih drop' h)

end Passes

end Run

end LineTemplate
