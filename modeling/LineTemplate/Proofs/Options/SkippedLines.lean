import LineTemplate.Options.Profile
import LineTemplate.Proofs.Lines.Outcome
import LineTemplate.Proofs.Lines.Terminators
import LineTemplate.Proofs.Lines.Trimming
import LineTemplate.Proofs.Options.Validity
import Mathlib

/-!
# Lines that are skipped

Settings files are read line by line. A line that cannot be understood after those before it is
reported with its number, and the profile that it leaves behind is the one that it was read with
(`applyLine_fails`). So it is read as if it were not there: without all such lines the file sets the
same options and variables, and nothing is reported.
-/

namespace LineTemplate

open Unicode

namespace Text

/-- A text of lines that end with line feeds or with carriage returns and line feeds. The last line
may have no terminator. -/
inductive WrittenAs : List Text → Text → Prop where
  | nil : WrittenAs [] []
  | unended (s : Text) : WrittenAs [s] s
  | feed (s : Text) {lines : List Text} {t : Text} (rest : WrittenAs lines t) :
      WrittenAs (s :: lines) (s ++ '\n' :: t)
  | carriage (s : Text) {lines : List Text} {t : Text} (rest : WrittenAs lines t) :
      WrittenAs (s :: lines) (s ++ '\r' :: '\n' :: t)

end Text

namespace Profile

variable {p q : Profile} {raw raw' : Text} {lines : List Text} {number : Nat}

/-! ## One line -/

theorem applyLine_congr (same : raw.trim = raw'.trim) : applyLine raw = applyLine raw' := by
  rw [applyLine, applyLine, readLine, readLine, same]

theorem applyLine_carriage (raw : Text) : applyLine (raw ++ ['\r']) = applyLine raw :=
  applyLine_congr (Text.trim_append_blanks (List.forall_mem_singleton.mpr rfl) raw)

theorem onConfig_fails {name value : Text} {fault : OptionFault}
    (h : (onConfig (Config.update name value)).run p = .error fault q) : q = p := by
  rw [run_onConfig] at h
  split at h
  · cases h
  · rename_i config ran
    have refused : p.config.call name value = (.error fault, config) := by
      rw [Config.call, ran]
      cases h
      rfl
    cases h
    rw [Config.call_fails refused]

theorem update_fails {name value : Text} {fault : OptionFault}
    (h : (update name value).run p = .error fault q) : q = p := by
  rw [update, EStateM.run_bind] at h
  split at h
  · rename_i isOption q' _
    cases isOption <;> cases h
  · rename_i ran
    cases h
    exact onConfig_fails ran

/-- A line that cannot be understood leaves the profile as it was. -/
theorem applyLine_fails {fault : SettingFault} (h : (applyLine raw).run p = .error fault q) :
    q = p := by
  rw [applyLine] at h
  split at h
  · cases h
    rfl
  · cases h
  · rw [EStateM.run_adaptExcept] at h
    split at h
    · cases h
    · rename_i ran
      cases h
      exact update_fails ran

/-! ## Reading on -/

/-- The profile after a line, whether it is understood or not. -/
def after (p : Profile) (raw : Text) : Profile :=
  match (applyLine raw).run p with
  | .ok _ q | .error _ q => q

def afterLines (p : Profile) (lines : List Text) : Profile :=
  lines.foldl after p

def reported (p : Profile) (number : Nat) (raw : Text) : List SettingWarning :=
  match (applyLine raw).run p with
  | .ok _ _ => []
  | .error fault _ => [⟨number, fault⟩]

theorem mem_reported {warning : SettingWarning} : warning ∈ p.reported number raw ↔
    warning.line = number ∧ (applyLine raw).run p = .error warning.fault p := by
  rw [reported]
  split
  · rename_i ran
    simp [ran]
  · rename_i fault q ran
    rw [List.mem_singleton, ran, applyLine_fails ran, EStateM.Result.error.injEq, and_iff_left rfl]
    constructor
    · rintro rfl
      exact ⟨rfl, rfl⟩
    · rintro ⟨rfl, rfl⟩
      rfl

theorem loadLines_cons (p : Profile) (number : Nat) (raw : Text) (rest : List Text) :
    p.loadLines number (raw :: rest) = (((p.after raw).loadLines (number + 1) rest).1,
      p.reported number raw ++ ((p.after raw).loadLines (number + 1) rest).2) := by
  rw [loadLines, after, reported]
  generalize (applyLine raw).run p = result
  cases result <;> rfl

theorem loadLines_fst (p : Profile) (number : Nat) (lines : List Text) :
    (p.loadLines number lines).1 = p.afterLines lines := by
  induction lines generalizing p number with
  | nil => rfl
  | cons raw rest ih =>
    rw [loadLines_cons]
    exact ih (p.after raw) (number + 1)

/-- The lines that are reported are those that cannot be understood after the lines before them. -/
theorem mem_loadLines_iff {warning : SettingWarning} :
    warning ∈ (p.loadLines number lines).2 ↔ ∃ before raw rest, lines = before ++ raw :: rest ∧
      warning.line = number + before.length ∧ (applyLine raw).run (p.afterLines before) =
        .error warning.fault (p.afterLines before) := by
  induction lines generalizing p number with
  | nil => exact ⟨nofun, fun ⟨before, _, _, same, _⟩ => by cases before <;> cases same⟩
  | cons raw rest ih =>
    rw [loadLines_cons, List.mem_append, mem_reported, ih]
    constructor
    · rintro (⟨here, failed⟩ | ⟨before, raw', rest', rfl, there, failed⟩)
      · exact ⟨[], raw, rest, rfl, here, failed⟩
      · refine ⟨raw :: before, raw', rest', rfl, ?_, failed⟩
        rw [there, List.length_cons]
        omega
    · rintro ⟨before, raw', rest', same, line, failed⟩
      cases before with
      | nil =>
        obtain ⟨rfl, -⟩ := List.cons.inj same
        exact .inl ⟨line, failed⟩
      | cons head before =>
        obtain ⟨rfl, rfl⟩ := List.cons.inj same
        refine .inr ⟨before, raw', rest', rfl, ?_, failed⟩
        rw [line, List.length_cons]
        omega

theorem le_of_mem_loadLines {warning : SettingWarning}
    (mem : warning ∈ (p.loadLines number lines).2) : number ≤ warning.line := by
  obtain ⟨before, -, -, -, line, -⟩ := mem_loadLines_iff.mp mem
  omega

theorem loadLines_rising (p : Profile) (number : Nat) (lines : List Text) :
    ((p.loadLines number lines).2.map (·.line)).Pairwise (· < ·) := by
  induction lines generalizing p number with
  | nil => exact List.Pairwise.nil
  | cons raw rest ih =>
    rw [loadLines_cons, List.map_append, List.pairwise_append]
    refine ⟨?_, ih _ _, ?_⟩
    · rw [reported]
      split
      · exact List.Pairwise.nil
      · exact List.pairwise_singleton _ _
    · intro line mem line' mem'
      obtain ⟨warning, here, rfl⟩ := List.mem_map.mp mem
      obtain ⟨warning', there, rfl⟩ := List.mem_map.mp mem'
      have first := (mem_reported.mp here).1
      have later := le_of_mem_loadLines there
      omega

/-! ## Without the lines that are reported -/

/-- No warning has the number of a line. -/
def isUnreported (warnings : List SettingWarning) (line : Text × Nat) : Bool :=
  warnings.all fun warning => warning.line != line.2

/-- The lines that are not reported, if the first line has number `number`. -/
def keptFrom (p : Profile) (number : Nat) (lines : List Text) : List Text :=
  ((lines.zipIdx number).filter (isUnreported (p.loadLines number lines).2)).map Prod.fst

/-- The lines of a text that are not reported. -/
def kept (s : Text) : List Text :=
  keptFrom {} 1 s.lines

theorem isUnreported_iff {warnings : List SettingWarning} {line : Text × Nat} :
    isUnreported warnings line = true ↔ ∀ warning ∈ warnings, warning.line ≠ line.2 := by
  simp [isUnreported]

theorem keptFrom_ok (ran : (applyLine raw).run p = .ok () q) (number : Nat) (rest : List Text) :
    p.keptFrom number (raw :: rest) = raw :: q.keptFrom (number + 1) rest := by
  have unreported : isUnreported (q.loadLines (number + 1) rest).2 (raw, number) = true := by
    refine isUnreported_iff.mpr fun warning mem => ?_
    have later := le_of_mem_loadLines mem
    dsimp only
    omega
  rw [keptFrom, loadLines, ran]
  dsimp only
  rw [List.zipIdx_cons, List.filter_cons_of_pos unreported, List.map_cons, keptFrom]

theorem keptFrom_error {fault : SettingFault} (ran : (applyLine raw).run p = .error fault p)
    (number : Nat) (rest : List Text) :
    p.keptFrom number (raw :: rest) = p.keptFrom (number + 1) rest := by
  have first : ¬ isUnreported (⟨number, fault⟩ :: (p.loadLines (number + 1) rest).2)
      (raw, number) = true := by
    simp [isUnreported]
  rw [keptFrom, loadLines, ran]
  dsimp only
  rw [List.zipIdx_cons, List.filter_cons_of_neg first, keptFrom]
  -- The number of the first line is that of no later one.
  refine congrArg (List.map Prod.fst) (List.filter_congr fun line mem => ?_)
  have later := List.le_snd_of_mem_zipIdx mem
  have other : number ≠ line.2 := by omega
  simp [isUnreported, other]

/-- The lines that are kept can all be understood, and leave behind what the whole text does. -/
theorem forM_keptFrom (p : Profile) (number : Nat) (lines : List Text) :
    (forM (p.keptFrom number lines) applyLine).run p = .ok () (p.loadLines number lines).1 := by
  induction lines generalizing p number with
  | nil => rfl
  | cons raw rest ih =>
    rw [loadLines]
    cases ran : (applyLine raw).run p with
    | ok _ q =>
      rw [keptFrom_ok ran, List.forM_cons, EStateM.run_bind, ran]
      exact ih q (number + 1)
    | error fault q =>
      obtain rfl := applyLine_fails ran
      rw [keptFrom_error ran]
      exact ih q (number + 1)

theorem loadLines_of_forM (ran : (forM lines applyLine).run p = .ok () q) (number : Nat) :
    p.loadLines number lines = (q, []) := by
  induction lines generalizing p number with
  | nil =>
    cases ran
    rfl
  | cons raw rest ih =>
    rw [List.forM_cons, EStateM.run_bind] at ran
    rw [loadLines]
    split at ran
    · rename_i here
      rw [here]
      exact ih ran (number + 1)
    · cases ran

theorem forM_lines {t : Text} (written : Text.WrittenAs lines t)
    (feedless : ∀ line ∈ lines, '\n' ∉ line) :
    forM t.lines applyLine = forM lines applyLine := by
  induction written with
  | nil => rfl
  | unended s =>
    by_cases empty : s = []
    · rw [empty]
      rfl
    · rw [Text.lines_feedless empty (feedless s List.mem_cons_self)]
  | feed s rest ih =>
    obtain ⟨here, later⟩ := List.forall_mem_cons.mp feedless
    rcases Text.eq_append_carriage_or s with ⟨before, rfl⟩ | kept
    · have here' : '\n' ∉ before := fun mem => here (List.mem_append_left _ mem)
      rw [List.append_assoc, List.singleton_append, Text.lines_append_carriage here',
        List.forM_cons, List.forM_cons, applyLine_carriage, ih later]
    · rw [Text.lines_append_feed here kept, List.forM_cons, List.forM_cons, ih later]
  | carriage s rest ih =>
    obtain ⟨here, later⟩ := List.forall_mem_cons.mp feedless
    rw [Text.lines_append_carriage here, List.forM_cons, List.forM_cons, ih later]

theorem feedless_of_mem_kept {s line : Text} (mem : line ∈ kept s) : '\n' ∉ line := by
  obtain ⟨_, listed, rfl⟩ := List.mem_map.mp mem
  have stands := List.fst_mem_of_mem_zipIdx (List.mem_filter.mp listed).1
  exact (Text.hasLines_lines s).feedless _ stands

/-- The lines that are reported are those that cannot be understood after the lines before them, and
leave the profile as it was. Their numbers rise. A text of the other lines sets the same, and nothing
in it is reported. -/
theorem load_skips {s t : Text} (written : Text.WrittenAs (kept s) t) :
    ((load s).2.map SettingWarning.line).Pairwise (· < ·) ∧
      (∀ warning, warning ∈ (load s).2 ↔ ∃ before raw rest, s.lines = before ++ raw :: rest ∧
        warning.line = 1 + before.length ∧ (applyLine raw).run (afterLines {} before) =
          .error warning.fault (afterLines {} before)) ∧
      (load s).1 = afterLines {} s.lines ∧
      load t = ((load s).1, []) := by
  refine ⟨loadLines_rising {} 1 s.lines, fun _ => mem_loadLines_iff, loadLines_fst {} 1 s.lines,
    loadLines_of_forM ?_ 1⟩
  rw [forM_lines written fun _ => feedless_of_mem_kept, kept, forM_keptFrom]
  rfl

/-- Three lines of five are reported, and the others are written with other terminators. -/
theorem load_skips_three :
    kept "strict = maybe\r\nname = x\nmax_depth = 0\n/set\n title = y".toList =
        ["name = x".toList, " title = y".toList] ∧
      (load "strict = maybe\r\nname = x\nmax_depth = 0\n/set\n title = y".toList).2 =
        [⟨1, .option (.notBoolean "maybe".toList)⟩, ⟨3, .option .zeroDepth⟩, ⟨4, .noArgument⟩] ∧
      load "name = x\r\n title = y\n".toList =
        ((load "strict = maybe\r\nname = x\nmax_depth = 0\n/set\n title = y".toList).1, []) := by
  have keeps : kept "strict = maybe\r\nname = x\nmax_depth = 0\n/set\n title = y".toList =
      ["name = x".toList, " title = y".toList] := by decide +kernel
  have spelled : "name = x\r\n title = y\n".toList =
      "name = x".toList ++ '\r' :: '\n' :: (" title = y".toList ++ '\n' :: []) := by decide
  have written : Text.WrittenAs ["name = x".toList, " title = y".toList]
      "name = x\r\n title = y\n".toList := by
    rw [spelled]
    exact .carriage _ (.feed _ .nil)
  rw [← keeps] at written
  exact ⟨keeps, by decide +kernel, (load_skips written).2.2.2⟩

end Profile

end LineTemplate
