import LineTemplate.Proofs.CommandLine.Values

/-!
# Words of a command line

Every command line can be written: its values are put right after the letters of their options, and
`--` stands before the template. Then it does not matter what the values look like. They may start
with a dash, hold the letters of options or be a dash alone, and what comes back is the command line
that was written (`ofWords_words`).
-/

namespace LineTemplate

def SettingsChoice.words : SettingsChoice → List Text
  | search => []
  | skip => [['-', 'f']]
  | explicit path => ['-' :: 'f' :: path]

def Input.word : Input → Text
  | stdin => ['-']
  | path template => template

namespace CommandLine

def defineWord (define : Text × Text) : Text :=
  '-' :: 'D' :: (define.1 ++ '=' :: define.2)

def includeWord (directory : Text) : Text :=
  '-' :: 'I' :: directory

def outputWord (path : Text) : Text :=
  '-' :: 'o' :: path

/-- The options of a command line after the choice of the settings. -/
def optionWords (line : CommandLine) : List Text :=
  line.defines.map defineWord ++ (line.includeDirs.map includeWord ++
    ((if line.strict then [['-', 's']] else []) ++ line.output.toList.map outputWord))

/-- The words of a command line. -/
def words (line : CommandLine) : List Text :=
  line.settings.words ++ (line.optionWords ++ [['-', '-'], line.input.word])

/-- What words can say: no value is empty, but for those of variables and the template, a name ends
before the first `=`, and a template that is called `-` is standard input. -/
structure Writable (line : CommandLine) : Prop where
  settings : line.settings ≠ .explicit []
  defines : ∀ define ∈ line.defines, define.1 ≠ [] ∧ '=' ∉ define.1
  includeDirs : ∀ directory ∈ line.includeDirs, directory ≠ []
  output : line.output ≠ some []
  input : line.input ≠ .path ['-']

section

variable {line : CommandLine} {rest : List Text}

/-! ## One kind of option after the other -/

theorem readDefine_joined {name value : Text} (given : name ≠ []) (ends : '=' ∉ name) :
    readDefine (name ++ '=' :: value) = .ok (name, value) := by
  have split : Text.splitOnce? '=' (name ++ '=' :: value) = some (name, value) :=
    Text.splitOnce?_eq_some_iff.mpr ⟨rfl, ends⟩
  have named : name.isEmpty = false := List.isEmpty_eq_false_iff.mpr given
  rw [readDefine, split, Option.getD_some]
  dsimp only
  rw [named, if_neg Bool.false_ne_true]

theorem readWords_defines {defines : List (Text × Text)}
    (writable : ∀ define ∈ defines, define.1 ≠ [] ∧ '=' ∉ define.1) :
    readWords line (defines.map defineWord ++ rest) =
      readWords { line with defines := line.defines ++ defines } rest := by
  induction defines generalizing line with
  | nil => rw [List.append_nil]; rfl
  | cons define others ih =>
    obtain ⟨⟨given, ends⟩, further⟩ := List.forall_mem_cons.mp writable
    have set : setValue line 'D' (define.1 ++ '=' :: define.2) =
        .ok { line with defines := line.defines ++ [define] } := by
      rw [setValue, if_pos rfl, readDefine_joined given ends]
      rfl
    have value : define.1 ++ '=' :: define.2 ≠ [] := by simp
    rw [List.map_cons, List.cons_append, defineWord, readWords_attached (.inl rfl) value, set]
    exact (ih further).trans (by rw [List.append_assoc, List.singleton_append])

theorem readWords_includeDirs {directories : List Text}
    (writable : ∀ directory ∈ directories, directory ≠ []) :
    readWords line (directories.map includeWord ++ rest) =
      readWords { line with includeDirs := line.includeDirs ++ directories } rest := by
  induction directories generalizing line with
  | nil => rw [List.append_nil]; rfl
  | cons directory others ih =>
    obtain ⟨given, further⟩ := List.forall_mem_cons.mp writable
    have set : setValue line 'I' directory =
        .ok { line with includeDirs := line.includeDirs ++ [directory] } := rfl
    rw [List.map_cons, List.cons_append, includeWord, readWords_attached (.inr (.inl rfl)) given,
      set]
    exact (ih further).trans (by rw [List.append_assoc, List.singleton_append])

theorem readWords_strictness (unset : line.strict = false) (strict : Bool) :
    readWords line ((if strict then [['-', 's']] else []) ++ rest) =
      readWords { line with strict } rest := by
  cases strict with
  | true => exact readWords_strict
  | false =>
    have same : line = { line with strict := false } := by rw [← unset]
    exact congrArg (readWords · rest) same

theorem readWords_output (unset : line.output = none) {output : Option Text}
    (writable : output ≠ some []) :
    readWords line (output.toList.map outputWord ++ rest) =
      readWords { line with output } rest := by
  cases output with
  | none =>
    have same : line = { line with output := none } := by rw [← unset]
    exact congrArg (readWords · rest) same
  | some path =>
    have given : path ≠ [] := fun none => writable (congrArg some none)
    exact readWords_attached (.inr (.inr rfl)) given

/-- The word after an `-f` alone is an option here, so the `-f` does not take it as its file. -/
theorem takesFile_optionWords (line : CommandLine) (after : List Text) :
    takesFile (line.optionWords ++ ['-', '-'] :: after) = false := by
  have option : ∀ word ∈ line.optionWords, isOption word = true := by
    intro word member
    simp only [optionWords, List.mem_append, List.mem_map] at member
    rcases member with ⟨_, -, rfl⟩ | ⟨_, -, rfl⟩ | member | ⟨_, -, rfl⟩
    · rfl
    · rfl
    · cases strict : line.strict <;> simp_all [isOption]
    · rfl
  cases words : line.optionWords with
  | nil => rfl
  | cons word others =>
    have first := option word (words ▸ List.mem_cons_self)
    rw [List.cons_append, takesFile, first]
    rfl

theorem readWords_settings {choice : SettingsChoice} (writable : choice ≠ .explicit [])
    (untaken : takesFile rest = false) :
    readWords {} (choice.words ++ rest) = readWords { settings := choice } rest := by
  cases choice with
  | search => rfl
  | skip => exact readWords_skip untaken
  | explicit path => exact readWords_file fun none => writable (congrArg _ none)

/-- All words but the template have been read, and nothing of the template. -/
theorem readWords_words (writable : Writable line) :
    readWords {} line.words = .ok ({ line with input := .stdin }, [line.input.word]) := by
  rw [words, readWords_settings writable.settings (takesFile_optionWords line _), optionWords,
    List.append_assoc, readWords_defines writable.defines, List.append_assoc,
    readWords_includeDirs writable.includeDirs, List.append_assoc, readWords_strictness rfl,
    readWords_output rfl writable.output]
  rfl

/-- The words of a command line are read as that command line, whatever its values look like. -/
theorem ofWords_words (writable : Writable line) : ofWords line.words = .ok line := by
  rw [ofWords, readWords_words writable]
  dsimp only
  cases input : line.input with
  | stdin => rw [Input.word, if_pos rfl, ← input]
  | path template =>
    have named : template ≠ ['-'] := fun same => writable.input (same ▸ input)
    rw [Input.word, if_neg named, ← input]

end

/-- Values that look like options, and a variable without a value. -/
def disguised : CommandLine where
  settings := .explicit "-s".toList
  defines := [("name".toList, "=-D".toList), ("-o".toList, [])]
  includeDirs := ["-".toList, "f x".toList]
  strict := true
  output := some "--".toList
  input := .path "-fsDIo".toList

theorem ofWords_words_disguised : Writable disguised ∧ ofWords
    ["-f-s".toList, "-Dname==-D".toList, "-D-o=".toList, "-I-".toList, "-If x".toList, "-s".toList,
      "-o--".toList, "--".toList, "-fsDIo".toList] = .ok disguised := by
  have writable : Writable disguised := ⟨by decide, by decide, by decide, by decide, by decide⟩
  have written : disguised.words = ["-f-s".toList, "-Dname==-D".toList, "-D-o=".toList,
    "-I-".toList, "-If x".toList, "-s".toList, "-o--".toList, "--".toList, "-fsDIo".toList] := by
    decide
  exact ⟨writable, written ▸ ofWords_words writable⟩

end CommandLine

end LineTemplate
