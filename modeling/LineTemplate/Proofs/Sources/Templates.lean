import LineTemplate.Proofs.Lines.Outcome
import LineTemplate.Run.Render

/-!
# Where templates are found

The path of a template is looked up as that of an included file is: in the directories first, and
last as it is written. A template that is stored under the path that was asked for is therefore not
rendered if a directory has a file of that path as well (`Shadowed`).
-/

namespace LineTemplate

theorem Path.join_of_isAbsolute {path : Text} (absolute : isAbsolute path = true)
    (directory : Text) : join directory path = path := by
  rw [join, absolute, Bool.true_or, if_pos rfl]

/-- The first directory that has a file of this path has it under another name. -/
def Shadowed (sources : Bindings Source) (directories : List Text) (path : Text) : Prop :=
  ∃ before directory after, directories = before ++ directory :: after ∧
    Path.join directory path ≠ path ∧ sources.contains (Path.join directory path) = true ∧
      ∀ earlier ∈ before, sources.contains (Path.join earlier path) = false

/-- Where a path is found that is known as it is written. -/
def templateKey (sources : Bindings Source) (directories : List Text) (path : Text) : Text :=
  ((directories.map (Path.join · path)).find? sources.contains).getD path

section

variable {sources : Bindings Source} {directories : List Text} {path : Text}

theorem find?_candidates (known : sources.contains path = true) :
    (Path.candidates path none directories).find? sources.contains =
      some (templateKey sources directories path) := by
  unfold Path.candidates
  split
  · rename_i absolute
    have here : templateKey sources directories path = path := by
      unfold templateKey
      cases found : (directories.map (Path.join · path)).find? sources.contains with
      | none => rfl
      | some key =>
        obtain ⟨directory, -, rfl⟩ := List.mem_map.mp (List.mem_of_find?_eq_some found)
        exact Path.join_of_isAbsolute absolute directory
    rw [here, List.find?_cons_of_pos known]
  · have last : [path].find? sources.contains = some path := List.find?_cons_of_pos known
    rw [Option.bind_none, Option.map_none, Option.toList_none, List.nil_append,
      List.find?_append, last, templateKey]
    cases (directories.map (Path.join · path)).find? sources.contains <;> rfl

/-- What is found is stored. -/
theorem contains_templateKey (known : sources.contains path = true) :
    sources.contains (templateKey sources directories path) = true :=
  List.find?_some (find?_candidates known)

theorem templateKey_eq_join {before after : List Text} {directory : Text}
    (whole : directories = before ++ directory :: after)
    (here : sources.contains (Path.join directory path) = true)
    (first : ∀ earlier ∈ before, sources.contains (Path.join earlier path) = false) :
    templateKey sources directories path = Path.join directory path := by
  have found : (directories.map (Path.join · path)).find? sources.contains =
      some (Path.join directory path) := by
    refine List.find?_eq_some_iff_append.mpr
      ⟨here, before.map (Path.join · path), after.map (Path.join · path), by simp [whole], ?_⟩
    simpa using first
  rw [templateKey, found, Option.getD_some]

theorem templateKey_ne_iff : templateKey sources directories path ≠ path ↔
    Shadowed sources directories path := by
  constructor
  · intro elsewhere
    unfold templateKey at elsewhere
    cases found : (directories.map (Path.join · path)).find? sources.contains with
    | none => exact absurd (by rw [found]; rfl) elsewhere
    | some key =>
      rw [found, Option.getD_some] at elsewhere
      obtain ⟨here, front, back, whole, first⟩ := List.find?_eq_some_iff_append.mp found
      obtain ⟨before, others, rfl, rfl, later⟩ := List.map_eq_append_iff.mp whole
      obtain ⟨directory, after, rfl, rfl, -⟩ := List.map_eq_cons_iff.mp later
      refine ⟨before, directory, after, rfl, elsewhere, here, fun earlier member => ?_⟩
      simpa using first _ (List.mem_map_of_mem member)
  · rintro ⟨before, directory, after, whole, differs, here, first⟩
    rw [templateKey_eq_join whole here first]
    exact differs

end

namespace Engine

/-- The engine without any directories in which sources are looked for. -/
def withoutDirectories (engine : Engine) : Engine :=
  { engine with env :=
    { engine.env with config := { engine.env.config with includeDirs := [] } } }

/-- The template at a path is a source that is found under a key. -/
def Renders (engine : Engine) (path key : Text) (source : Source) : Prop :=
  engine.openPath path = .ok (key, source) ∧
    engine.renderPath path = engine.renderSource key source ⟨path, 0⟩

section

variable {engine : Engine} {sources : Bindings Source} {path key : Text} {source : Source}

theorem renders_iff :
    engine.Renders path key source ↔ engine.openPath path = .ok (key, source) :=
  ⟨fun h => h.1, fun h => ⟨h, by simp only [renderPath, h]⟩⟩

theorem renders_templateKey (memory : engine.env.loader = .ofMemory sources)
    (known : sources.contains path = true) :
    ∃ found, sources.get? (templateKey sources engine.env.config.includeDirs path) = some found ∧
      engine.Renders path (templateKey sources engine.env.config.includeDirs path) found := by
  have resolved : (Loader.ofMemory sources).resolve path none engine.env.config.includeDirs =
      .ok (templateKey sources engine.env.config.includeDirs path) := by
    simp only [Loader.ofMemory, find?_candidates known]
  obtain ⟨found, stored⟩ : ∃ found,
      sources.get? (templateKey sources engine.env.config.includeDirs path) = some found :=
    Option.isSome_iff_exists.mp (contains_templateKey known)
  have opened : (Loader.ofMemory sources).openKey
      (templateKey sources engine.env.config.includeDirs path) = .ok found := by
    simp only [Loader.ofMemory, stored]
  refine ⟨found, stored, renders_iff.mpr ?_⟩
  rw [openPath, memory, resolved]
  exact Outcome.bind_eq_ok.mpr ⟨_, rfl, Outcome.bind_eq_ok.mpr ⟨found, opened, rfl⟩⟩

theorem renders_of_templateKey_eq (memory : engine.env.loader = .ofMemory sources)
    (stored : sources.get? path = some source)
    (same : templateKey sources engine.env.config.includeDirs path = path) :
    engine.Renders path path source := by
  have known : sources.contains path = true := by rw [Bindings.contains, stored]; rfl
  obtain ⟨found, here, renders⟩ := renders_templateKey memory known
  rw [same] at here renders
  cases stored.symm.trans here
  exact renders

/-- A template that is stored under the path that is asked for is rendered if there are no
directories, and otherwise unless one of them shadows it; then another template is rendered. -/
theorem template_as_written (memory : engine.env.loader = .ofMemory sources)
    (stored : sources.get? path = some source) :
    engine.withoutDirectories.Renders path path source ∧
    (¬ Shadowed sources engine.env.config.includeDirs path →
      engine.Renders path path source) ∧
    (Shadowed sources engine.env.config.includeDirs path →
      ∃ directory ∈ engine.env.config.includeDirs, ∃ other,
        Path.join directory path ≠ path ∧
          sources.get? (Path.join directory path) = some other ∧
            engine.Renders path (Path.join directory path) other) := by
  refine ⟨renders_of_templateKey_eq memory stored rfl, fun plain => ?_, ?_⟩
  · have same := Decidable.of_not_not (mt templateKey_ne_iff.mp plain)
    exact renders_of_templateKey_eq memory stored same
  · rintro ⟨before, directory, after, whole, differs, here, first⟩
    have known : sources.contains path = true := by rw [Bindings.contains, stored]; rfl
    obtain ⟨found, there, renders⟩ := renders_templateKey memory known
    rw [templateKey_eq_join whole here first] at there renders
    exact ⟨directory, by simp [whole], found, differs, there, renders⟩

end

/-- A template, and a file of the same name in a directory. -/
def namesakes : Bindings Source :=
  (Bindings.empty.insert ['a'] (.ofText "top".toList)).insert "inc/a".toList
    (.ofText "other".toList)

def withNamesakes : Engine where
  env :=
    { config := { includeDirs := ["inc".toList] }, tables := fun _ => none
      evaluator := evaluateCondition, loader := Loader.ofMemory namesakes }

theorem shadowed_namesakes : Shadowed namesakes ["inc".toList] ['a'] :=
  ⟨[], "inc".toList, [], rfl, by decide, by decide, nofun⟩

/-- The template that is asked for is `a`, and that in the directory is rendered. -/
theorem template_as_written_namesakes :
    withNamesakes.withoutDirectories.Renders ['a'] ['a'] (.ofText "top".toList) ∧
      withNamesakes.Renders ['a'] "inc/a".toList (.ofText "other".toList) := by
  have memory : withNamesakes.env.loader = .ofMemory namesakes := rfl
  have stored : namesakes.get? ['a'] = some (.ofText "top".toList) := rfl
  obtain ⟨asWritten, -, shadowed⟩ := template_as_written memory stored
  obtain ⟨directory, member, other, -, there, renders⟩ := shadowed shadowed_namesakes
  obtain rfl := List.mem_singleton.mp member
  have joined : Path.join "inc".toList ['a'] = "inc/a".toList := by decide
  have inside : namesakes.get? "inc/a".toList = some (.ofText "other".toList) := rfl
  rw [joined] at there renders
  cases inside.symm.trans there
  exact ⟨asWritten, renders⟩

/-- A template is not always found under the path that is asked for. -/
theorem template_not_as_written :
    ¬ ∀ (engine : Engine) (sources : Bindings Source) (path : Text) (source : Source),
      engine.env.loader = .ofMemory sources → sources.get? path = some source →
        engine.Renders path path source := by
  intro asWritten
  obtain ⟨opened, -⟩ := asWritten withNamesakes namesakes ['a'] (.ofText "top".toList) rfl rfl
  have keys := congrArg (Except.map Prod.fst) opened
  cases keys

end Engine

end LineTemplate
