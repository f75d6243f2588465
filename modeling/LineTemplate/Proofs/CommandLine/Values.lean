import LineTemplate.CommandLine.Options
import LineTemplate.Proofs.Lines.Outcome

/-!
# Values of options

The value of an option is written right after it, or is the next word. Both mean the same, with one
exception: an `-f` alone looks at all words after it in order to tell whether the next one is its
file, and a value that is a word of its own looks like a template there (`Mistaken`). The file that
`-f` takes then is the template, which is missing afterwards.

`readWords_front` says once what the words in front of others do to them; the two ways to write a
value are compared with the help of it.
-/

namespace LineTemplate

namespace CommandLine

/-- The options other than `f` that have a value. -/
def HasValue (option : Char) : Prop :=
  option = 'D' ∨ option = 'I' ∨ option = 'o'

/-- Words that are read one by one: no options that are written together, and no option whose value
is the next word, unless that is the file of an `-f`. -/
inductive Plain : Text → Prop where
  | strict : Plain ['-', 's']
  | settings (file : Text) : Plain ('-' :: 'f' :: file)
  | value {option : Char} {value : Text} (has : HasValue option) (given : value ≠ []) :
    Plain ('-' :: option :: value)
  | other {word : Text} (other : isOption word = false) : Plain word

/-- An `-f` alone stands right before the template, no word after that can be the template, and the
value of an option looks like one. -/
def Mistaken (front : List Text) (value : Text) (back : List Text) : Prop :=
  isTemplate value = true ∧ ∃ before template after,
    front = before ++ ['-', 'f'] :: template :: after ∧ isOption template = false ∧
      ∀ word ∈ after ++ back, isTemplate word = false

/-- What was read, with another template before the others. -/
def withTemplate (word : Text) : CommandLine × List Text → CommandLine × List Text :=
  fun (line, templates) => (line, word :: templates)

/-- The second reading is the first one without one of its templates. -/
def Loses (x y : Except UsageFault (CommandLine × List Text)) : Prop :=
  ∀ read templates, x = .ok (read, templates) → ∃ read' earlier template later,
    templates = earlier ++ template :: later ∧ y = .ok (read', earlier ++ later)

section

variable {line : CommandLine} {word file value : Text} {option : Char} {rest : List Text}

/-! ## One word -/

theorem isTemplate_of_other (other : isOption word = false) : isTemplate word = true := by
  simp [isTemplate, other]

@[simp] theorem isTemplate_option (option : Char) (value : Text) :
    isTemplate ('-' :: option :: value) = false := by
  simp [isTemplate, isOption]

theorem readWords_template (names : isTemplate word = true) :
    readWords line (word :: rest) = (readWords line rest).map (withTemplate word) := by
  have goesOn : word ≠ ['-', '-'] := fun h => by simp [h, isTemplate, isOption] at names
  rw [readWords, if_neg goesOn, if_pos names]
  rfl

theorem readWords_strict :
    readWords line (['-', 's'] :: rest) = readWords { line with strict := true } rest := by
  rw [readWords, if_neg (by decide), if_neg (by decide)]
  rfl

theorem readWords_file (given : file ≠ []) : readWords line (('-' :: 'f' :: file) :: rest) =
    readWords { line with settings := .explicit file } rest := by
  rw [readWords, if_neg (by simp), if_neg (by simp)]
  simp [readOptions, given]

/-- An `-f` alone takes no file if it does not see a template after that. -/
theorem readWords_skip (none : takesFile rest = false) :
    readWords line (['-', 'f'] :: rest) = readWords { line with settings := .skip } rest := by
  rw [readWords, if_neg (by decide), if_neg (by decide)]
  simp [readOptions, none]

theorem readWords_takes (takes : takesFile (file :: rest) = true) :
    readWords line (['-', 'f'] :: file :: rest) =
      readWords { line with settings := .explicit file } rest := by
  rw [readWords, if_neg (by decide), if_neg (by decide)]
  simp [readOptions, takes]

theorem readWords_attached (has : HasValue option) (given : value ≠ []) :
    readWords line (('-' :: option :: value) :: rest) =
      (setValue line option value).bind (readWords · rest) := by
  rw [readWords, if_neg (by simp [given]), if_neg (by simp)]
  obtain rfl | rfl | rfl := has <;>
    simp only [readOptions, List.tail_cons] <;>
    cases setValue line _ value <;> simp [given, Except.map, Except.bind]

theorem readWords_separate (has : HasValue option) :
    readWords line (['-', option] :: value :: rest) =
      (setValue line option value).bind (readWords · rest) := by
  have goesOn : ['-', option] ≠ ['-', '-'] := by
    obtain rfl | rfl | rfl := has <;> decide
  rw [readWords, if_neg goesOn, if_neg (by simp)]
  obtain rfl | rfl | rfl := has <;>
    simp only [readOptions, List.tail_cons] <;>
    cases setValue line _ value <;> simp [Except.map, Except.bind]

/-! ## What was set before -/

/-- Whether a value can be set does not depend on what was set before. -/
theorem setValue_same (line line' : CommandLine) (option : Char) (value : Text) (b : Bool) :
    ((setValue line option value).map (·, b)).map Prod.snd =
      ((setValue line' option value).map (·, b)).map Prod.snd := by
  unfold setValue
  split
  · simp only [Outcome.map_map]
  · split <;> rfl

theorem readOptions_same (line line' : CommandLine) (next : List Text) (word : Text) :
    (readOptions line next word).map Prod.snd = (readOptions line' next word).map Prod.snd := by
  induction word generalizing line line' with
  | nil => rfl
  | cons option rest ih =>
    simp only [readOptions]
    split
    · exact ih _ _
    split
    · split
      · rfl
      · split <;> rfl
    split
    · split
      · exact setValue_same line line' option rest false
      · split
        · rfl
        · exact setValue_same line line' option _ true
    · rfl

/-- Words are read one by one, or together with the next one. -/
theorem words_induction {P : List Text → Prop} (nil : P [])
    (cons : ∀ word rest, P rest → (∀ next others, rest = next :: others → P others) →
      P (word :: rest)) (words : List Text) : P words := by
  have both : P words ∧ ∀ next others, words = next :: others → P others := by
    induction words with
    | nil => exact ⟨nil, nofun⟩
    | cons word rest ih =>
      refine ⟨cons word rest ih.1 ih.2, fun next others split => ?_⟩
      cases split
      exact ih.1
  exact both.1

/-- The words that name a template are the same, whatever was set before. -/
theorem readWords_same (line line' : CommandLine) (words : List Text) :
    (readWords line words).map Prod.snd = (readWords line' words).map Prod.snd := by
  induction words using words_induction generalizing line line' with
  | nil => rfl
  | cons word rest ih skip =>
    unfold readWords
    split
    · rfl
    · split
      · simp only [Outcome.map_map]
        rw [← Outcome.map_map _ Prod.snd (word :: ·), ih line line', Outcome.map_map]
      · have same := readOptions_same line line' rest word.tail
        cases options : readOptions line rest word.tail with
        | error e =>
          rw [options] at same
          rw [Outcome.map_eq_error.mp same.symm]
        | ok read =>
          rw [options] at same
          obtain ⟨read', options', taken⟩ := Outcome.map_eq_ok.mp same.symm
          obtain ⟨set, took⟩ := read
          obtain ⟨set', took'⟩ := read'
          obtain rfl : took' = took := taken
          rw [options']
          cases took' with
          | false => exact ih set set'
          | true =>
            cases rest with
            | nil => rfl
            | cons next others => exact skip next others rfl set set'

/-! ## Words in front of others -/

/-- Plain words do the same in front of any others, if each `-f` alone among them takes a file in
both cases or in none. -/
theorem readWords_front {R : Except UsageFault (CommandLine × List Text) →
      Except UsageFault (CommandLine × List Text) → Prop}
    {front back back' : List Text} (fails : ∀ e, R (.error e) (.error e))
    (adds : ∀ word x y, R x y → R (x.map (withTemplate word)) (y.map (withTemplate word)))
    (tails : ∀ line, R (readWords line back) (readWords line back'))
    (plain : ∀ word ∈ front, Plain word) (starts : takesFile back = false)
    (agree : ∀ before after, front = before ++ ['-', 'f'] :: after →
      takesFile (after ++ back) = takesFile (after ++ back')) (line : CommandLine) :
    R (readWords line (front ++ back)) (readWords line (front ++ back')) := by
  induction front using words_induction generalizing line with
  | nil => exact tails line
  | cons word rest ih skip =>
    obtain ⟨first, others⟩ := List.forall_mem_cons.mp plain
    have reads := ih others fun before after split =>
      agree (word :: before) after (by rw [split]; rfl)
    rw [List.cons_append, List.cons_append]
    cases first with
    | strict =>
      rw [readWords_strict, readWords_strict]
      exact reads _
    | value has given =>
      rw [readWords_attached has given, readWords_attached has given]
      cases setValue line _ _ with
      | error e => exact fails e
      | ok set => exact reads set
    | other other =>
      have names := isTemplate_of_other other
      rw [readWords_template names, readWords_template names]
      exact adds _ _ _ (reads line)
    | settings file =>
      by_cases given : file = []
      · subst given
        have same := agree [] rest rfl
        cases takes : takesFile (rest ++ back) with
        | false =>
          rw [readWords_skip takes, readWords_skip (same ▸ takes)]
          exact reads _
        | true =>
          cases rest with
          | nil => exact absurd takes (by simp [starts])
          | cons next rest =>
            simp only [List.cons_append] at takes same ⊢
            rw [readWords_takes takes, readWords_takes (same ▸ takes)]
            exact skip next rest rfl (List.forall_mem_cons.mp others).2 (fun before after split =>
              agree (['-', 'f'] :: next :: before) after (by rw [split]; rfl)) _
      · rw [readWords_file given, readWords_file given]
        exact reads _

/-! ## Two ways to write a value -/

theorem takesFile_cons_eq_true {next : Text} : takesFile (next :: rest) = true ↔
    isOption next = false ∧ ∃ word ∈ rest, isTemplate word = true := by
  simp [takesFile]

section

variable {front back : List Text}

/-- An `-f` alone in front of both ways takes a file in both cases or in none. -/
theorem takesFile_eq {before after : List Text} (sound : ¬ Mistaken front value back)
    (split : front = before ++ ['-', 'f'] :: after) :
    takesFile (after ++ ('-' :: option :: value) :: back) =
      takesFile (after ++ ['-', option] :: value :: back) := by
  cases after with
  | nil => simp [takesFile, isOption]
  | cons next others =>
    simp only [List.cons_append, takesFile, List.any_append, List.any_cons, isTemplate_option,
      Bool.false_or]
    cases other : isOption next with
    | true => rfl
    | false =>
      cases looks : isTemplate value with
      | false => rfl
      | true =>
        -- There is another template, as otherwise this one would be taken by mistake.
        have seen : (others ++ back).any isTemplate = true := by
          cases none : (others ++ back).any isTemplate with
          | true => rfl
          | false =>
            have last (word : Text) (later : word ∈ others ++ back) : isTemplate word = false :=
              Bool.eq_false_iff.mpr (List.any_eq_false.mp none word later)
            exact absurd ⟨looks, before, next, others, split, other, last⟩ sound
        rw [Bool.true_or, Bool.or_true, ← List.any_append, seen]

/-- Where nothing is mistaken, both ways to write a value are read alike. -/
theorem readWords_separate_eq (plain : ∀ word ∈ front, Plain word) (has : HasValue option)
    (given : value ≠ []) (sound : ¬ Mistaken front value back) (line : CommandLine) :
    readWords line (front ++ ['-', option] :: value :: back) =
      readWords line (front ++ ('-' :: option :: value) :: back) := by
  refine (readWords_front (fun _ => rfl) (fun word x y same => congrArg _ same) (fun line => ?_)
    plain ?_ (fun before after split => takesFile_eq sound split) line).symm
  · rw [readWords_attached has given, readWords_separate has]
  · simp [takesFile, isOption]

theorem Loses.add {x y : Except UsageFault (CommandLine × List Text)} (word : Text)
    (h : Loses x y) : Loses (x.map (withTemplate word)) (y.map (withTemplate word)) := by
  intro read templates hx
  obtain ⟨⟨read, templates⟩, known, shape⟩ := Outcome.map_eq_ok.mp hx
  obtain ⟨rfl, rfl⟩ := Prod.mk.inj shape
  obtain ⟨read', earlier, template, later, rfl, rfl⟩ := h _ _ known
  exact ⟨read', word :: earlier, template, later, rfl, rfl⟩

/-- An `-f` alone that takes the template as its file. -/
theorem readWords_settings_loses {template : Text} {others others' : List Text}
    (none : takesFile (template :: others) = false)
    (takes : takesFile (template :: others') = true)
    (same : ∀ line, readWords line others' = readWords line others) (line : CommandLine) :
    Loses (readWords line (['-', 'f'] :: template :: others))
      (readWords line (['-', 'f'] :: template :: others')) := by
  intro read templates attached
  have names := isTemplate_of_other (takesFile_cons_eq_true.mp takes).1
  rw [readWords_skip none, readWords_template names] at attached
  obtain ⟨⟨read, later⟩, known, shape⟩ := Outcome.map_eq_ok.mp attached
  obtain ⟨rfl, rfl⟩ := Prod.mk.inj shape
  have alike := readWords_same { line with settings := .skip }
    { line with settings := .explicit template } others
  rw [known] at alike
  obtain ⟨⟨read', _⟩, separate, rfl⟩ := Outcome.map_eq_ok.mp alike.symm
  exact ⟨read', [], template, _, rfl, by rw [readWords_takes takes, same, separate]; rfl⟩

/-- A mistake takes one template away. -/
theorem readWords_separate_loses (plain : ∀ word ∈ front, Plain word) (has : HasValue option)
    (given : value ≠ []) (mistaken : Mistaken front value back) (line : CommandLine) :
    Loses (readWords line (front ++ ('-' :: option :: value) :: back))
      (readWords line (front ++ ['-', option] :: value :: back)) := by
  obtain ⟨looks, before, template, after, rfl, other, last⟩ := mistaken
  obtain ⟨inside, behind⟩ := List.forall_mem_append.mp last
  have names := isTemplate_of_other other
  have unseen := List.forall_mem_append.mpr
    ⟨inside, List.forall_mem_cons.mpr ⟨isTemplate_option option value, behind⟩⟩
  have none : takesFile (template :: (after ++ ('-' :: option :: value) :: back)) = false := by
    refine Bool.eq_false_iff.mpr fun takes => ?_
    obtain ⟨-, word, later, seen⟩ := takesFile_cons_eq_true.mp takes
    exact Bool.false_ne_true ((unseen word later).symm.trans seen)
  have takes : takesFile (template :: (after ++ ['-', option] :: value :: back)) = true :=
    takesFile_cons_eq_true.mpr ⟨other, value, by simp, looks⟩
  -- After the template no other word is an occasion for a mistake.
  have sound : ¬ Mistaken after value back := by
    rintro ⟨-, before', word, after', split, other', -⟩
    have unseen := inside word (by simp [split])
    exact Bool.false_ne_true (unseen.symm.trans (isTemplate_of_other other'))
  simp only [List.append_assoc, List.cons_append]
  refine readWords_front (fun e => ?_) (fun word _ _ => .add word)
    (readWords_settings_loses none takes fun line =>
      readWords_separate_eq (fun word later => ?_) has given sound line)
    (fun word earlier => ?_) rfl (fun before' after' split => ?_) line
  · exact nofun
  · exact plain word (by simp [later])
  · exact plain word (by simp [earlier])
  · cases after' with
    | nil => rfl
    | cons next others =>
      simp [takesFile, names]

theorem template_of_ofWords {words : List Text} (h : ofWords words = .ok line) :
    ∃ read template, readWords {} words = .ok (read, [template]) := by
  unfold ofWords at h
  split at h
  · cases h
  · cases h
  · exact ⟨_, _, by assumption⟩
  · cases h

/-- The value of an option may be written as a word of its own, unless an `-f` alone mistakes it for
the template; the template is missed then. -/
theorem ofWords_separate (plain : ∀ word ∈ front, Plain word) (has : HasValue option)
    (given : value ≠ []) :
    (¬ Mistaken front value back →
      ofWords (front ++ ['-', option] :: value :: back) =
        ofWords (front ++ ('-' :: option :: value) :: back)) ∧
    (Mistaken front value back → ∀ line,
      ofWords (front ++ ('-' :: option :: value) :: back) = .ok line →
        ofWords (front ++ ['-', option] :: value :: back) = .error .missingTemplate) := by
  constructor
  · intro sound
    rw [ofWords, ofWords, readWords_separate_eq plain has given sound]
  · intro mistaken line attached
    obtain ⟨read, template, attached⟩ := template_of_ofWords attached
    obtain ⟨read', earlier, lost, later, one, separate⟩ :=
      readWords_separate_loses plain has given mistaken {} _ _ attached
    have none : earlier ++ later = [] := by
      have count := congrArg List.length one
      simp only [List.length_append, List.length_cons, List.length_nil] at count
      exact List.eq_nil_of_length_eq_zero (by rw [List.length_append]; omega)
    rw [ofWords, separate, none]

end

end

/-- No settings file, and a template. -/
def withoutSettings : List Text :=
  ["-f".toList, "t.tpl".toList]

theorem plain_withoutSettings : ∀ word ∈ withoutSettings, Plain word :=
  List.forall_mem_cons.mpr ⟨.settings [], List.forall_mem_singleton.mpr (.other (by decide))⟩

/-- The name of an output file looks like a template to the `-f`. -/
theorem ofWords_separate_output :
    ofWords ["-f".toList, "t.tpl".toList, "-o".toList, "out".toList] = .error .missingTemplate := by
  have has : HasValue 'o' := .inr (.inr rfl)
  have mistaken : Mistaken withoutSettings "out".toList [] :=
    ⟨by decide, [], "t.tpl".toList, [], rfl, by decide, by simp⟩
  exact (ofWords_separate plain_withoutSettings has (by decide)).2 mistaken
    { settings := .skip, output := some "out".toList, input := .path "t.tpl".toList } rfl

/-- The two ways to write a value do not always mean the same. -/
theorem ofWords_not_interchangeable :
    ¬ ∀ (front back : List Text) (option : Char) (value : Text) (line : CommandLine),
      (∀ word ∈ front, Plain word) → HasValue option → value ≠ [] →
        ofWords (front ++ ('-' :: option :: value) :: back) = .ok line →
          ofWords (front ++ ['-', option] :: value :: back) = .ok line := by
  intro same
  have read := same withoutSettings [] 'o' "out".toList
    { settings := .skip, output := some "out".toList, input := .path "t.tpl".toList }
    plain_withoutSettings (.inr (.inr rfl)) (by decide) rfl
  cases read

end CommandLine

end LineTemplate
