import LineTemplate.Options.Config
import Mathlib

/-!
# Valid options

Options are set by calls with a name and a text. From the defaults on they stay valid, whatever the
calls are. A call that succeeds changes the option of its name and no other, and it is refused just
when no valid options could come of it. The options after a call that is refused are those on which
it gave up, which are the ones before it.
-/

namespace LineTemplate

open Unicode

/-! ## Texts as strings, and pieces between separators -/

namespace Text

variable {separator : Char} {s : Text} {pieces : List Text}

theorem str_eq_iff {string : String} : s.str = string ↔ s = string.toList := by
  constructor
  · rintro rfl
    rw [str, String.toList_ofList]
  · rintro rfl
    rw [str, String.ofList_toList]

theorem splitOn_eq (separator : Char) (s : Text) :
    splitOn separator s = List.splitOn separator s := by
  induction s with
  | nil => rfl
  | cons c rest ih =>
    rw [splitOn, ih, List.splitOn_cons_eq_if_modifyHead]
    obtain ⟨first, more, split⟩ := List.exists_cons_of_ne_nil (List.splitOn_ne_nil separator rest)
    rw [split]
    by_cases ends : c = separator <;> simp [ends, consHead]

theorem not_mem_of_mem_splitOn {piece : Text} (mem : piece ∈ splitOn separator s) :
    separator ∉ piece := by
  induction s generalizing piece with
  | nil =>
    rw [List.mem_singleton.mp mem]
    exact List.not_mem_nil
  | cons c rest ih =>
    rw [splitOn] at mem
    split at mem
    · rcases List.mem_cons.mp mem with rfl | later
      · exact List.not_mem_nil
      · exact ih later
    · rename_i other
      cases split : splitOn separator rest with
      | nil =>
        rw [split, consHead] at mem
        rw [List.mem_singleton.mp mem, List.mem_singleton]
        exact Ne.symm other
      | cons first more =>
        rw [split, consHead] at mem
        rw [split] at ih
        rcases List.mem_cons.mp mem with rfl | later
        · rw [List.mem_cons, not_or]
          exact ⟨Ne.symm other, ih List.mem_cons_self⟩
        · exact ih (List.mem_cons_of_mem first later)

/-- The pieces of a text are the texts without separators of which it is joined. -/
theorem splitOn_eq_iff : splitOn separator s = pieces ↔
    pieces ≠ [] ∧ (∀ piece ∈ pieces, separator ∉ piece) ∧ join [separator] pieces = s := by
  constructor
  · rintro rfl
    refine ⟨?_, fun piece => not_mem_of_mem_splitOn, ?_⟩
    · rw [splitOn_eq]
      exact List.splitOn_ne_nil separator s
    · rw [splitOn_eq, join, List.intercalate_splitOn]
  · rintro ⟨some, apart, rfl⟩
    rw [splitOn_eq, join, List.splitOn_intercalate separator apart some]

end Text

/-! ## Marks -/

namespace Indicators

/-- What a mark is for. -/
inductive Use where
  | short
  | long
  | enter
  | leave
  | query
  | switch
  deriving DecidableEq

namespace Use

/-- The option that sets the mark. -/
def option : Use → String
  | short => "meta_indicator"
  | long => "meta_command_indicator"
  | enter => "cursor_open"
  | leave => "cursor_close"
  | query => "cursor_query"
  | switch => "cursor_select"

def mark (ind : Indicators) : Use → Text
  | short => ind.mark
  | long => ind.longMark
  | enter => ind.cursorOpen
  | leave => ind.cursorClose
  | query => ind.cursorQuery
  | switch => ind.cursorSelect

def replace (ind : Indicators) (mark : Text) : Use → Indicators
  | short => { ind with mark }
  | long => { ind with longMark := mark }
  | enter => { ind with cursorOpen := mark }
  | leave => { ind with cursorClose := mark }
  | query => { ind with cursorQuery := mark }
  | switch => { ind with cursorSelect := mark }

end Use

variable {ind ind' : Indicators} {name value : Text} {use other : Use}

theorem mark_replace (ind : Indicators) (value : Text) (use : Use) :
    use.mark (use.replace ind value) = value := by
  cases use <;> rfl

theorem mark_replace_of_ne (h : other ≠ use) (ind : Indicators) (value : Text) :
    other.mark (use.replace ind value) = other.mark ind := by
  cases use <;> cases other <;> first | rfl | exact absurd rfl h

theorem eq_of_marks (same : ∀ use : Use, use.mark ind = use.mark ind') : ind = ind' := by
  have short := same .short
  have long := same .long
  have enter := same .enter
  have leave := same .leave
  have query := same .query
  have switch := same .switch
  obtain ⟨_, _, _, _, _, _⟩ := ind
  obtain ⟨_, _, _, _, _, _⟩ := ind'
  simp only [Use.mark] at short long enter leave query switch
  subst short long enter leave query switch
  rfl

theorem set?_option (ind : Indicators) (value : Text) (use : Use) :
    ind.set? use.option.toList value = some (use.replace ind value) := by
  cases use <;> rfl

theorem set?_eq_some (h : ind.set? name value = some ind') :
    ∃ use : Use, name = use.option.toList ∧ ind' = use.replace ind value := by
  rw [set?] at h
  split at h
  · exact ⟨.short, Text.str_eq_iff.mp ‹_›, (Option.some.inj h).symm⟩
  · exact ⟨.long, Text.str_eq_iff.mp ‹_›, (Option.some.inj h).symm⟩
  · exact ⟨.enter, Text.str_eq_iff.mp ‹_›, (Option.some.inj h).symm⟩
  · exact ⟨.leave, Text.str_eq_iff.mp ‹_›, (Option.some.inj h).symm⟩
  · exact ⟨.query, Text.str_eq_iff.mp ‹_›, (Option.some.inj h).symm⟩
  · exact ⟨.switch, Text.str_eq_iff.mp ‹_›, (Option.some.inj h).symm⟩
  · cases h

/-- The marks can be told from the text around them, and directives from their long form. -/
structure Usable (ind : Indicators) : Prop where
  nonempty : ∀ use : Use, use.mark ind ≠ []
  unbroken : ∀ use : Use, ∀ c ∈ use.mark ind, isBlank c = false
  distinct : ind.mark ≠ ind.longMark

theorem isUsable_iff {mark : Text} :
    isUsable mark = true ↔ mark ≠ [] ∧ ∀ c ∈ mark, isBlank c = false := by
  simp [isUsable]

theorem mem_named_iff {entry : String × Text} :
    entry ∈ ind.named ↔ ∃ use : Use, entry = (use.option, use.mark ind) := by
  constructor
  · intro mem
    simp only [named, List.mem_cons, List.not_mem_nil, or_false] at mem
    rcases mem with rfl | rfl | rfl | rfl | rfl | rfl
    · exact ⟨.short, rfl⟩
    · exact ⟨.long, rfl⟩
    · exact ⟨.enter, rfl⟩
    · exact ⟨.leave, rfl⟩
    · exact ⟨.query, rfl⟩
    · exact ⟨.switch, rfl⟩
  · rintro ⟨use, rfl⟩
    cases use <;> simp [named, Use.option, Use.mark]

/-- The check finds out whether the marks are usable, and leaves them as they are. -/
theorem validated_eq_ok_iff : ind.validated = .ok ind' ↔ ind.Usable ∧ ind' = ind := by
  rw [validated]
  split
  · rename_i option mark found
    refine ⟨nofun, fun ⟨usable, _⟩ => ?_⟩
    obtain ⟨use, same⟩ := mem_named_iff.mp (List.mem_of_find?_eq_some found)
    have good := isUsable_iff.mpr ⟨usable.nonempty use, usable.unbroken use⟩
    have bad := List.find?_some found
    simp only [(Prod.mk.inj same).2, good] at bad
    cases bad
  · rename_i found
    have good (use : Use) : use.mark ind ≠ [] ∧ ∀ c ∈ use.mark ind, isBlank c = false := by
      have all := List.find?_eq_none.mp found _ (mem_named_iff.mpr ⟨use, rfl⟩)
      exact isUsable_iff.mp (by simpa using all)
    split
    · rename_i equal
      exact ⟨nofun, fun ⟨usable, _⟩ => absurd equal usable.distinct⟩
    · rename_i distinct
      rw [Except.ok.injEq, eq_comm]
      exact ⟨fun same => ⟨⟨fun use => (good use).1, fun use => (good use).2, distinct⟩, same⟩,
        And.right⟩

theorem usable_default : ({} : Indicators).Usable :=
  (validated_eq_ok_iff.mp (show ({} : Indicators).validated = .ok {} by cbv)).1

end Indicators

/-! ## Options -/

/-- What an option is set to. -/
inductive OptionValue where
  | mark (mark : Text)
  | truth (b : Bool)
  | depth (n : Nat)
  | directories (list : List Text)

/-- What a text makes of an option. Directories are put behind those that there are. -/
def OptionValue.Becomes (text : Text) : OptionValue → OptionValue → Prop
  | .mark _, .mark new => new = text
  | .truth _, .truth new => Config.readBool? text = some new
  | .depth _, .depth new => Number.readNat? UInt64.size text.trim = some new
  | .directories old, .directories new => ∃ pieces : List Text, pieces ≠ [] ∧
      (∀ piece ∈ pieces, ':' ∉ piece) ∧ Text.join [':'] pieces = text ∧
        new = old ++ pieces.filter fun piece => !piece.isEmpty
  | _, _ => False

namespace Config

/-- The options. -/
inductive Field where
  | mark (use : Indicators.Use)
  | strict
  | maxDepth
  | includeDirs
  deriving DecidableEq

namespace Field

def option : Field → String
  | mark use => use.option
  | strict => "strict"
  | maxDepth => "max_depth"
  | includeDirs => "include_path"

def name (field : Field) : Text :=
  field.option.toList

def value (config : Config) : Field → OptionValue
  | mark use => .mark (use.mark config.indicators)
  | strict => .truth config.strict
  | maxDepth => .depth config.maxDepth
  | includeDirs => .directories config.includeDirs

end Field

structure Valid (config : Config) : Prop where
  usable : config.indicators.Usable
  deep : 1 ≤ config.maxDepth

/-- Whether a call with a name and a text sets an option, and the options after it, also if it
fails. -/
def call (config : Config) (name text : Text) : Except OptionFault Bool × Config :=
  match (update name text).run config with
  | .ok isOption next => (.ok isOption, next)
  | .error fault next => (.error fault, next)

/-- The other options stay what they are. -/
def AgreesBut (config : Config) (field : Field) (next : Config) : Prop :=
  ∀ other : Field, other ≠ field → other.value next = other.value config

/-- A text is given to the option of a name, and to no other one. -/
def Changes (config : Config) (name text : Text) (next : Config) : Prop :=
  ∃ field : Field, field.name = name ∧ (field.value config).Becomes text (field.value next) ∧
    config.AgreesBut field next

section

variable {config next : Config} {name text : Text} {field : Field}

theorem eq_of_values (same : ∀ field : Field, field.value config = field.value next) :
    config = next := by
  have marks : config.indicators = next.indicators :=
    Indicators.eq_of_marks fun use => OptionValue.mark.inj (same (.mark use))
  have strict := OptionValue.truth.inj (same .strict)
  have depth := OptionValue.depth.inj (same .maxDepth)
  have dirs := OptionValue.directories.inj (same .includeDirs)
  obtain ⟨_, _, _, _⟩ := config
  obtain ⟨_, _, _, _⟩ := next
  dsimp only at marks strict depth dirs
  subst marks strict depth dirs
  rfl

theorem AgreesBut.eq {next' : Config} (agrees : config.AgreesBut field next)
    (agrees' : config.AgreesBut field next') (here : field.value next = field.value next') :
    next = next' := by
  refine eq_of_values fun other => ?_
  by_cases same : other = field
  · exact same ▸ here
  · exact (agrees other same).trans (agrees' other same).symm

theorem readDepth_eq_ok_iff {n : Nat} : readDepth text = .ok n ↔
    Number.readNat? UInt64.size text.trim = some n ∧ 1 ≤ n := by
  rw [readDepth]
  cases read : Number.readNat? UInt64.size text.trim with
  | none => exact ⟨nofun, nofun⟩
  | some m =>
    cases m with
    | zero => exact ⟨nofun, fun ⟨same, positive⟩ => by cases same; cases positive⟩
    | succ m =>
      constructor
      · rintro ⟨⟩
        exact ⟨rfl, Nat.succ_pos m⟩
      · rintro ⟨⟨⟩, -⟩
        rfl

/-- Only a name of an option sets anything. -/
theorem named_or_run_update (config : Config) (name text : Text) :
    (∃ field : Field, field.name = name) ∨ (update name text).run config = .ok false config := by
  rw [update, EStateM.run_bind, EStateM.run_get]
  dsimp only
  split
  · rename_i ind set
    obtain ⟨use, rfl, -⟩ := Indicators.set?_eq_some set
    exact .inl ⟨.mark use, rfl⟩
  · split
    · exact .inl ⟨.strict, (Text.str_eq_iff.mp ‹_›).symm⟩
    · exact .inl ⟨.maxDepth, (Text.str_eq_iff.mp ‹_›).symm⟩
    · exact .inl ⟨.includeDirs, (Text.str_eq_iff.mp ‹_›).symm⟩
    · exact .inr rfl

theorem named_or_call (config : Config) (name text : Text) :
    (∃ field : Field, field.name = name) ∨ config.call name text = (.ok false, config) := by
  rcases named_or_run_update config name text with named | ran
  · exact .inl named
  · rw [call, ran]
    exact .inr rfl

theorem call_mark (config : Config) (use : Indicators.Use) (text : Text) :
    config.call (Field.mark use).name text =
      match (use.replace config.indicators text).validated with
      | .ok indicators => (.ok true, { config with indicators })
      | .error fault => (.error fault, config) := by
  rw [Field.name, Field.option, call, update, EStateM.run_bind, EStateM.run_get]
  dsimp only
  rw [Indicators.set?_option]
  dsimp only
  cases (use.replace config.indicators text).validated <;> rfl

theorem call_strict (config : Config) (text : Text) :
    config.call "strict".toList text = match readBool? text with
      | some strict => (.ok true, { config with strict })
      | none => (.error (.notBoolean text), config) := by
  have unset : config.indicators.set? "strict".toList text = none := rfl
  rw [call, update, EStateM.run_bind, EStateM.run_get]
  dsimp only
  rw [unset, Text.str_eq_iff.mpr rfl]
  dsimp only
  cases readBool? text <;> rfl

theorem call_maxDepth (config : Config) (text : Text) :
    config.call "max_depth".toList text = match readDepth text with
      | .ok maxDepth => (.ok true, { config with maxDepth })
      | .error fault => (.error fault, config) := by
  have unset : config.indicators.set? "max_depth".toList text = none := rfl
  rw [call, update, EStateM.run_bind, EStateM.run_get]
  dsimp only
  rw [unset, Text.str_eq_iff.mpr rfl]
  dsimp only
  cases readDepth text <;> rfl

theorem call_includeDirs (config : Config) (text : Text) :
    config.call "include_path".toList text = (.ok true, { config with
      includeDirs :=
        config.includeDirs ++ (Text.splitOn ':' text).filter fun piece => !piece.isEmpty }) := by
  have unset : config.indicators.set? "include_path".toList text = none := rfl
  rw [call, update, EStateM.run_bind, EStateM.run_get]
  dsimp only
  rw [unset, Text.str_eq_iff.mpr rfl]
  rfl

theorem agreesBut_mark (config : Config) (use : Indicators.Use) (text : Text) :
    config.AgreesBut (.mark use)
      { config with indicators := use.replace config.indicators text } := by
  intro other ne
  cases other with
  | mark use' =>
    have ne' : use' ≠ use := fun same => ne (congrArg Field.mark same)
    exact congrArg OptionValue.mark (Indicators.mark_replace_of_ne ne' _ _)
  | strict => rfl
  | maxDepth => rfl
  | includeDirs => rfl

/-- An option is set to what its text says, and no other one is, if that leaves them all valid. -/
theorem call_name_eq_set_iff (valid : config.Valid) :
    config.call field.name text = (.ok true, next) ↔
      (field.value config).Becomes text (field.value next) ∧ config.AgreesBut field next ∧
        next.Valid := by
  cases field with
  | mark use =>
    rw [call_mark]
    constructor
    · intro set
      split at set
      · rename_i ind checked
        cases set
        obtain ⟨usable, rfl⟩ := Indicators.validated_eq_ok_iff.mp checked
        exact ⟨Indicators.mark_replace _ _ _, agreesBut_mark _ _ _, usable, valid.deep⟩
      · cases set
    · rintro ⟨becomes, agrees, valid'⟩
      have same : next = { config with indicators := use.replace config.indicators text } := by
        refine agrees.eq (agreesBut_mark _ _ _) (congrArg OptionValue.mark ?_)
        rw [Indicators.mark_replace]
        exact becomes
      have usable := valid'.usable
      rw [same] at usable
      rw [Indicators.validated_eq_ok_iff.mpr ⟨usable, rfl⟩, same]
  | strict =>
    have off (strict : Bool) : config.AgreesBut .strict { config with strict } := by
      intro other ne
      cases other <;> first | rfl | exact absurd rfl ne
    rw [Field.name, Field.option, call_strict]
    constructor
    · intro set
      split at set
      · rename_i b read
        cases set
        exact ⟨read, off b, valid.usable, valid.deep⟩
      · cases set
    · rintro ⟨becomes, agrees, -⟩
      have read : readBool? text = some next.strict := becomes
      rw [read, agrees.eq (off next.strict) rfl]
  | maxDepth =>
    have off (maxDepth : Nat) : config.AgreesBut .maxDepth { config with maxDepth } := by
      intro other ne
      cases other <;> first | rfl | exact absurd rfl ne
    rw [Field.name, Field.option, call_maxDepth]
    constructor
    · intro set
      split at set
      · rename_i n read
        cases set
        obtain ⟨read, positive⟩ := readDepth_eq_ok_iff.mp read
        exact ⟨read, off n, valid.usable, positive⟩
      · cases set
    · rintro ⟨becomes, agrees, valid'⟩
      rw [readDepth_eq_ok_iff.mpr ⟨becomes, valid'.deep⟩, agrees.eq (off next.maxDepth) rfl]
  | includeDirs =>
    have off (includeDirs : List Text) :
        config.AgreesBut .includeDirs { config with includeDirs } := by
      intro other ne
      cases other <;> first | rfl | exact absurd rfl ne
    rw [Field.name, Field.option, call_includeDirs]
    constructor
    · rintro ⟨⟩
      obtain ⟨some, apart, joined⟩ := Text.splitOn_eq_iff.mp (Eq.refl (Text.splitOn ':' text))
      exact ⟨⟨_, some, apart, joined, rfl⟩, off _, valid.usable, valid.deep⟩
    · rintro ⟨⟨pieces, some, apart, joined, appended⟩, agrees, -⟩
      rw [Text.splitOn_eq_iff.mpr ⟨some, apart, joined⟩, ← appended]
      rw [← agrees.eq (off next.includeDirs) rfl]

/-- A call with the name of an option sets it, or is refused and leaves all options as they were. -/
theorem call_name (config : Config) (field : Field) (text : Text) :
    (config.call field.name text).1 = .ok true ∨
      ∃ fault, config.call field.name text = (.error fault, config) := by
  cases field with
  | mark use =>
    rw [call_mark]
    split
    · exact .inl rfl
    · exact .inr ⟨_, rfl⟩
  | strict =>
    rw [Field.name, Field.option, call_strict]
    split
    · exact .inl rfl
    · exact .inr ⟨_, rfl⟩
  | maxDepth =>
    rw [Field.name, Field.option, call_maxDepth]
    split
    · exact .inl rfl
    · exact .inr ⟨_, rfl⟩
  | includeDirs =>
    rw [Field.name, Field.option, call_includeDirs]
    exact .inl rfl

/-- A call that is refused leaves the options as they were. -/
theorem call_fails {fault : OptionFault} (h : config.call name text = (.error fault, next)) :
    next = config := by
  rcases named_or_call config name text with ⟨field, rfl⟩ | unset
  · rcases call_name config field text with set | ⟨fault', refused⟩
    · rw [h] at set
      cases set
    · cases h.symm.trans refused
      rfl
  · cases h.symm.trans unset

theorem call_eq_unset_iff :
    config.call name text = (.ok false, next) ↔
      next = config ∧ ∀ field : Field, field.name ≠ name := by
  constructor
  · intro unset
    have free (field : Field) : field.name ≠ name := by
      rintro rfl
      rcases call_name config field text with set | ⟨fault, refused⟩
      · rw [unset] at set
        cases set
      · cases unset.symm.trans refused
    rcases named_or_call config name text with ⟨field, named⟩ | unset'
    · exact absurd named (free field)
    · cases unset.symm.trans unset'
      exact ⟨rfl, free⟩
  · rintro ⟨rfl, free⟩
    rcases named_or_call next name text with ⟨field, named⟩ | unset
    · exact absurd named (free field)
    · exact unset

theorem call_eq_set_iff (valid : config.Valid) :
    config.call name text = (.ok true, next) ↔ config.Changes name text next ∧ next.Valid := by
  constructor
  · intro set
    rcases named_or_call config name text with ⟨field, rfl⟩ | unset
    · obtain ⟨becomes, agrees, valid'⟩ := (call_name_eq_set_iff valid).mp set
      exact ⟨⟨field, rfl, becomes, agrees⟩, valid'⟩
    · cases set.symm.trans unset
  · rintro ⟨⟨field, rfl, becomes, agrees⟩, valid'⟩
    exact (call_name_eq_set_iff valid).mpr ⟨becomes, agrees, valid'⟩

/-- What is set by name is valid, and any valid options that could come of it do. -/
theorem apply_eq_some_iff (valid : config.Valid) :
    config.apply name text = .ok (some next) ↔ config.Changes name text next ∧ next.Valid := by
  rw [← call_eq_set_iff valid, apply, call]
  rcases (update name text).run config with ⟨_ | _, _⟩ | _ <;> simp

/-! ## Calls -/

theorem valid_default : ({} : Config).Valid :=
  ⟨Indicators.usable_default, by decide⟩

/-- The options after calls with names and texts, from the defaults on. -/
def afterCalls (calls : List (Text × Text)) : Config :=
  calls.foldl (fun config (name, text) => (config.call name text).2) {}

/-- What a call says about the options before it and after it. -/
def CallLaw (config : Config) (name text : Text) : Except OptionFault Bool × Config → Prop
  | (.ok true, next) => config.Changes name text next ∧ next.Valid
  | (.ok false, next) => next = config ∧ ∀ field : Field, field.name ≠ name
  | (.error _, next) => next = config ∧ (∃ field : Field, field.name = name) ∧
      ∀ other, config.Changes name text other → ¬ other.Valid

theorem call_law (valid : config.Valid) (name text : Text) :
    config.CallLaw name text (config.call name text) := by
  rcases result : config.call name text with ⟨answer, next⟩
  cases answer with
  | error fault =>
    refine ⟨call_fails result, ?_, fun other changes valid' => ?_⟩
    · rcases named_or_call config name text with named | unset
      · exact named
      · cases result.symm.trans unset
    · cases result.symm.trans ((call_eq_set_iff valid).mpr ⟨changes, valid'⟩)
  | ok isOption =>
    cases isOption with
    | false => exact call_eq_unset_iff.mp result
    | true => exact (call_eq_set_iff valid).mp result

theorem call_valid (valid : config.Valid) (name text : Text) : (config.call name text).2.Valid := by
  have law := call_law valid name text
  generalize config.call name text = result at law
  match result, law with
  | (.ok true, _), ⟨_, valid'⟩ => exact valid'
  | (.ok false, _), ⟨rfl, _⟩ => exact valid
  | (.error _, _), ⟨rfl, _⟩ => exact valid

theorem foldl_call_valid (valid : config.Valid) (calls : List (Text × Text)) :
    (calls.foldl (fun config (name, text) => (config.call name text).2) config).Valid := by
  induction calls generalizing config with
  | nil => exact valid
  | cons head calls ih => exact ih (call_valid valid head.1 head.2)

/-- Calls keep the options valid. One more call sets the option of its name and no other; it is
refused if no valid options come of that, and without effect if no option has the name. -/
theorem calls_lawful (calls : List (Text × Text)) (name text : Text) :
    (afterCalls calls).Valid ∧
      (afterCalls calls).CallLaw name text ((afterCalls calls).call name text) :=
  have valid : (afterCalls calls).Valid := foldl_call_valid valid_default calls
  ⟨valid, call_law valid name text⟩

end

end Config

end LineTemplate
