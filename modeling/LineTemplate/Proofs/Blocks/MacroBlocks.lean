import LineTemplate.Proofs.Blocks.Bodies
import LineTemplate.Proofs.Lines.Trimming
import LineTemplate.Proofs.Sources.Progress

/-!
# Macro blocks in a history

The blocks of macros among the lines that a run has read. A block is opened by a line that is acted
on, and while it is open, all lines that are read belong to its body, so the block is a part of the
history without gaps. It ends with the first line that closes more blocks than the lines of the body
have opened.
-/

namespace LineTemplate

namespace Statement

variable {ind : Indicators} {isMacro : Text → Bool} {raw raw' : Text} {kind : Directive}
  {object expression : Option Text}

theorem classify_raw {statement : Statement} (h : classify ind isMacro raw = .ok statement) :
    statement.raw = raw := by
  rw [classify_eq] at h
  obtain ⟨content, -, rfl⟩ := Outcome.map_eq_ok.mp h
  rfl

theorem directiveContent_object {kind' : Directive} {argument : Text}
    (h : directiveContent kind' argument = .ok (.directive kind object expression))
    (hasObject : kind.description.hasObject = true) : ∃ name, object = some name := by
  unfold directiveContent at h
  dsimp only at h
  split at h
  · split at h
    · cases h
    · split at h
      · cases h
      · cases h
        exact ⟨_, rfl⟩
  · rename_i noObject
    split at h
    · cases h
    · cases h
      exact absurd hasObject noObject

theorem classify_object (h : classify ind isMacro raw = .ok ⟨raw', .directive kind object expression⟩)
    (hasObject : kind.description.hasObject = true) : ∃ name, object = some name := by
  unfold classify at h
  dsimp only at h
  split at h
  · cases h
  · obtain ⟨content, hc, same⟩ := Outcome.map_eq_ok.mp h
    cases same
    unfold contentOf at hc
    split at hc
    · unfold cursorContent at hc
      dsimp only at hc
      split at hc <;> split at hc <;> cases hc
    · split at hc
      · cases hc
      · split at hc
        · exact directiveContent_object hc hasObject
        · split at hc
          · cases hc
            exact ⟨_, rfl⟩
          · split at hc <;> cases hc

end Statement

namespace Nesting

theorem within_concat_eq_some {kind : BlockKind} {inner last : Nat} {roles : List Role}
    {role : Role} : within kind inner (roles ++ [role]) = some last ↔
      ∃ inner', within kind inner roles = some inner' ∧
        skip kind inner' role = some (kind, last) := by
  induction roles generalizing inner with
  | nil => simp [within_cons_eq_some]
  | cons first rest ih =>
    simp only [List.cons_append, within_cons_eq_some, ih]
    constructor
    · rintro ⟨between, skips, inner', further, last⟩
      exact ⟨inner', ⟨between, skips, further⟩, last⟩
    · rintro ⟨inner', ⟨between, skips, further⟩, last⟩
      exact ⟨between, skips, inner', further, last⟩

end Nesting

namespace Reading

def role (env : Environment) (reading : Reading) : Role :=
  env.config.indicators.role reading.line.text

/-- The line is a directive that is acted on: it was read in live text and not into a body. -/
structure Directs (env : Environment) (reading : Reading) (kind : Directive) (name : Text)
    (rest : Option Text) : Prop where
  uncaptured : reading.run.captures.isCapturing = false
  live : reading.run.conditionals.isActive = true
  meaning : reading.run.classify env reading.line.text =
    .ok ⟨reading.line.text, .directive kind (some name) rest⟩

end Reading

/-- A macro block: the line that opens it, the lines of its body, and the line that closes it. -/
structure MacroBlock where
  first : Reading
  body : List Reading
  last : Reading

namespace MacroBlock

def readings (b : MacroBlock) : List Reading :=
  b.first :: (b.body ++ [b.last])

def lines (b : MacroBlock) : List Line :=
  b.body.map Reading.line

/-- The block defines a macro: its first line is acted on, and its last line closes what the first
one opened. -/
structure Defines (env : Environment) (b : MacroBlock) (name : Text) (formals : Option Text) :
    Prop where
  opens : b.first.Directs env .defineMacro name formals
  matched : Matched .macroBody (b.body.map (·.role env))
  closes : b.last.role env = some (.macroBody, .closes)

/-- The block is in the history, and `later` was read after it. -/
def Completed (history : List Reading) (b : MacroBlock) (later : List Reading) : Prop :=
  ∃ before, history = before ++ b.readings ++ later

/-- The block defines a macro, and of all blocks in the history that define it, it ends last. -/
def Latest (env : Environment) (history : List Reading) (b : MacroBlock) (name : Text)
    (formals : Option Text) : Prop :=
  ∃ later, b.Completed history later ∧ b.Defines env name formals ∧
    ∀ b' formals' later', Completed history b' later' → b'.Defines env name formals' →
      later.length ≤ later'.length

/-- The definition that a block with these formals stands for. -/
structure Yields (b : MacroBlock) (name : Text) (formals : Option Text) (d : MacroDefinition) :
    Prop where
  name : d.name = name
  parameters : Parameter.listOfText (formals.getD []) = .ok d.parameters
  body : d.body = b.lines
  definedAt : d.definedAt = b.first.line.location

end MacroBlock

/-- A macro block at the end of a history that has not been closed: its first line, the lines of
its body so far, and how many blocks are open inside of it. -/
structure OpenBlock (env : Environment) (history : List Reading) (first : Reading)
    (body : List Reading) (name : Text) (formals : Option Text) (inner : Nat) : Prop where
  atEnd : first :: body <:+ history
  opens : first.Directs env .defineMacro name formals
  within : Nesting.within .macroBody 0 (body.map (·.role env)) = some inner

/-- What is captured of an open block. -/
def Capture.ofBlock (name : Text) (parameters : List Parameter) (first : Reading)
    (body : List Reading) (inner : Nat) : Capture where
  head := .macroBody name parameters
  active := true
  openedAt := first.line.location
  newestFirst := (body.map Reading.line).reverse
  depth := inner

section

variable {env : Environment} {history body later : List Reading} {reading first : Reading}
  {name : Text} {formals : Option Text} {inner : Nat} {b : MacroBlock}

/-- A line that is read opens a block, or goes on with the one that is open. -/
theorem openBlock_concat_iff :
    OpenBlock env (history ++ [reading]) first body name formals inner ↔
      (first = reading ∧ body = [] ∧ inner = 0 ∧ reading.Directs env .defineMacro name formals) ∨
      ∃ body' inner', body = body' ++ [reading] ∧
        OpenBlock env history first body' name formals inner' ∧
        Nesting.skip .macroBody inner' (reading.role env) = some (.macroBody, inner) := by
  constructor
  · rintro ⟨atEnd, opens, within⟩
    obtain ⟨init, split, before⟩ : ∃ init, first :: body = init ++ [reading] ∧ init <:+ history := by
      simpa using List.suffix_concat_iff.mp atEnd
    cases init with
    | nil =>
      cases split
      cases within
      exact .inl ⟨rfl, rfl, rfl, opens⟩
    | cons head body' =>
      obtain ⟨rfl, rfl⟩ : first = head ∧ body = body' ++ [reading] := List.cons.inj split
      right
      rw [List.map_append, List.map_singleton, Nesting.within_concat_eq_some] at within
      obtain ⟨inner', within, skips⟩ := within
      exact ⟨body', inner', rfl, ⟨before, opens, within⟩, skips⟩
  · rintro (⟨rfl, rfl, rfl, opens⟩ | ⟨body', inner', rfl, ⟨atEnd, opens, within⟩, skips⟩)
    · exact ⟨List.suffix_append .., opens, rfl⟩
    · obtain ⟨before, rfl⟩ := atEnd
      refine ⟨⟨before, by simp⟩, opens, ?_⟩
      rw [List.map_append, List.map_singleton, Nesting.within_concat_eq_some]
      exact ⟨inner', within, skips⟩

/-- Reading a line completes the block that it closes; the blocks completed before are completed
still. -/
theorem completed_concat_iff : b.Completed (history ++ [reading]) later ↔
    (later = [] ∧ b.last = reading ∧ b.first :: b.body <:+ history) ∨
      ∃ later', later = later' ++ [reading] ∧ b.Completed history later' := by
  constructor
  · rintro ⟨before, split⟩
    rcases List.eq_nil_or_concat later with rfl | ⟨later', last, rfl⟩
    · left
      have split' : history ++ [reading] = before ++ (b.first :: b.body) ++ [b.last] := by
        rw [split]
        simp [MacroBlock.readings]
      obtain ⟨rfl, last⟩ := List.append_inj' split' rfl
      exact ⟨rfl, (List.singleton_inj.mp last).symm, List.suffix_append ..⟩
    · right
      rw [List.concat_eq_append, ← List.append_assoc] at split
      obtain ⟨rfl, same⟩ := List.append_inj' split rfl
      cases same
      exact ⟨later', List.concat_eq_append, before, rfl⟩
  · rintro (⟨rfl, rfl, before, rfl⟩ | ⟨later', rfl, before, rfl⟩)
    · exact ⟨before, by simp [MacroBlock.readings]⟩
    · exact ⟨before, by simp⟩

/-- A block that defines a macro was open until its last line. -/
theorem MacroBlock.Defines.openBlock (h : b.Defines env name formals)
    (completed : b.Completed (history ++ [reading]) []) :
    OpenBlock env history b.first b.body name formals 0 ∧
      reading.role env = some (.macroBody, .closes) := by
  rcases completed_concat_iff.mp completed with ⟨-, rfl, atEnd⟩ | ⟨later, none, -⟩
  · exact ⟨⟨atEnd, h.opens, h.matched⟩, h.closes⟩
  · simp at none

end

end LineTemplate
