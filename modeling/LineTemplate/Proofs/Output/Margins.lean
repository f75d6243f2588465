import LineTemplate.Proofs.Output.History

/-!
# Margins of lines

Two directories to which the same was written since they were one (`Reindented`), but for the margin
of the lines: where a line begins with one text in the first, it begins with another one in the
second. Empty lines have no margin.
-/

namespace LineTemplate

/-- A line with a margin. -/
def Text.indent (margin line : Text) : Text :=
  if line.isEmpty then [] else margin ++ line

def Piece.indent (margin : Text) : Piece → Piece
  | line text => line (Text.indent margin text)
  | anchor index => anchor index

/-- The same piece, with one margin and with another one. -/
inductive Piece.Reindents (old new : Text) : Piece → Piece → Prop where
  | anchor (index : Nat) : Reindents old new (.anchor index) (.anchor index)
  | empty : Reindents old new (.line []) (.line [])
  | text {s : Text} (visible : s ≠ []) : Reindents old new (.line (old ++ s)) (.line (new ++ s))

theorem Piece.indent_nil : Piece.indent [] = id := by
  funext p
  cases p with
  | anchor index => rfl
  | line text => cases text <;> rfl

/-- Pieces that differ in the margin of lines are the same without it. -/
theorem Piece.bare_of_reindents {old new : Text} {ps ps' : List Piece}
    (h : List.Forall₂ (Piece.Reindents old new) ps ps') :
    ∃ bare : List Piece, ps = bare.map (Piece.indent old) ∧ ps' = bare.map (Piece.indent new) := by
  induction h with
  | nil => exact ⟨[], rfl, rfl⟩
  | cons same rest ih =>
    obtain ⟨bare, rfl, rfl⟩ := ih
    cases same with
    | anchor index => exact ⟨.anchor index :: bare, rfl, rfl⟩
    | empty => exact ⟨.line [] :: bare, rfl, rfl⟩
    | @text s visible =>
      exact ⟨.line s :: bare, by simp [indent, Text.indent, visible],
        by simp [indent, Text.indent, visible]⟩

namespace CursorDirectory

/-- What was written since `base` differs in the margin of lines only. -/
structure Reindented (old new : Text) (base d d' : CursorDirectory) : Prop where
  selected : d'.selected = d.selected
  names : d'.names = d.names
  pieces : ∀ stream, ∃ added added', d.pieces stream = base.pieces stream ++ added ∧
    d'.pieces stream = base.pieces stream ++ added' ∧
    List.Forall₂ (Piece.Reindents old new) added added'

namespace Reindented

variable {old new : Text} {base d d' : CursorDirectory} {p p' : Piece} {name : Text}

theorem refl (old new : Text) (d : CursorDirectory) : Reindented old new d d d where
  selected := rfl
  names := rfl
  pieces _ := ⟨[], [], (List.append_nil _).symm, (List.append_nil _).symm, .nil⟩

section

variable (h : Reindented old new base d d')

include h

theorem length : d'.cursors.length = d.cursors.length := by
  simpa [CursorDirectory.names] using congrArg List.length h.names

theorem exists? (name : Text) : d'.exists? name = d.exists? name := by
  rw [Bool.eq_iff_iff, exists?_iff, exists?_iff, h.names]

theorem selectionDepth : d'.selectionDepth = d.selectionDepth :=
  congrArg List.length h.selected

theorem write (same : Piece.Reindents old new p p') :
    Reindented old new base (d.write p) (d'.write p') where
  selected := by rw [selected_write, selected_write, h.selected]
  names := by rw [names_write, names_write, h.names]
  pieces stream := by
    obtain ⟨added, added', before, before', alike⟩ := h.pieces stream
    have both : d'.Receives stream ↔ d.Receives stream := by
      rw [Receives, Receives, h.selected, h.length]
    by_cases receives : d.Receives stream
    · refine ⟨added ++ [p], added' ++ [p'], ?_, ?_, List.rel_append alike (.cons same .nil)⟩
      · rw [pieces_write_of_receives receives, before, List.append_assoc]
      · rw [pieces_write_of_receives (both.mpr receives), before', List.append_assoc]
    · refine ⟨added, added', ?_, ?_, alike⟩
      · rw [pieces_write_of_not_receives receives, before]
      · rw [pieces_write_of_not_receives (mt both.mp receives), before']

theorem append (name : Text) : Reindented old new base
    { d with cursors := d.cursors ++ [{ name }] }
    { d' with cursors := d'.cursors ++ [{ name }] } where
  selected := h.selected
  names := by simpa [CursorDirectory.names] using h.names
  pieces stream := by
    rw [pieces_append_cursor, pieces_append_cursor]
    exact h.pieces stream

theorem select (selected : List Nat) :
    Reindented old new base { d with selected } { d' with selected } :=
  ⟨rfl, h.names, h.pieces⟩

theorem target (name : Text) : (d'.target name).1 = (d.target name).1 ∧
    Reindented old new base (d.target name).2 (d'.target name).2 := by
  have index : d'.cursors.findIdx? (·.name = name) = d.cursors.findIdx? (·.name = name) := by
    have byName (d : CursorDirectory) :
        d.cursors.findIdx? (·.name = name) = d.names.findIdx? (· = name) := by
      rw [CursorDirectory.names, List.findIdx?_map]
      rfl
    rw [byName, byName, h.names]
  unfold CursorDirectory.target
  rw [index]
  cases d.cursors.findIdx? (·.name = name) with
  | some i => exact ⟨rfl, h⟩
  | none =>
    have anchored : Reindented old new base (d.write (.anchor d.cursors.length))
        (d'.write (.anchor d'.cursors.length)) := by
      rw [h.length]
      exact h.write (.anchor _)
    exact ⟨h.length, anchored.append name⟩

theorem enter (name : Text) : Reindented old new base (d.enter name) (d'.enter name) := by
  obtain ⟨index, alike⟩ := h.target name
  unfold CursorDirectory.enter
  simp only [index, alike.selected]
  exact alike.select _

theorem switch (name : Text) : Reindented old new base (d.switch name) (d'.switch name) := by
  obtain ⟨index, alike⟩ := h.target name
  unfold CursorDirectory.switch
  simp only [index, alike.selected]
  exact alike.select _

theorem truncate (floor : Nat) :
    Reindented old new base (d.truncate floor) (d'.truncate floor) := by
  unfold CursorDirectory.truncate
  rw [h.selected]
  exact h.select _

end

end Reindented

end CursorDirectory

end LineTemplate
