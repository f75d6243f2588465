import LineTemplate.Fault

/-!
# Output cursors

Output goes to the main stream or to a cursor, a stream with a name. A cursor is anchored where it
is first used, in the stream that was current then, and its lines appear there in the document, also
those that are written later.
-/

namespace LineTemplate

inductive Piece where
  | line (text : Text)
  /-- The place of the cursor with this number. -/
  | anchor (index : Nat)
  deriving DecidableEq

structure Buffer where
  /-- The pieces so far, the last one first. -/
  newestFirst : List Piece := []
  deriving DecidableEq

namespace Buffer

/-- The pieces in the order in which they were written. -/
def pieces (b : Buffer) : List Piece :=
  b.newestFirst.reverse

def write (b : Buffer) (piece : Piece) : Buffer :=
  ⟨piece :: b.newestFirst⟩

@[simp] theorem pieces_empty : ({} : Buffer).pieces = [] := rfl

@[simp] theorem pieces_write (b : Buffer) (piece : Piece) :
    (b.write piece).pieces = b.pieces ++ [piece] := by
  simp [pieces, write]

end Buffer

/-- A cursor: its name and its stream. -/
structure Cursor where
  name : Text
  buffer : Buffer := {}
  deriving DecidableEq

structure CursorDirectory where
  main : Buffer := {}
  /-- The cursors in the order in which they were first used. -/
  cursors : List Cursor := []
  /-- The numbers of the selected cursors, the current one first. -/
  selected : List Nat := []
  deriving DecidableEq

/-- A rendered document: its lines, and the lines of each cursor by itself. -/
structure Document where
  lines : List Text
  cursors : List (Text × List Text)
  deriving DecidableEq

namespace CursorDirectory

def exists? (d : CursorDirectory) (name : Text) : Bool :=
  d.cursors.any (·.name = name)

def selectionDepth (d : CursorDirectory) : Nat :=
  d.selected.length

/-- The name of the current cursor; nothing for the main stream. -/
def current? (d : CursorDirectory) : Option Text :=
  d.selected.head?.bind fun i => d.cursors[i]?.map Cursor.name

def write (d : CursorDirectory) (piece : Piece) : CursorDirectory :=
  match d.selected with
  | [] => { d with main := d.main.write piece }
  | i :: _ =>
    { d with cursors := d.cursors.modify i fun c => { c with buffer := c.buffer.write piece } }

def emit (d : CursorDirectory) (line : Text) : CursorDirectory :=
  d.write (.line line)

/-- The number of a cursor. One that is new is anchored in the current stream. -/
def target (d : CursorDirectory) (name : Text) : Nat × CursorDirectory :=
  match d.cursors.findIdx? (·.name = name) with
  | some i => (i, d)
  | none =>
    let anchored := d.write (.anchor d.cursors.length)
    (d.cursors.length, { anchored with cursors := anchored.cursors ++ [{ name }] })

def enter (d : CursorDirectory) (name : Text) : CursorDirectory :=
  let (i, d) := d.target name
  { d with selected := i :: d.selected }

def switch (d : CursorDirectory) (name : Text) : CursorDirectory :=
  let (i, d) := d.target name
  { d with selected := i :: d.selected.tail }

/-- Returns to the selection before the current one; the name of the cursor that was current. -/
def leave? (d : CursorDirectory) : Except Fault (Text × CursorDirectory) :=
  match d.selected with
  | [] => .error (.unmatched .closeWithoutCursor)
  | i :: rest => .ok ((d.cursors[i]?.map Cursor.name).getD [], { d with selected := rest })

/-- Ends all selections but the outermost `floor` ones. -/
def truncate (d : CursorDirectory) (floor : Nat) : CursorDirectory :=
  { d with selected := d.selected.drop (d.selected.length - floor) }

/-- The lines of a stream whose anchors have numbers from `next` on, where `later` holds the lines
of the cursors from that number on. -/
def splice (next : Nat) (later : List (List Text)) (pieces : List Piece) : List Text :=
  pieces.flatMap fun
    | .line text => [text]
    | .anchor i => if i < next then [] else later[i - next]?.getD []

/-- The lines of each cursor of a list that starts with the cursor of number `index`. An anchor
stands for a cursor that was first used later than the one in whose stream it is. -/
def ownLines (index : Nat) : List Cursor → List (List Text)
  | [] => []
  | c :: rest =>
    let later := ownLines (index + 1) rest
    splice (index + 1) later c.buffer.pieces :: later

def render (d : CursorDirectory) : Document :=
  let own := ownLines 0 d.cursors
  { lines := splice 0 own d.main.pieces, cursors := (d.cursors.map Cursor.name).zip own }

end CursorDirectory

namespace Document

def cursor? (d : Document) (name : Text) : Option (List Text) :=
  d.cursors.lookup name

/-- The text of the document; every line ends with a line feed. -/
def text (d : Document) : Text :=
  d.lines.flatMap (· ++ ['\n'])

end Document

end LineTemplate
