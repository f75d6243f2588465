import LineTemplate.Block.Macro
import LineTemplate.Fault
import LineTemplate.Line.Directive

/-!
# Captured bodies

The body of a loop or of a macro definition is not processed when it is read. Its lines are kept as
they are, up to the directive that closes the block; blocks of the same kind inside of it are kept
whole.
-/

namespace LineTemplate

/-- A block whose body is being captured. -/
inductive CaptureHead where
  | loop (loopVariable : Text) (records : List Record)
  | macroBody (name : Text) (parameters : List Parameter)
  deriving DecidableEq

/-- A block and the part of its body that was read so far. -/
structure Capture where
  head : CaptureHead
  /-- The text around the block is live; otherwise the body is dropped at the end. -/
  active : Bool
  openedAt : Location
  /-- The lines of the body so far, the last one first. -/
  newestFirst : List Line := []
  /-- The blocks of the same kind that are open inside of the body. -/
  depth : Nat := 0
  deriving DecidableEq

def CaptureHead.kind : CaptureHead → BlockKind
  | loop .. => .loop
  | macroBody .. => .macroBody

namespace Capture

/-- The lines of the body so far. -/
def body (c : Capture) : List Line :=
  c.newestFirst.reverse

/-- What is missing if the block is never closed. -/
def openBlock (c : Capture) : BlockFault :=
  match c.head with
  | .loop loopVariable _ => .loopWithoutEnd loopVariable c.openedAt
  | .macroBody name _ => .macroWithoutEnd name c.openedAt

def closedBy (c : Capture) (kind : Option Directive) : Bool :=
  kind.bind Directive.closes? = some c.head.kind && c.depth = 0

/-- The block after a line that does not close it. -/
def add (c : Capture) (line : Line) (kind : Option Directive) : Capture :=
  let depth :=
    if kind.bind Directive.closes? = some c.head.kind then c.depth - 1
    else if kind.bind Directive.opens? = some c.head.kind then c.depth + 1
    else c.depth
  { c with newestFirst := line :: c.newestFirst, depth }

/-- A line that does not close the block goes to the end of the body. -/
@[simp] theorem body_add (c : Capture) (line : Line) (kind : Option Directive) :
    (c.add line kind).body = c.body ++ [line] := by
  simp [body, add]

end Capture

/-- The blocks that are being captured, innermost first; only the innermost gets lines. -/
structure CaptureStack where
  captures : List Capture := []
  deriving DecidableEq

namespace CaptureStack

def depth (s : CaptureStack) : Nat :=
  s.captures.length

def isCapturing (s : CaptureStack) : Bool :=
  !s.captures.isEmpty

def push (s : CaptureStack) (c : Capture) : CaptureStack :=
  ⟨c :: s.captures⟩

/-- Takes a line, which may hold a directive. The block that the line closes is removed. -/
def feed (s : CaptureStack) (line : Line) (kind : Option Directive) :
    Option Capture × CaptureStack :=
  match s.captures with
  | [] => (none, s)
  | c :: rest => if c.closedBy kind then (some c, ⟨rest⟩) else (none, ⟨c.add line kind :: rest⟩)

/-- What is missing if the innermost block is never closed. -/
def openBlock? (s : CaptureStack) : Option BlockFault :=
  s.captures.head?.map Capture.openBlock

end CaptureStack

end LineTemplate
