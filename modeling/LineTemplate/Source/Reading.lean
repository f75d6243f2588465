import LineTemplate.Fault
import LineTemplate.Text.Lines

/-!
# Sources

A source supplies lines one by one. In place of a line it may supply a fault, when its bytes are no
text.
-/

namespace LineTemplate

/-- What a source supplies from now on. -/
abbrev Source := List (Except SourceFault Text)

namespace Source

def ofText (s : Text) : Source :=
  s.lines.map .ok

def ofBytes (bytes : List UInt8) : Source :=
  (Text.byteChunks bytes).map fun chunk =>
    match Text.lineOfChunk? chunk with
    | some line => .ok line
    | none => .error .invalidUtf8

end Source

structure FileFrame where
  path : Text
  unread : Source
  /-- The number of lines read so far. -/
  lineNumber : Nat := 0

/-- The line that was read last. -/
def FileFrame.location (f : FileFrame) : Location :=
  ⟨f.path, f.lineNumber⟩

/-- The files that are being read, the innermost include first. No file is in it twice. -/
structure FileStack where
  frames : List FileFrame := []

namespace FileStack

def contains (s : FileStack) (path : Text) : Bool :=
  s.frames.any (·.path = path)

/-- The paths of the files, outermost first. -/
def chain (s : FileStack) : List Text :=
  (s.frames.map FileFrame.path).reverse

def push? (s : FileStack) (path : Text) (source : Source) : Except Fault FileStack :=
  if s.contains path then .error (.circularInclude path s.chain)
  else .ok ⟨{ path, unread := source } :: s.frames⟩

def pop? (s : FileStack) : Option (FileFrame × FileStack) :=
  match s.frames with
  | [] => none
  | frame :: rest => some (frame, ⟨rest⟩)

/-- The line of the innermost file that was read last. -/
def location? (s : FileStack) : Option Location :=
  s.frames.head?.map FileFrame.location

/-- What the innermost file supplies next, if it supplies anything; a fault counts as no line. -/
def next (s : FileStack) : Option (Except Fault Line) × FileStack :=
  match s.frames with
  | [] => (none, s)
  | frame :: rest =>
    match frame.unread with
    | [] => (none, s)
    | .ok text :: unread =>
      let frame := { frame with unread, lineNumber := frame.lineNumber + 1 }
      (some (.ok ⟨text, frame.location⟩), ⟨frame :: rest⟩)
    | .error cause :: unread =>
      (some (.error (.unreadable frame.path cause)), ⟨{ frame with unread } :: rest⟩)

end FileStack

end LineTemplate
