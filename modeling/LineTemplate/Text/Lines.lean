import LineTemplate.Text.Basic

/-!
# Lines

A line ends with a line feed; a carriage return directly before the line feed belongs to the
terminator. A carriage return anywhere else belongs to the line, and a text that ends with a
terminator has no further line after it.
-/

namespace LineTemplate.Text

/-- The lines of a text, without their terminators. -/
def lines : Text → List Text
  | [] => []
  | '\r' :: '\n' :: rest => [] :: lines rest
  | '\n' :: rest => [] :: lines rest
  | c :: rest => consHead c (lines rest)

/-- The chunks of a sequence of bytes: each ends with its line feed, the last one possibly not. -/
def byteChunks : List UInt8 → List (List UInt8)
  | [] => []
  | b :: rest =>
    if b = 10 then [b] :: byteChunks rest
    else match byteChunks rest with
      | [] => [[b]]
      | chunk :: chunks => (b :: chunk) :: chunks

def chomp (s : Text) : Text :=
  match s.reverse with
  | '\n' :: '\r' :: before => before.reverse
  | '\n' :: before => before.reverse
  | _ => s

/-- The text that a sequence of bytes spells in UTF-8, if it spells one. -/
def ofUtf8? (bytes : List UInt8) : Option Text :=
  (String.fromUTF8? ⟨bytes.toArray⟩).map String.toList

/-- The line that a chunk of bytes spells, if it is valid UTF-8. -/
def lineOfChunk? (chunk : List UInt8) : Option Text :=
  (ofUtf8? chunk).map chomp

end LineTemplate.Text
