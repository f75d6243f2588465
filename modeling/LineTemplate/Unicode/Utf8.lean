import LineTemplate.Unicode.Ranges

/-!
# Sets of characters as sequences of bytes

The characters of a range are encoded as bytes in UTF-8. Where a range is cut so that the last bytes
of its characters run through all their values, its encodings are those sequences of bytes whose
first byte lies in one range, whose second byte lies in another, and so on.
-/

namespace LineTemplate.Unicode

def utf8Bytes (n : Nat) : List Nat :=
  if n < 0x80 then [n]
  else if n < 0x800 then [0xC0 + n / 64, 0x80 + n % 64]
  else if n < 0x10000 then [0xE0 + n / 4096, 0x80 + n / 64 % 64, 0x80 + n % 64]
  else [0xF0 + n / 262144, 0x80 + n / 4096 % 64, 0x80 + n / 64 % 64, 0x80 + n % 64]

/-- A range of bytes, both ends included. -/
abbrev ByteRange := Nat × Nat

/-- Cuts a range after a code point. -/
def cutAfter (n : Nat) : Nat × Nat → Ranges
  | (first, last) =>
    if first ≤ n && n < last then [(first, n), (n + 1, last)] else [(first, last)]

/-- Cuts a range of several blocks so that only its first and its last part are incomplete
blocks. -/
def cutAtBlocks (size : Nat) : Nat × Nat → Ranges
  | (first, last) =>
    if first / size = last / size then [(first, last)]
    else
      let start := (first + size - 1) / size * size
      let stop := (last + 1) / size * size
      (if first < start then [(first, start - 1)] else []) ++
        (if start < stop then [(start, stop - 1)] else []) ++
        (if stop ≤ last then [(stop, last)] else [])

/-- The encodings of the characters in a range: the ranges in which their bytes lie. -/
def utf8Sequences (range : Nat × Nat) : List (List ByteRange) :=
  let sameLength := [0x7F, 0x7FF, 0xFFFF].foldl (fun parts n => parts.flatMap (cutAfter n)) [range]
  let aligned (part : Nat × Nat) : Ranges :=
    if part.2 < 0x80 then [part]
    else [64, 4096, 262144].foldl (fun parts size => parts.flatMap (cutAtBlocks size)) [part]
  (sameLength.flatMap aligned).map fun (first, last) => (utf8Bytes first).zip (utf8Bytes last)

end LineTemplate.Unicode
