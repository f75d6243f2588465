import LineTemplate.Text.Basic
import LineTemplate.Unicode.Printable

/-!
# Text shown in messages

A message shows a text or a character between quotes. Whatever could mislead a reader is escaped:
the quote itself, the backslash, line ends and tabs by a letter, and all that is invisible or joins
its neighbour by its code point in hexadecimal.
-/

namespace LineTemplate.Text

open Unicode

/-- A character as it stands between `quote`s. -/
def shownChar (quote c : Char) : Text :=
  if c = '\x00' then ['\\', '0']
  else if c = '\t' then ['\\', 't']
  else if c = '\r' then ['\\', 'r']
  else if c = '\n' then ['\\', 'n']
  else if c = '\\' || c = quote then ['\\', c]
  else if isJoining c || !isVisible c then
    ['\\', 'u', '{'] ++ Nat.toDigits 16 c.toNat ++ ['}']
  else [c]

def shown (s : Text) : Text :=
  '"' :: s.flatMap (shownChar '"') ++ ['"']

def shownSingle (c : Char) : Text :=
  '\'' :: shownChar '\'' c ++ ['\'']

end LineTemplate.Text
