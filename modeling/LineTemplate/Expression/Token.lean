import LineTemplate.Expression.Value
import LineTemplate.Text.Dotted
import LineTemplate.Text.Shown

/-!
# Tokens of expressions

A condition is read as a list of tokens. Blanks separate tokens and mean nothing else, and every
character belongs to a token, if only to one that no expression can hold.
-/

namespace LineTemplate

open Number Unicode

/-- A token of an expression; the end of the text is not one. -/
inductive Token where
  | int (n : Int64)
  | float (x : Float)
  | str (s : Text)
  | ident (name : Text)
  | plus | minus | star | slash | percent | bang
  | eq | ne | lt | le | gt | ge
  | globMatch | regexMatch | notGlobMatch | notRegexMatch
  | and | or
  | question | colon | comma | lparen | rparen
  /-- A character that starts no token. -/
  | unknown (c : Char)

namespace Token

/--
The text of a float in a message: at least one digit after the point, and an exponent for numbers
from `10 ^ 16` on and below `10 ^ -4`.
-/
def shownFloat (x : Float) : Text :=
  if x.isNaN then "NaN".toList
  else
    let sign := if (Binary.ofFloat x).negative then ['-'] else []
    let magnitude :=
      if x.isInf then "inf".toList
      else if x == 0 then "0.0".toList
      else
        let decimal := shortest .up x.abs
        if x.abs < 1e-4 || 1e16 ≤ x.abs then decimal.scientific []
        else if 0 ≤ decimal.exponent then decimal.positional ++ ['.', '0']
        else decimal.positional
    sign ++ magnitude

def shown : Token → String
  | int n => s!"Int({(Text.ofInt n.toInt).str})"
  | float x => s!"Float({(shownFloat x).str})"
  | str s => s!"Str({s.shown.str})"
  | ident name => s!"Ident({name.shown.str})"
  | plus => "Plus"
  | minus => "Minus"
  | star => "Star"
  | slash => "Slash"
  | percent => "Percent"
  | bang => "Bang"
  | eq => "Eq"
  | ne => "Ne"
  | lt => "Lt"
  | le => "Le"
  | gt => "Gt"
  | ge => "Ge"
  | globMatch => "GlobMatch"
  | regexMatch => "RegexMatch"
  | notGlobMatch => "NotGlobMatch"
  | notRegexMatch => "NotRegexMatch"
  | and => "And"
  | or => "Or"
  | question => "Question"
  | colon => "Colon"
  | comma => "Comma"
  | lparen => "LParen"
  | rparen => "RParen"
  | unknown c => s!"Unknown({(Text.shownSingle c).str})"

/-- What a reader finds where a token should be, the end of the text included. -/
def shownNext (tokens : List Token) : String :=
  (tokens.head?.map shown).getD "Eof"

/-- The integer that digits spell; one that does not fit into 64 bits reads as zero. -/
def intOfDigits (base : Nat) (digits : Text) : Int64 :=
  (int64? (ofDigits base digits)).getD 0

/-- The number that starts with digit `first`, and the text after it. -/
def number (first : Char) (rest : Text) : Token × Text :=
  match first, rest with
  | '0', 'x' :: hex | '0', 'X' :: hex =>
    (.int (intOfDigits 16 (hex.takeWhile isHexDigit)), hex.dropWhile isHexDigit)
  | _, _ =>
    let whole := first :: rest.takeWhile Char.isDigit
    let afterWhole := rest.dropWhile Char.isDigit
    match afterWhole with
    | '.' :: digit :: more =>
      if digit.isDigit then
        let fraction := digit :: more.takeWhile Char.isDigit
        (.float (nearest (ofDigits 10 (whole ++ fraction)) (-(fraction.length : Int))),
          more.dropWhile Char.isDigit)
      else (.int (intOfDigits 10 whole), afterWhole)
    | _ => (.int (intOfDigits 10 whole), afterWhole)

/-- The character that a backslash and `c` stand for in a string. -/
def unescape (c : Char) : Char :=
  if c = 'n' then '\n' else if c = 't' then '\t' else c

/--
The content of a string up to its closing quote, and the text after that. A string also ends,
without an error, at a line feed and at the end of the text.
-/
def string (quote : Char) : Text → Text × Text
  | [] => ([], [])
  | '\n' :: rest => ([], rest)
  | ['\\'] => ([], [])
  | '\\' :: c :: rest =>
    let (content, after) := string quote rest
    (unescape c :: content, after)
  | c :: rest =>
    if c = quote then ([], rest)
    else
      let (content, after) := string quote rest
      (c :: content, after)

/-- The rest of a name, in which a letter or `_` may follow a dot. -/
def identTail (s : Text) : Text × Text :=
  Text.dottedTail (fun c => isAlphabetic c || c = '_') s

/-- The operator or mark that starts with `c`, and the text after it. -/
def mark (c : Char) (rest : Text) : Token × Text :=
  match c, rest with
  | '!', '~' :: rest => (.notGlobMatch, rest)
  | '!', '/' :: rest => (.notRegexMatch, rest)
  | '!', '=' :: rest => (.ne, rest)
  | '!', rest => (.bang, rest)
  | '=', '~' :: rest => (.globMatch, rest)
  | '=', '/' :: rest => (.regexMatch, rest)
  | '=', '=' :: rest => (.eq, rest)
  | '=', rest => (.eq, rest)
  | '&', '&' :: rest => (.and, rest)
  | '|', '|' :: rest => (.or, rest)
  | '<', '=' :: rest => (.le, rest)
  | '<', rest => (.lt, rest)
  | '>', '=' :: rest => (.ge, rest)
  | '>', rest => (.gt, rest)
  | '+', rest => (.plus, rest)
  | '-', rest => (.minus, rest)
  | '*', rest => (.star, rest)
  | '/', rest => (.slash, rest)
  | '%', rest => (.percent, rest)
  | '?', rest => (.question, rest)
  | ':', rest => (.colon, rest)
  | ',', rest => (.comma, rest)
  | '(', rest => (.lparen, rest)
  | ')', rest => (.rparen, rest)
  | c, rest => (.unknown c, rest)

/-- The token that starts with `c`, and the text after it. -/
def startingWith (c : Char) (rest : Text) : Token × Text :=
  if c.isDigit then number c rest
  else if c = '"' || c = '\'' then
    let (content, after) := string c rest
    (.str content, after)
  else if isAlphabetic c || c = '_' then
    let (name, after) := identTail rest
    (.ident (c :: name), after)
  else mark c rest

/-- Dropping characters from the front makes a text no longer. -/
theorem length_dropWhile_le (p : Char → Bool) (s : Text) : (s.dropWhile p).length ≤ s.length :=
  (List.dropWhile_suffix p).length_le

theorem length_number_le (first : Char) (rest : Text) :
    (number first rest).2.length ≤ rest.length := by
  unfold number
  split
  · exact Nat.le_succ_of_le (length_dropWhile_le ..)
  · exact Nat.le_succ_of_le (length_dropWhile_le ..)
  · have whole := length_dropWhile_le Char.isDigit rest
    simp only
    split
    · rename_i digit more h
      rw [h] at whole
      have fraction := length_dropWhile_le Char.isDigit more
      simp only [List.length_cons] at whole
      split
      · exact Nat.le_trans fraction (by omega)
      · simpa [h] using whole
    · exact whole

theorem length_string_le (quote : Char) (s : Text) : (string quote s).2.length ≤ s.length := by
  fun_induction string quote s <;> simp_all <;> omega

theorem length_mark_le (c : Char) (rest : Text) : (mark c rest).2.length ≤ rest.length := by
  unfold mark
  split <;> simp

/-- A token takes nothing but its first character and what follows. -/
theorem length_startingWith_le (c : Char) (rest : Text) :
    (startingWith c rest).2.length ≤ rest.length := by
  unfold startingWith
  split
  · exact length_number_le ..
  · split
    · exact length_string_le ..
    · split
      · exact Text.length_dottedTail_le ..
      · exact length_mark_le ..

def ofText (s : Text) : List Token :=
  match _starts : s.trimStart with
  | [] => []
  | c :: rest => (startingWith c rest).1 :: ofText (startingWith c rest).2
termination_by s.length
decreasing_by
  have shorter := length_dropWhile_le isBlank s
  have token := length_startingWith_le c rest
  rw [show s.dropWhile isBlank = c :: rest from ‹s.trimStart = c :: rest›] at shorter
  simp only [List.length_cons] at shorter
  omega

end Token

end LineTemplate
