import LineTemplate.Text.Basic

/-!
# Dotted names

A name may go on after a dot. Which characters may follow the dot is up to the place where the name
stands.
-/

namespace LineTemplate.Text

/--
The rest of a dotted name at the front of a text, and what follows it. A dot belongs to the name if
a character of `afterDot` comes next.
-/
def dottedTail (afterDot : Char → Bool) : Text → Text × Text
  | [] => ([], [])
  | c :: rest =>
    if isNameChar c || (c = '.' && rest.head?.any afterDot) then
      let (name, after) := dottedTail afterDot rest
      (c :: name, after)
    else ([], c :: rest)

theorem dottedTail_append (afterDot : Char → Bool) (s : Text) :
    (dottedTail afterDot s).1 ++ (dottedTail afterDot s).2 = s := by
  fun_induction dottedTail afterDot s <;> simp_all

theorem length_dottedTail_le (afterDot : Char → Bool) (s : Text) :
    (dottedTail afterDot s).2.length ≤ s.length := by
  have whole := congrArg List.length (dottedTail_append afterDot s)
  rw [List.length_append] at whole
  omega

end LineTemplate.Text
