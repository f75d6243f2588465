import LineTemplate.Text.Basic

/-!
# Glob patterns

In a glob pattern `*` stands for any run of characters, `?` for any one character, and every other
character for itself. A pattern has to match the whole text.
-/

namespace LineTemplate.Glob

/-- The last `*` that was met. -/
structure Star where
  /-- What follows it in the pattern. -/
  after : Text
  /-- The text at which it was last taken to end. -/
  tried : Text

/--
Matches a pattern from left to right. A star stands for nothing at first. Where the pattern does not
go on, the last star takes one character more than before, and what follows it is tried again.
-/
def matchFrom (star : Option Star) (pattern text : Text) : Bool :=
  match text with
  | [] => pattern.all (· = '*')
  | c :: rest =>
    if pattern.head? = some '*' then
      matchFrom (some ⟨pattern.tail, c :: rest⟩) pattern.tail (c :: rest)
    else if pattern.head?.any fun p => p = '?' || p = c then matchFrom star pattern.tail rest
    else
      match star with
      | some ⟨after, tried⟩ => matchFrom (some ⟨after, tried.tail⟩) after tried.tail
      | none => false
-- A new star has less behind it in the pattern, and another try of the same star less text.
termination_by (max (star.elim 0 (·.after.length)) pattern.length,
  max (star.elim 0 (·.tried.length)) text.length, text.length)
decreasing_by
  · have nonempty : pattern ≠ [] := by
      rintro rfl
      contradiction
    have positive := List.length_pos_iff.mpr nonempty
    apply Prod.Lex.left
    simp only [Option.elim_some, List.length_tail]
    omega
  · apply Prod.Lex.right'
    · simp only [List.length_tail]
      omega
    apply Prod.Lex.right'
    · simp only [List.length_cons]
      omega
    · simp
  · apply Prod.Lex.right'
    · simp only [Option.elim_some]
      omega
    apply Prod.Lex.left
    simp only [Option.elim_some, List.length_tail, List.length_cons]
    omega

def isMatch (pattern text : Text) : Bool :=
  matchFrom none pattern text

end LineTemplate.Glob
