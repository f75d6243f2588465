import LineTemplate.Pattern.Glob

/-!
# Glob matching

The matcher comes back to the last star only. That is enough: whatever an earlier star could take
in addition, the last one can take in its place. So the matcher agrees with the reading of patterns
in which every star stands for some run of characters.
-/

namespace LineTemplate.Glob

/-- The texts that a pattern describes. -/
inductive Matches : (pattern text : Text) → Prop
  | nil : Matches [] []
  | star {pattern text : Text} (run : Text) :
      Matches pattern text → Matches ('*' :: pattern) (run ++ text)
  | any {pattern text : Text} (c : Char) :
      Matches pattern text → Matches ('?' :: pattern) (c :: text)
  | char {pattern text : Text} (c : Char) (notStar : c ≠ '*') (notAny : c ≠ '?') :
      Matches pattern text → Matches (c :: pattern) (c :: text)

section

variable {p c : Char} {u pattern text s : Text}

theorem matches_star_iff :
    Matches ('*' :: pattern) text ↔ ∃ s, s <:+ text ∧ Matches pattern s := by
  constructor
  · rintro (_ | ⟨run, h⟩ | _ | ⟨_, notStar⟩)
    · exact ⟨_, List.suffix_append run _, h⟩
    · exact absurd rfl notStar
  · rintro ⟨s, ⟨run, rfl⟩, h⟩
    exact .star run h

theorem matches_cons_iff (plain : p ≠ '*') :
    Matches (p :: pattern) text ↔
      ∃ c rest, text = c :: rest ∧ (p = '?' ∨ p = c) ∧ Matches pattern rest := by
  constructor
  · intro h
    cases h with
    | star run h => exact absurd rfl plain
    | any c h => exact ⟨c, _, rfl, .inl rfl, h⟩
    | char c notStar notAny h => exact ⟨p, _, rfl, .inr rfl, h⟩
  · rintro ⟨c, rest, rfl, stands, h⟩
    by_cases wild : p = '?'
    · subst wild
      exact .any c h
    · obtain rfl : p = c := stands.resolve_left wild
      exact .char p plain wild h

theorem matches_empty_iff : Matches pattern [] ↔ ∀ p ∈ pattern, p = '*' := by
  induction pattern with
  | nil => simp [Matches.nil]
  | cons p pattern ih =>
    by_cases star : p = '*'
    · subst star
      simp [matches_star_iff, ih]
    · simp [matches_cons_iff star, star]

theorem not_matches_of_stuck (plain : pattern.head? ≠ some '*')
    (stuck : ¬ (pattern.head?.any fun p => p = '?' || p = c) = true) :
    ¬ Matches pattern (c :: text) := by
  cases pattern with
  | nil => nofun
  | cons p after =>
    have notStar : p ≠ '*' := by simpa using plain
    have differs : ¬ (p = '?' ∨ p = c) := by simpa using stuck
    intro h
    obtain ⟨_, _, ⟨⟩, stands, -⟩ := (matches_cons_iff notStar).mp h
    exact differs stands

/-- A star takes whatever more there is in front. -/
theorem Matches.extend (h : Matches ('*' :: pattern) s) (more : s <:+ text) :
    Matches ('*' :: pattern) text := by
  obtain ⟨s', suffix, h'⟩ := matches_star_iff.mp h
  exact matches_star_iff.mpr ⟨s', suffix.trans more, h'⟩

/-- A star takes nothing, or it takes the next character and maybe more. -/
theorem matches_star_iff_tail :
    Matches ('*' :: pattern) text ↔ Matches pattern text ∨ Matches ('*' :: pattern) text.tail := by
  constructor
  · intro h
    obtain ⟨s, suffix, h'⟩ := matches_star_iff.mp h
    cases text with
    | nil =>
      rw [List.suffix_nil] at suffix
      subst suffix
      exact .inl h'
    | cons c rest =>
      rcases List.suffix_cons_iff.mp suffix with rfl | later
      · exact .inl h'
      · exact .inr (matches_star_iff.mpr ⟨s, later, h'⟩)
  · rintro (h | h)
    · exact .star [] h
    · exact h.extend (List.tail_suffix text)

/-- Without a star, a pattern takes one character for each of its own. -/
theorem Matches.drop (plain : '*' ∉ u) (h : Matches (u ++ pattern) s) :
    Matches pattern (s.drop u.length) := by
  induction u generalizing s with
  | nil => exact h
  | cons p u ih =>
    have first : p ≠ '*' := (List.ne_of_not_mem_cons plain).symm
    obtain ⟨c, rest, rfl, -, h'⟩ := (matches_cons_iff first).mp h
    exact ih (List.not_mem_of_not_mem_cons plain) h'

end

/-! ## The last star -/

/-- The star stands before a place in pattern and text, and between them there is no other. -/
def Star.Before (star : Star) (pattern text : Text) : Prop :=
  ∃ u w, star.after = u ++ pattern ∧ star.tried = w ++ text ∧ '*' ∉ u ∧ u.length = w.length

namespace Star

variable {star : Star} {p c : Char} {pattern text : Text}

theorem before_self (after tried : Text) : (Star.mk after tried).Before after tried :=
  ⟨[], [], rfl, rfl, List.not_mem_nil, rfl⟩

theorem Before.next (h : star.Before (p :: pattern) (c :: text)) (plain : p ≠ '*') :
    star.Before pattern text := by
  obtain ⟨u, w, inPattern, inText, without, same⟩ := h
  refine ⟨u ++ [p], w ++ [c], ?_, ?_, ?_, ?_⟩
  · rw [inPattern, List.append_assoc, List.singleton_append]
  · rw [inText, List.append_assoc, List.singleton_append]
  · rw [List.mem_append, List.mem_singleton, not_or]
    exact ⟨without, plain.symm⟩
  · rw [List.length_append, List.length_append, same]
    rfl

/-- If the last star takes more than it did, then the place is passed later in the text. -/
theorem Before.passes (h : star.Before pattern text)
    (more : Matches ('*' :: star.after) star.tried.tail) :
    ∃ s, s <:+ text.tail ∧ Matches pattern s := by
  obtain ⟨u, w, inPattern, inText, without, same⟩ := h
  obtain ⟨s, ⟨run, whole⟩, h'⟩ := matches_star_iff.mp more
  rw [inPattern] at h'
  have dropped : star.tried.tail.drop u.length = text.tail := by
    rw [inText, same, ← List.drop_one, ← List.drop_one, List.drop_drop, Nat.add_comm,
      ← List.drop_drop, List.drop_left]
  have later : s.drop u.length = (star.tried.tail.drop u.length).drop run.length := by
    rw [List.drop_drop, Nat.add_comm, ← List.drop_drop, ← whole, List.drop_left]
  refine ⟨s.drop u.length, ?_, h'.drop without⟩
  rw [later, dropped]
  exact List.drop_suffix _ _

end Star

/-- The matcher succeeds if the rest of the pattern matches the rest of the text, or else if the
last star can take more than it did. -/
theorem matchFrom_iff {star : Option Star} {pattern text : Text}
    (before : ∀ s ∈ star, s.Before pattern text) :
    matchFrom star pattern text = true ↔
      Matches pattern text ∨ ∃ s ∈ star, Matches ('*' :: s.after) s.tried.tail := by
  fun_induction matchFrom star pattern text with
  | case1 star pattern =>
    have passed : (∃ s ∈ star, Matches ('*' :: s.after) s.tried.tail) → Matches pattern [] := by
      rintro ⟨s, mem, more⟩
      obtain ⟨s', suffix, h⟩ := (before s mem).passes more
      rwa [List.suffix_nil.mp suffix] at h
    rw [or_iff_left_of_imp passed, matches_empty_iff]
    simp
  | case2 star pattern c rest starts ih =>
    obtain ⟨after, rfl⟩ := List.head?_eq_some_iff.mp starts
    rw [List.tail_cons] at ih ⊢
    have passed : (∃ s ∈ star, Matches ('*' :: s.after) s.tried.tail) →
        Matches ('*' :: after) (c :: rest) := by
      rintro ⟨s, mem, more⟩
      obtain ⟨s', suffix, h⟩ := (before s mem).passes more
      exact h.extend (suffix.trans (List.suffix_cons c rest))
    have here : ∀ s ∈ some (Star.mk after (c :: rest)), s.Before after (c :: rest) := by
      rintro s ⟨⟩
      exact Star.before_self after (c :: rest)
    rw [ih here, or_iff_left_of_imp passed, matches_star_iff_tail]
    simp
  | case3 star pattern c rest plain stands ih =>
    cases pattern with
    | nil => cases stands
    | cons p after =>
      have notStar : p ≠ '*' := by simpa using plain
      have here : p = '?' ∨ p = c := by simpa using stands
      have next : ∀ s ∈ star, s.Before after rest := fun s mem => (before s mem).next notStar
      have goesOn : Matches (p :: after) (c :: rest) ↔ Matches after rest := by
        rw [matches_cons_iff notStar]
        constructor
        · rintro ⟨_, _, ⟨⟩, -, h⟩
          exact h
        · exact fun h => ⟨c, rest, rfl, here, h⟩
      rw [List.tail_cons] at ih ⊢
      rw [ih next, goesOn]
  | case4 pattern c rest plain stuck after tried ih =>
    have fails : ¬ Matches pattern (c :: rest) := not_matches_of_stuck plain stuck
    have again : ∀ s ∈ some (Star.mk after tried.tail), s.Before after tried.tail := by
      rintro s ⟨⟩
      exact Star.before_self after tried.tail
    rw [ih again, or_iff_right fails]
    simp [← matches_star_iff_tail]
  | case5 pattern c rest plain stuck =>
    have fails : ¬ Matches pattern (c :: rest) := not_matches_of_stuck plain stuck
    simp [fails]

/-- A pattern matches exactly the texts that it describes. -/
theorem isMatch_iff_matches (pattern text : Text) :
    isMatch pattern text = true ↔ Matches pattern text := by
  rw [isMatch, matchFrom_iff (by simp)]
  simp

/-- What follows the star matches at the start already, but then not to the end of the text. -/
example : isMatch "*ab?".toList "abaab!".toList = true := by cbv

end LineTemplate.Glob
