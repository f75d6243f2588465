import LineTemplate.Proofs.Expressions.Parsing
import LineTemplate.Proofs.Expressions.Tokens

/-!
# Integer literals

Digits alone, decimal or after `0x`, are always an integer literal, however many they are. The
literal is the number that the digits denote if that number is below `2 ^ 63`, leading zeros or not.
Digits that denote a larger number are no error: the literal is zero, another number than what is
written (`Expr.ofText_literal`).
-/

namespace LineTemplate

open Number

/-- The texts of integer literals, and the numbers that they denote. -/
inductive Number.Literal : Text → Nat → Prop where
  | decimal {digits : Text} (spelled : SpelledIn decimals digits) :
    Literal digits (denoted 10 digits)
  | hexadecimal {x : Char} {digits : Text} (base : x = 'x' ∨ x = 'X')
      (spelled : SpelledIn hexadecimals digits) :
    Literal ('0' :: x :: digits) (denoted 16 digits)

namespace Token

theorem intOfDigits_of_lt {base : Nat} {digits : Text} (fits : ofDigits base digits < 2 ^ 63) :
    (intOfDigits base digits).toInt = ofDigits base digits := by
  have inside : Int64.minValue.toInt ≤ ofDigits base digits ∧
      ofDigits base digits ≤ Int64.maxValue.toInt := by
    rw [Int64.toInt_minValue, Int64.toInt_maxValue]
    omega
  rw [intOfDigits, int64?, if_pos inside, Option.getD_some]
  exact Int64.toInt_ofInt_of_le (by omega) (by omega)

theorem intOfDigits_of_le {base : Nat} {digits : Text} (large : 2 ^ 63 ≤ ofDigits base digits) :
    intOfDigits base digits = 0 := by
  have high := Int64.toInt_maxValue
  rw [intOfDigits, int64?, if_neg (by omega), Option.getD_none]

theorem number_hexadecimal {x : Char} {digits : Text} (base : x = 'x' ∨ x = 'X')
    (all : ∀ d ∈ digits, isHexDigit d = true) :
    number '0' (x :: digits) = (.int (intOfDigits 16 digits), []) := by
  have taken : digits.takeWhile isHexDigit = digits := List.takeWhile_eq_self_iff.mpr all
  have left : digits.dropWhile isHexDigit = [] := List.dropWhile_eq_nil_iff.mpr all
  rcases base with rfl | rfl
  · rw [number, taken, left]
  · rw [number, taken, left]

/-- The text of a literal is one token, an integer, whose value is read off the digits. -/
theorem ofText_of_literal {s : Text} {value : Nat} (literal : Literal s value) :
    ∃ base digits, ofText s = [.int (intOfDigits base digits)] ∧ ofDigits base digits = value := by
  cases literal with
  | decimal spelled =>
    obtain ⟨c, rest, rfl⟩ := List.exists_cons_of_ne_nil spelled.nonempty
    have digits : ∀ d ∈ c :: rest, d.isDigit = true :=
      fun d mem => mem_decimals.mp (spelled.all mem)
    obtain ⟨digit, further⟩ := List.forall_mem_cons.mp digits
    have token : number c (rest ++ []) = _ := number_digits further .nil
    rw [List.append_nil] at token
    refine ⟨10, c :: rest, ?_, spelled.ofDigits⟩
    rw [ofText_of_first (Text.isBlank_eq_false_of_isDigit digit)
      ((startingWith_digit digit rest).trans token), ofText_nil]
  | hexadecimal base spelled =>
    have token := number_hexadecimal base fun d mem =>
      isHexDigit_of_hexadecimals d (spelled.all mem)
    refine ⟨16, _, ?_, ofDigits_eq_denoted spelled.all⟩
    rw [ofText_of_first rfl ((startingWith_digit rfl _).trans token), ofText_nil]

end Token

namespace Expr

/-- Digits are an integer literal; it is what they denote exactly if that is below `2 ^ 63`, and
zero otherwise. -/
theorem ofText_literal {s : Text} {value : Nat} (literal : Literal s value) :
    ∃ n : Int64, ofText s = .ok (.literal (.int n)) ∧
      (n.toInt = value ↔ value < 2 ^ 63) ∧ (2 ^ 63 ≤ value → n = 0) := by
  obtain ⟨base, digits, token, rfl⟩ := Token.ofText_of_literal literal
  refine ⟨_, ofText_of_atom token (.int _), ⟨fun same => ?_, Token.intOfDigits_of_lt⟩,
    Token.intOfDigits_of_le⟩
  by_contra large
  rw [Token.intOfDigits_of_le (Nat.le_of_not_lt large)] at same
  have zero : (0 : Int64).toInt = 0 := rfl
  omega

/-- The largest literal, in both cases and with leading zeros. -/
theorem ofText_literal_largest :
    Literal "0x007fFFfFFFFFFFFFFF".toList (2 ^ 63 - 1) ∧
      ∃ n : Int64, ofText "0x007fFFfFFFFFFFFFFF".toList = .ok (.literal (.int n)) ∧
        n.toInt = 2 ^ 63 - 1 := by
  have spelled : SpelledIn hexadecimals "007fFFfFFFFFFFFFFF".toList := ⟨nofun, by decide⟩
  have value : denoted 16 "007fFFfFFFFFFFFFFF".toList = 2 ^ 63 - 1 := by rfl
  have literal : Literal "0x007fFFfFFFFFFFFFFF".toList (2 ^ 63 - 1) :=
    value ▸ .hexadecimal (.inl rfl) spelled
  obtain ⟨n, reads, exact_iff, -⟩ := ofText_literal literal
  exact ⟨literal, n, reads, exact_iff.mpr (by decide)⟩

/-- One more is read as zero. -/
theorem ofText_literal_too_large :
    Literal "9223372036854775808".toList (2 ^ 63) ∧
      ofText "9223372036854775808".toList = .ok (.literal (.int 0)) ∧
      (0 : Int64).toInt ≠ 2 ^ 63 := by
  have spelled : SpelledIn decimals "9223372036854775808".toList := ⟨nofun, by decide⟩
  have value : denoted 10 "9223372036854775808".toList = 2 ^ 63 := by rfl
  have token : Token.ofText "9223372036854775808".toList = [.int 0] :=
    Token.ofText_singleton rfl (by rfl)
  exact ⟨value ▸ .decimal spelled, ofText_of_atom token (.int 0), by decide⟩

end Expr

end LineTemplate
