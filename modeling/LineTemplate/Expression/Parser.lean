import LineTemplate.Expression.Syntax
import LineTemplate.Expression.Token

/-!
# Parsing expressions

Operators between two expressions are read by precedence climbing. Each has a binding power, from
`||` (1) to multiplication (5), and an expression is read with the least power that its operators
may have. The right side of an operator is read with a least power that is greater by one, so
operators of one power associate to the left. The prefix operators bind tighter than any of these,
and the ternary operator, which associates to the right, binds weaker.

Each parsing function returns what it read and the tokens after that, of which there are fewer than
before; that is why parsing ends.
-/

namespace LineTemplate

/-- What a parser wants at a place that only one token fits. -/
inductive Wanted where
  | colon
  | rparen

/-- Why a text is not an expression. -/
inductive ParseError where
  /-- Another token than the only one that fits, or the end. -/
  | expected (wanted : Wanted) (found : List Token)
  /-- A token that starts no expression. -/
  | unexpected (found : List Token)
  /-- Neither a comma nor a parenthesis after an argument. -/
  | expectedInCall (name : Text) (found : List Token)
  | trailing (found : List Token) (source : Text)

def Wanted.description : Wanted → String
  | colon => "':' in ternary"
  | rparen => "')'"

def ParseError.message : ParseError → String
  | expected wanted found => s!"expected {wanted.description}, found {Token.shownNext found}"
  | unexpected found => s!"unexpected token {Token.shownNext found}"
  | expectedInCall name found =>
    s!"expected ',' or ')' in call to {name.str}, found {Token.shownNext found}"
  | trailing found source =>
    s!"unexpected trailing {Token.shownNext found} in '{source.str}'"

inductive Operator where
  | and
  | or
  | binary (op : BinaryOp)

/-- The expression that an operator makes of two. -/
def Operator.apply : Operator → Expr → Expr → Expr
  | and => .and
  | or => .or
  | binary op => .binary op

/-- The binding power of an operator; a higher one binds tighter. -/
def Operator.power : Operator → Nat
  | or => 1
  | and => 2
  | binary .add | binary .sub => 4
  | binary .mul | binary .div | binary .rem => 5
  | binary _ => 3

/-- The prefix operators bind tighter than any operator between two expressions. -/
def prefixPower : Nat := 6

theorem Operator.power_lt_prefixPower (op : Operator) : op.power < prefixPower := by
  unfold Operator.power
  split <;> decide

/-- The operator that a token is between two expressions. -/
def Token.operator? : Token → Option Operator
  | or => some .or
  | and => some .and
  | eq => some (.binary .eq)
  | ne => some (.binary .ne)
  | lt => some (.binary .lt)
  | le => some (.binary .le)
  | gt => some (.binary .gt)
  | ge => some (.binary .ge)
  | globMatch => some (.binary .globMatch)
  | regexMatch => some (.binary .regexMatch)
  | notGlobMatch => some (.binary .notGlobMatch)
  | notRegexMatch => some (.binary .notRegexMatch)
  | plus => some (.binary .add)
  | minus => some (.binary .sub)
  | star => some (.binary .mul)
  | slash => some (.binary .div)
  | percent => some (.binary .rem)
  | _ => none

namespace Expr

/-- Something read from the front of some tokens, and the tokens after it. -/
structure Read (α : Type) (limit : Nat) where
  value : α
  rest : List Token
  shorter : rest.length < limit

mutual

/-- An expression, the ternary operator included. -/
def readTernary (tokens : List Token) : Except ParseError (Read Expr tokens.length) :=
  match readOperation 1 tokens with
  | .error e => .error e
  | .ok cond =>
    match _mark : cond.rest with
    | .question :: afterMark =>
      match readOperation 1 afterMark with
      | .error e => .error e
      | .ok yes =>
        match _colon : yes.rest with
        | .colon :: afterColon =>
          match readTernary afterColon with
          | .error e => .error e
          | .ok no => .ok ⟨.ternary cond.value yes.value no.value, no.rest, by
              have := cond.shorter; have := yes.shorter; have := no.shorter; simp_all; omega⟩
        | rest => .error (.expected .colon rest)
    | _ => .ok cond
termination_by 10 * tokens.length + 8
decreasing_by
  · simp
  · have := cond.shorter; simp_all; omega
  · have := cond.shorter; have := yes.shorter; simp_all; omega

/-- An expression in which the operators outside of parentheses have at least some power. -/
def readOperation (least : Nat) (tokens : List Token) :
    Except ParseError (Read Expr tokens.length) :=
  match readPrefixed tokens with
  | .error e => .error e
  | .ok l =>
    match readOperators least l.value l.rest with
    | .error e => .error e
    | .ok e => .ok ⟨e.value, e.rest, by have := l.shorter; have := e.shorter; omega⟩
termination_by 10 * tokens.length + 2
decreasing_by
  · omega
  · have := l.shorter; omega

/-- The operators and their right sides that follow the expression `l`, up to an operator whose
power is too low. -/
def readOperators (least : Nat) (l : Expr) (tokens : List Token) :
    Except ParseError (Read Expr (tokens.length + 1)) :=
  match tokens with
  | [] => .ok ⟨l, [], by simp⟩
  | token :: afterOperator =>
    match token.operator? with
    | none => .ok ⟨l, token :: afterOperator, by simp⟩
    | some operator =>
      if operator.power < least then .ok ⟨l, token :: afterOperator, by simp⟩
      else
        match readOperation (operator.power + 1) afterOperator with
        | .error e => .error e
        | .ok r =>
          match readOperators least (operator.apply l r.value) r.rest with
          | .error e => .error e
          | .ok e => .ok ⟨e.value, e.rest, by
              have := r.shorter; have := e.shorter; simp only [List.length_cons]; omega⟩
termination_by 10 * tokens.length + 3
decreasing_by
  · simp only [List.length_cons]; omega
  · have := r.shorter; simp only [List.length_cons]; omega

def readPrefixed (tokens : List Token) : Except ParseError (Read Expr tokens.length) :=
  match tokens with
  | .minus :: rest =>
    match readOperation prefixPower rest with
    | .error e => .error e
    | .ok e => .ok ⟨.neg e.value, e.rest, Nat.lt_succ_of_lt e.shorter⟩
  | .bang :: rest =>
    match readOperation prefixPower rest with
    | .error e => .error e
    | .ok e => .ok ⟨.not e.value, e.rest, Nat.lt_succ_of_lt e.shorter⟩
  | tokens => readAtom tokens
termination_by 10 * tokens.length + 1
decreasing_by
  · simp only [List.length_cons]; omega
  · simp only [List.length_cons]; omega
  · omega

/-- A literal, a variable, a call, or an expression in parentheses. -/
def readAtom (tokens : List Token) : Except ParseError (Read Expr tokens.length) :=
  match tokens with
  | .int n :: rest => .ok ⟨.literal (.int n), rest, by simp⟩
  | .float x :: rest => .ok ⟨.literal (.float x), rest, by simp⟩
  | .str s :: rest => .ok ⟨.literal (.text s), rest, by simp⟩
  | .ident name :: .lparen :: .rparen :: rest => .ok ⟨.call name [], rest, by simp; omega⟩
  | .ident name :: .lparen :: rest =>
    match readArguments name rest with
    | .error e => .error e
    | .ok args => .ok ⟨.call name args.value, args.rest, by
        have := args.shorter; simp only [List.length_cons]; omega⟩
  | .ident name :: rest => .ok ⟨.var name, rest, by simp⟩
  | .lparen :: rest =>
    match readTernary rest with
    | .error e => .error e
    | .ok e =>
      match _close : e.rest with
      | .rparen :: rest => .ok ⟨e.value, rest, by have := e.shorter; simp_all; omega⟩
      | rest => .error (.expected .rparen rest)
  | tokens => .error (.unexpected tokens)
termination_by 10 * tokens.length
decreasing_by all_goals simp only [List.length_cons]; omega

/-- The arguments of a call, of which there is at least one, and the closing parenthesis. -/
def readArguments (name : Text) (tokens : List Token) :
    Except ParseError (Read (List Expr) tokens.length) :=
  match readTernary tokens with
  | .error e => .error e
  | .ok arg =>
    match _mark : arg.rest with
    | .comma :: rest =>
      match readArguments name rest with
      | .error e => .error e
      | .ok args => .ok ⟨arg.value :: args.value, args.rest, by
          have := arg.shorter; have := args.shorter; simp_all; omega⟩
    | .rparen :: rest => .ok ⟨[arg.value], rest, by have := arg.shorter; simp_all; omega⟩
    | rest => .error (.expectedInCall name rest)
termination_by 10 * tokens.length + 9
decreasing_by
  · omega
  · have := arg.shorter; simp_all; omega

end

def ofText (source : Text) : Except ParseError Expr :=
  match readTernary (Token.ofText source) with
  | .error e => .error e
  | .ok e => if e.rest.isEmpty then .ok e.value else .error (.trailing e.rest source)

end Expr

end LineTemplate
