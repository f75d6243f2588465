import LineTemplate.Expression.Value

/-!
# Expressions

The syntax trees of conditions.
-/

namespace LineTemplate

/-- An operator that first evaluates both of its sides. -/
inductive BinaryOp where
  | add | sub | mul | div | rem
  | eq | ne | lt | le | gt | ge
  | globMatch | regexMatch | notGlobMatch | notRegexMatch
  deriving DecidableEq

inductive Expr where
  | literal (v : Value)
  | var (name : Text)
  | neg (e : Expr)
  | not (e : Expr)
  | binary (op : BinaryOp) (l r : Expr)
  | and (l r : Expr)
  | or (l r : Expr)
  | ternary (cond yes no : Expr)
  | call (name : Text) (args : List Expr)

end LineTemplate
