import LineTemplate.Expression.Parser
import LineTemplate.Pattern.Glob
import LineTemplate.Pattern.Regex.Automaton
import LineTemplate.Pattern.Regex.Reader
import LineTemplate.Unicode.Casing
import LineTemplate.Variable.Bindings

/-!
# Evaluating expressions

Evaluation is strict from left to right, except that `&&`, `||` and the ternary operator evaluate
only the sides that they need. A variable without a value is the empty text.
-/

namespace LineTemplate

/-- Whether a regular expression, given as text, matches somewhere in a text. -/
def regexMatch (pattern text : Text) : Except EvalError Bool :=
  match Regex.ofText? pattern with
  | some r =>
    if r.isSmall then .ok (r.isMatch text) else .error (.largePattern pattern Regex.sizeLimit)
  | none => .error (.badPattern pattern)

/-- Applies an operator to two values; patterns are on the right. -/
def BinaryOp.apply (l r : Value) : BinaryOp → Except EvalError Value
  | add => .ok (l.add r)
  | sub => .ok (l.sub r)
  | mul => .ok (l.mul r)
  | div => l.div r
  | rem => l.rem r
  | eq => .ok (.ofBool (l.compare r == .eq))
  | ne => .ok (.ofBool (l.compare r != .eq))
  | lt => .ok (.ofBool (l.compare r == .lt))
  | le => .ok (.ofBool (l.compare r != .gt))
  | gt => .ok (.ofBool (l.compare r == .gt))
  | ge => .ok (.ofBool (l.compare r != .lt))
  | globMatch => .ok (.ofBool (Glob.isMatch r.display l.display))
  | notGlobMatch => .ok (.ofBool !(Glob.isMatch r.display l.display))
  | regexMatch => (LineTemplate.regexMatch r.display l.display).map .ofBool
  | notRegexMatch => (LineTemplate.regexMatch r.display l.display).map fun b => .ofBool !b

/-- The functions that an expression can call. Missing arguments are empty, further ones have no
effect. -/
def callFunction (name : Text) (args : List Value) (vars : Lookup) : Except EvalError Value :=
  let arg : Text := (args.head?.map Value.display).getD []
  if name = "defined".toList || name = "isset".toList then .ok (.ofBool (vars arg).isSome)
  else if name = "strlen".toList then .ok (.int (Int64.ofNat arg.length))
  else if name = "tolower".toList then .ok (.text (Unicode.lower arg))
  else if name = "toupper".toList then .ok (.text (Unicode.upper arg))
  else if name = "trim".toList then .ok (.text arg.trim)
  else .error (.unknownFunction name)

namespace Expr

mutual

def eval (vars : Lookup) : Expr → Except EvalError Value
  | literal v => .ok v
  | var name => .ok (((vars name).map .text).getD .blank)
  | neg e => do pure (← eval vars e).neg
  | not e => do pure (.ofBool !(← eval vars e).truth)
  | binary op l r => do
    let l ← eval vars l
    let r ← eval vars r
    op.apply l r
  | and l r => do
    if (← eval vars l).truth then pure (.ofBool (← eval vars r).truth) else pure (.ofBool false)
  | or l r => do
    if (← eval vars l).truth then pure (.ofBool true) else pure (.ofBool (← eval vars r).truth)
  | ternary cond yes no => do
    if (← eval vars cond).truth then eval vars yes else eval vars no
  | call name args => do callFunction name (← evalAll vars args) vars

/-- The values of some expressions, in order. -/
def evalAll (vars : Lookup) : List Expr → Except EvalError (List Value)
  | [] => .ok []
  | e :: rest => do
    let v ← eval vars e
    let values ← evalAll vars rest
    pure (v :: values)

end

end Expr

/-- Why a text has no value as an expression. -/
inductive ExprError where
  | parse (e : ParseError)
  | eval (e : EvalError)

def ExprError.message : ExprError → String
  | parse e => e.message
  | eval e => e.message

def evalText (vars : Lookup) (source : Text) : Except ExprError Value :=
  match Expr.ofText source with
  | .error e => .error (.parse e)
  | .ok e => (e.eval vars).mapError .eval

/--
Decides the conditions of a template. It gets the text of a condition and the variables, and answers
or fails with a reason.
-/
abbrev Evaluator := Text → Lookup → Except String Bool

/-- The evaluator of the expression language: a condition holds when its value is true. -/
def evaluateCondition : Evaluator := fun condition vars =>
  match evalText vars condition with
  | .ok v => .ok v.truth
  | .error e => .error e.message

end LineTemplate
