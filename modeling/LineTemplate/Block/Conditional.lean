import LineTemplate.Fault

/-!
# Conditional chains

The chains that are open at a line, innermost first. Text is live if every open chain is on a branch
that is taken. A condition is decided only where its outcome matters: when its chain stands in live
text and no earlier branch of the chain was taken.

An operation on an open chain gets a floor: the chains up to that depth belong to the sources around
the current one, and can be neither continued nor closed in it.

An operation changes the stack that it is run on. If it fails, it leaves the stack as it is then.
-/

namespace LineTemplate

inductive Branch where
  | first
  | elseIf
  | otherwise
  deriving DecidableEq

structure Chain where
  branch : Branch
  /-- The condition of the current branch, if it is an expression. -/
  expression : Option Text
  /-- The current branch is live. -/
  taken : Bool
  /-- Some branch was live, or the last branch is reached. -/
  satisfied : Bool
  /-- The text around the chain is live. -/
  parentActive : Bool
  deriving DecidableEq

/-- The open chains, innermost first. -/
structure ConditionalStack where
  chains : List Chain := []
  deriving DecidableEq

namespace ConditionalStack

/-- The text here is live. -/
def isActive (s : ConditionalStack) : Bool :=
  s.chains.all Chain.taken

def depth (s : ConditionalStack) : Nat :=
  s.chains.length

/-- Opens a chain whose condition has been decided. -/
def push (s : ConditionalStack) (expression : Option Text) (holds : Bool) : ConditionalStack :=
  let taken := s.isActive && holds
  ⟨{ branch := .first, expression, taken, satisfied := taken, parentActive := s.isActive } ::
    s.chains⟩

/-- What a condition comes to if it is decided only where it is needed. -/
def consult (needed : Bool) (condition : Except Fault Bool) : Except Fault Bool :=
  if needed then condition else .ok false

/-- Opens a chain, and says whether its branch is taken. In dead text the condition plays no role,
not even if it cannot be decided. -/
def opens (expression : Option Text) (condition : Except Fault Bool) :
    EStateM Fault ConditionalStack Bool := do
  let s ← get
  let taken ← ofExcept (consult s.isActive condition)
  set (s.push expression taken)
  return taken

/-- The innermost chain, if the current source opened it and no final branch is reached. -/
def continuable (s : ConditionalStack) (floor : Nat) (outside afterLast : BlockFault) :
    Except BlockFault (Chain × List Chain) :=
  if s.depth ≤ floor then .error outside
  else match s.chains with
    | [] => .error outside
    | chain :: rest => if chain.branch = .otherwise then .error afterLast else .ok (chain, rest)

/-- The condition of a further branch matters. -/
def Chain.pending (c : Chain) : Bool :=
  c.parentActive && !c.satisfied

/-- Whether a further branch with a condition would have it decided. -/
def asks (s : ConditionalStack) (floor : Nat) : Bool :=
  match s.continuable floor .elseIfWithoutIf .elseIfAfterElse with
  | .ok (chain, _) => Chain.pending chain
  | .error _ => false

/-- Continues the innermost chain by a branch with a condition, and says whether it is taken. -/
def elseIf (floor : Nat) (expression : Text) (condition : Except Fault Bool) :
    EStateM Fault ConditionalStack Bool := do
  let s ← get
  match s.continuable floor .elseIfWithoutIf .elseIfAfterElse with
  | .error e => throw (.unmatched e)
  | .ok (chain, rest) =>
    let taken ← ofExcept (consult (Chain.pending chain) condition)
    set (ConditionalStack.mk ({ chain with
      branch := .elseIf, expression := some expression, taken
      satisfied := chain.satisfied || taken } :: rest))
    return taken

/-- Continues the innermost chain by its last branch, which is taken if no earlier one was. -/
def otherwise (floor : Nat) : EStateM Fault ConditionalStack Bool := do
  let s ← get
  match s.continuable floor .elseWithoutIf .elseAfterElse with
  | .error e => throw (.unmatched e)
  | .ok (chain, rest) =>
    let taken := Chain.pending chain
    set (ConditionalStack.mk ({ chain with
      branch := .otherwise, expression := none, taken, satisfied := true } :: rest))
    return taken

/-- Closes the innermost chain. -/
def close (floor : Nat) : EStateM Fault ConditionalStack Chain := do
  let s ← get
  if s.depth ≤ floor then throw (.unmatched .endIfWithoutIf)
  else match s.chains with
    | [] => throw (.unmatched .endIfWithoutIf)
    | chain :: rest =>
      set (ConditionalStack.mk rest)
      return chain

/-- What an operation gives and the stack after it, unless it fails. -/
def run? {α : Type} (s : ConditionalStack) (operation : EStateM Fault ConditionalStack α) :
    Except Fault (α × ConditionalStack) :=
  match operation.run s with
  | .ok value s => .ok (value, s)
  | .error e _ => .error e

def open? (s : ConditionalStack) (expression : Option Text) (condition : Except Fault Bool) :
    Except Fault ConditionalStack :=
  (s.run? (opens expression condition)).map Prod.snd

def elseIf? (s : ConditionalStack) (floor : Nat) (expression : Text)
    (condition : Except Fault Bool) : Except Fault ConditionalStack :=
  (s.run? (elseIf floor expression condition)).map Prod.snd

def otherwise? (s : ConditionalStack) (floor : Nat) : Except Fault ConditionalStack :=
  (s.run? (otherwise floor)).map Prod.snd

def close? (s : ConditionalStack) (floor : Nat) : Except Fault (Chain × ConditionalStack) :=
  s.run? (close floor)

section

variable (s : ConditionalStack) (floor : Nat)

theorem run_opens (expression : Option Text) (condition : Except Fault Bool) :
    (opens expression condition).run s =
      match consult s.isActive condition with
      | .ok taken => .ok taken (s.push expression taken)
      | .error e => .error e s := by
  rw [opens, EStateM.run_bind, EStateM.run_get]
  dsimp only
  cases consult s.isActive condition <;> rfl

theorem run_elseIf (expression : Text) (condition : Except Fault Bool) :
    (elseIf floor expression condition).run s =
      match s.continuable floor .elseIfWithoutIf .elseIfAfterElse with
      | .error e => .error (.unmatched e) s
      | .ok (chain, rest) =>
        match consult (Chain.pending chain) condition with
        | .ok taken => .ok taken ⟨{ chain with
            branch := .elseIf, expression := some expression, taken
            satisfied := chain.satisfied || taken } :: rest⟩
        | .error e => .error e s := by
  rw [elseIf, EStateM.run_bind, EStateM.run_get]
  dsimp only
  cases s.continuable floor .elseIfWithoutIf .elseIfAfterElse with
  | error => rfl
  | ok found =>
    dsimp only
    cases consult (Chain.pending found.1) condition <;> rfl

theorem run_otherwise : (otherwise floor).run s =
    match s.continuable floor .elseWithoutIf .elseAfterElse with
    | .error e => .error (.unmatched e) s
    | .ok (chain, rest) => .ok (Chain.pending chain) ⟨{ chain with
        branch := .otherwise, expression := none, taken := Chain.pending chain
        satisfied := true } :: rest⟩ := by
  rw [otherwise, EStateM.run_bind, EStateM.run_get]
  dsimp only
  cases s.continuable floor .elseWithoutIf .elseAfterElse <;> rfl

theorem run_close : (close floor).run s =
    if s.depth ≤ floor then .error (.unmatched .endIfWithoutIf) s
    else match s.chains with
      | [] => .error (.unmatched .endIfWithoutIf) s
      | chain :: rest => .ok chain ⟨rest⟩ := by
  rw [close, EStateM.run_bind, EStateM.run_get]
  dsimp only
  by_cases outside : s.depth ≤ floor
  · rw [if_pos outside, if_pos outside]
    rfl
  · rw [if_neg outside, if_neg outside]
    cases s.chains <;> rfl

/-! The same operations without the stack that a failure leaves behind. -/

theorem open?_eq (expression : Option Text) (condition : Except Fault Bool) :
    s.open? expression condition =
      if s.isActive then condition.map (s.push expression ·) else .ok (s.push expression false) := by
  rw [open?, run?, run_opens, consult]
  by_cases live : s.isActive = true
  · rw [if_pos live, if_pos live]
    cases condition <;> rfl
  · rw [if_neg live, if_neg live]
    rfl

theorem elseIf?_eq (expression : Text) (condition : Except Fault Bool) :
    s.elseIf? floor expression condition =
      match s.continuable floor .elseIfWithoutIf .elseIfAfterElse with
      | .error e => .error (.unmatched e)
      | .ok (chain, rest) =>
        let branch (taken : Bool) : ConditionalStack :=
          ⟨{ chain with
              branch := .elseIf, expression := some expression, taken
              satisfied := chain.satisfied || taken } :: rest⟩
        if Chain.pending chain then condition.map branch else .ok (branch false) := by
  rw [elseIf?, run?, run_elseIf]
  cases s.continuable floor .elseIfWithoutIf .elseIfAfterElse with
  | error => rfl
  | ok found =>
    dsimp only
    by_cases needed : Chain.pending found.1 = true
    · rw [consult, if_pos needed, if_pos needed]
      cases condition <;> rfl
    · rw [consult, if_neg needed, if_neg needed]
      rfl

theorem otherwise?_eq : s.otherwise? floor =
    match s.continuable floor .elseWithoutIf .elseAfterElse with
    | .error e => .error (.unmatched e)
    | .ok (chain, rest) =>
      .ok ⟨{ chain with
        branch := .otherwise, expression := none, taken := Chain.pending chain
        satisfied := true } :: rest⟩ := by
  rw [otherwise?, run?, run_otherwise]
  cases s.continuable floor .elseWithoutIf .elseAfterElse <;> rfl

theorem close?_eq : s.close? floor =
    if s.depth ≤ floor then .error (.unmatched .endIfWithoutIf)
    else match s.chains with
      | [] => .error (.unmatched .endIfWithoutIf)
      | chain :: rest => .ok (chain, ⟨rest⟩) := by
  rw [close?, run?, run_close]
  by_cases outside : s.depth ≤ floor
  · rw [if_pos outside, if_pos outside]
  · rw [if_neg outside, if_neg outside]
    cases s.chains <;> rfl

end

/-- What is missing if the innermost chain is never closed. -/
def openBlock (s : ConditionalStack) : BlockFault :=
  .ifWithoutEnd (s.chains.head?.bind Chain.expression)

end ConditionalStack

end LineTemplate
