import LineTemplate.Proofs.Blocks.Stacks
import LineTemplate.Proofs.Lines.Shelter

/-!
# The stack of conditional chains

What the stack of chains is after any operations on it, with any floors and conditions. An operation
that fails leaves behind the stack on which it gave up, which is the one that it was run on: each
makes its checks before it writes. `Step` says once what an operation that succeeds does; the
invariant of a single stack (`Coherent`) and what is known of a chain from the branches that it has
had so far (`Recalls`) are derived from it.

A chain is known by the time at which it was opened. Its branches begin at the times at which it is
on top and is continued (`BranchAt`).
-/

namespace LineTemplate

/-- An entry below the floor keeps its place, counted from the bottom. -/
theorem Shelters.getElem? {α : Type} {s s' : List α} {i : Nat} {a : α} (h : Shelters (i + 1) s s')
    (here : s.reverse[i]? = some a) : s'.reverse[i]? = some a := by
  have low : (s.reverse.take (i + 1)).reverse <:+ s := by
    rw [← List.reverse_prefix, List.reverse_reverse]
    exact List.take_prefix _ _
  have kept := h _ low (by
    rw [List.length_reverse]
    exact List.length_take_le _ _)
  rw [← List.reverse_prefix, List.reverse_reverse] at kept
  obtain ⟨rest, whole⟩ := kept
  have taken : (s.reverse.take (i + 1))[i]? = some a := by
    rw [List.getElem?_take_of_lt (Nat.lt_succ_self i), here]
  rw [← whole, List.getElem?_append_left (List.getElem?_eq_some_iff.mp taken).1, taken]

namespace ConditionalStack

/-- What a stack of chains can be told to do. -/
inductive Operation where
  | opens (expression : Option Text) (condition : Except Fault Bool)
  | elseIf (floor : Nat) (expression : Text) (condition : Except Fault Bool)
  | otherwise (floor : Nat)
  | close (floor : Nat)

namespace Operation

/-- The depth up to which the chains belong to other sources, if the operation is about a chain
that is open. -/
def floor? : Operation → Option Nat
  | opens .. => none
  | elseIf floor .. | otherwise floor | close floor => some floor

def condition? : Operation → Option (Except Fault Bool)
  | opens _ condition | elseIf _ _ condition => some condition
  | otherwise _ | close _ => none

def isFurther : Operation → Bool
  | elseIf .. | otherwise _ => true
  | opens .. | close _ => false

/-- The same operation, with another condition if it has one. -/
def withCondition (condition : Except Fault Bool) : Operation → Operation
  | opens expression _ => opens expression condition
  | elseIf floor expression _ => elseIf floor expression condition
  | otherwise floor => otherwise floor
  | close floor => close floor

end Operation

def apply (s : ConditionalStack) : Operation → Except Fault ConditionalStack
  | .opens expression condition => s.open? expression condition
  | .elseIf floor expression condition => s.elseIf? floor expression condition
  | .otherwise floor => s.otherwise? floor
  | .close floor => (s.close? floor).map Prod.snd

/-- The innermost chain is on a branch that is taken. -/
def onTaken (s : ConditionalStack) : Bool :=
  s.chains.head?.any Chain.taken

/-- Whether the branch is taken that an operation begins. -/
def answer (s : ConditionalStack) (op : Operation) : Except Fault Bool :=
  (s.apply op).map onTaken

/-- What comes of an operation depends on its condition, which therefore has to be decided. -/
def Consults (s : ConditionalStack) (op : Operation) : Prop :=
  ∃ condition condition',
    s.apply (op.withCondition condition) ≠ s.apply (op.withCondition condition')

/-- The stack that is left when an operation has succeeded or failed. -/
def leftBy {α : Type} : EStateM.Result Fault ConditionalStack α → ConditionalStack
  | .ok _ s | .error _ s => s

/-- The chains after an operation, also after one that fails. -/
def obey (s : ConditionalStack) : Operation → ConditionalStack
  | .opens expression condition => leftBy ((opens expression condition).run s)
  | .elseIf floor expression condition => leftBy ((elseIf floor expression condition).run s)
  | .otherwise floor => leftBy ((otherwise floor).run s)
  | .close floor => leftBy ((close floor).run s)

/-- The chains when the operation with a number is given, none of which was open at first. -/
def before (ops : List Operation) (n : Nat) : ConditionalStack :=
  stateAt obey {} ops n

def chainsAt (ops : List Operation) (n : Nat) : List Chain :=
  (before ops n).chains

/-- At time `n` a branch begins of the chain that was opened at time `m`. -/
inductive BranchAt (ops : List Operation) (m : Nat) : (n : Nat) → (taken : Bool) → Prop where
  | first {expression : Option Text} {condition : Except Fault Bool} {taken : Bool}
      (given : ops[m]? = some (.opens expression condition))
      (answers : (before ops m).answer (.opens expression condition) = .ok taken) :
    BranchAt ops m m taken
  | further {n : Nat} {op : Operation} {taken : Bool} (given : ops[n]? = some op)
      (further : op.isFurther = true) (innermost : OnTop (chainsAt ops) m n)
      (answers : (before ops n).answer op = .ok taken) :
    BranchAt ops m n taken

/-- At time `n` the last branch begins of the chain that was opened at time `m`. -/
def LastAt (ops : List Operation) (m n : Nat) : Prop :=
  ∃ floor taken, ops[n]? = some (.otherwise floor) ∧ BranchAt ops m n taken

/-! ## An operation that fails -/

section

variable {α : Type} {s s' : ConditionalStack} {op : Operation} {fault : Fault} {floor : Nat}
  {operation : EStateM Fault ConditionalStack α}

theorem opens_fails {expression : Option Text} {condition : Except Fault Bool}
    (h : (opens expression condition).run s = .error fault s') : s' = s := by
  rw [run_opens] at h
  split at h <;> cases h
  rfl

theorem elseIf_fails {expression : Text} {condition : Except Fault Bool}
    (h : (elseIf floor expression condition).run s = .error fault s') : s' = s := by
  rw [run_elseIf] at h
  split at h
  · cases h
    rfl
  · split at h <;> cases h
    rfl

theorem otherwise_fails (h : (otherwise floor).run s = .error fault s') : s' = s := by
  rw [run_otherwise] at h
  split at h <;> cases h
  rfl

theorem close_fails (h : (close floor).run s = .error fault s') : s' = s := by
  rw [run_close] at h
  split at h
  · cases h
    rfl
  · split at h <;> cases h
    rfl

theorem leftBy_of_ok {value : α} (h : s.run? operation = .ok (value, s')) :
    leftBy (operation.run s) = s' := by
  unfold run? at h
  split at h
  · rename_i ran
    cases h
    rw [ran, leftBy]
  · cases h

theorem leftBy_of_error (fails : ∀ {fault s'}, operation.run s = .error fault s' → s' = s)
    (h : s.run? operation = .error fault) : leftBy (operation.run s) = s := by
  unfold run? at h
  split at h
  · cases h
  · rename_i ran
    rw [ran, leftBy, fails ran]

theorem obey_of_ok (h : s.apply op = .ok s') : s.obey op = s' := by
  cases op with
  | opens | elseIf | otherwise | close =>
    obtain ⟨⟨value, left⟩, ran, rfl⟩ := Outcome.map_eq_ok.mp h
    exact leftBy_of_ok ran

theorem obey_of_error (h : s.apply op = .error fault) : s.obey op = s := by
  cases op with
  | opens => exact leftBy_of_error opens_fails (Outcome.map_eq_error.mp h)
  | elseIf => exact leftBy_of_error elseIf_fails (Outcome.map_eq_error.mp h)
  | otherwise => exact leftBy_of_error otherwise_fails (Outcome.map_eq_error.mp h)
  | close => exact leftBy_of_error close_fails (Outcome.map_eq_error.mp h)

end

/-! ## What an operation does -/

/-- All that an operation that succeeds can do. -/
inductive Step (s : ConditionalStack) : Operation → ConditionalStack → Prop where
  | opened {expression : Option Text} {condition : Except Fault Bool} {holds : Bool}
      (consulted : s.isActive = true → condition = .ok holds)
      (unneeded : s.isActive = false → holds = false) :
    Step s (.opens expression condition) (s.push expression holds)
  | continued {floor : Nat} {expression : Text} {condition : Except Fault Bool} {chain : Chain}
      {rest : List Chain} {taken : Bool} (top : s.chains = chain :: rest)
      (own : floor ≤ rest.length) (unfinished : chain.branch ≠ .otherwise)
      (consulted : Chain.pending chain = true → condition = .ok taken)
      (unneeded : Chain.pending chain = false → taken = false) :
    Step s (.elseIf floor expression condition)
      ⟨{ chain with
          branch := .elseIf, expression := some expression, taken
          satisfied := chain.satisfied || taken } :: rest⟩
  | finished {floor : Nat} {chain : Chain} {rest : List Chain} (top : s.chains = chain :: rest)
      (own : floor ≤ rest.length) (unfinished : chain.branch ≠ .otherwise) :
    Step s (.otherwise floor)
      ⟨{ chain with
          branch := .otherwise, expression := none, taken := Chain.pending chain
          satisfied := true } :: rest⟩
  | closed {floor : Nat} {chain : Chain} {rest : List Chain} (top : s.chains = chain :: rest)
      (own : floor ≤ rest.length) : Step s (.close floor) ⟨rest⟩

section

variable {s s' : ConditionalStack} {op : Operation} {chain : Chain} {rest : List Chain}
  {floor : Nat}

theorem continuable_eq_ok {outside afterLast : BlockFault} (top : s.chains = chain :: rest)
    (own : floor ≤ rest.length) (unfinished : chain.branch ≠ .otherwise) :
    s.continuable floor outside afterLast = .ok (chain, rest) := by
  unfold continuable
  rw [if_neg (by simp [depth, top]; omega), top]
  exact if_neg unfinished

theorem step_of_apply (h : s.apply op = .ok s') : Step s op s' := by
  cases op with
  | opens expression condition =>
    obtain ⟨holds, rfl, consulted, unneeded⟩ := Run.open?_ok h
    exact .opened consulted unneeded
  | elseIf floor expression condition =>
    rw [apply, elseIf?_eq] at h
    split at h
    · cases h
    · rename_i chain rest hc
      obtain ⟨top, own, unfinished⟩ := Run.continuable_ok hc
      by_cases needed : Chain.pending chain = true
      · rw [if_pos needed] at h
        obtain ⟨taken, decided, rfl⟩ := Outcome.map_eq_ok.mp h
        exact .continued top own unfinished (fun _ => decided) fun un => by simp [needed] at un
      · rw [if_neg needed] at h
        cases h
        exact .continued top own unfinished (fun un => absurd un needed) fun _ => rfl
  | otherwise floor =>
    rw [apply, otherwise?_eq] at h
    split at h
    · cases h
    · rename_i chain rest hc
      cases h
      obtain ⟨top, own, unfinished⟩ := Run.continuable_ok hc
      exact .finished top own unfinished
  | close floor =>
    obtain ⟨⟨chain, rest⟩, hc, rfl⟩ := Outcome.map_eq_ok.mp h
    obtain ⟨top, own⟩ := Run.close?_ok hc
    exact .closed top own

theorem Step.turn (h : Step s op s') : Turn s.chains s'.chains := by
  cases h with
  | opened => exact .pushed _ _
  | continued top | finished top => exact top ▸ .replaced _ _ _
  | closed top => exact top ▸ .popped _ _

/-- An operation that is about an open chain leaves those below its floor alone, and one that opens
a chain leaves all of them alone. -/
theorem Step.shelters (h : Step s op s') (low : ∀ own, op.floor? = some own → floor ≤ own) :
    Shelters floor s.chains s'.chains := by
  cases h with
  | opened => exact .push
  | continued top own | finished top own =>
    exact top ▸ .replace (Nat.le_trans (low _ rfl) own)
  | closed top own => exact top ▸ .pop (Nat.le_trans (low _ rfl) own)

theorem obey_eq (s : ConditionalStack) (op : Operation) :
    (s.answer op = .ok (s.obey op).onTaken ∧ Step s op (s.obey op)) ∨
      (∃ fault, s.answer op = .error fault) ∧ s.obey op = s := by
  unfold answer
  cases h : s.apply op with
  | ok s' =>
    rw [obey_of_ok h]
    exact .inl ⟨rfl, step_of_apply h⟩
  | error fault => exact .inr ⟨⟨fault, rfl⟩, obey_of_error h⟩

/-! ## Conditions -/

theorem consults_opens {expression : Option Text} {condition : Except Fault Bool} :
    s.Consults (.opens expression condition) ↔ s.isActive = true := by
  constructor
  · rintro ⟨c, c', differs⟩
    by_contra dead
    exact differs (by simp only [apply, Operation.withCondition, open?_eq, if_neg dead])
  · intro live
    refine ⟨.error (.badCondition ""), .ok true, ?_⟩
    simp [apply, Operation.withCondition, open?_eq, live]

theorem answer_opens {expression : Option Text} {condition : Except Fault Bool}
    (live : s.isActive = true) : s.answer (.opens expression condition) = condition := by
  cases condition <;> simp [answer, apply, open?_eq, live, push, onTaken]

theorem elseIf?_pending {expression : Text} {condition : Except Fault Bool}
    (top : s.chains = chain :: rest) (own : floor ≤ rest.length)
    (unfinished : chain.branch ≠ .otherwise) (needed : Chain.pending chain = true) :
    s.elseIf? floor expression condition = condition.map fun taken =>
      ⟨{ chain with
          branch := .elseIf, expression := some expression, taken
          satisfied := chain.satisfied || taken } :: rest⟩ := by
  rw [elseIf?_eq, continuable_eq_ok top own unfinished]
  exact if_pos needed

theorem answer_elseIf {expression : Text} {condition : Except Fault Bool}
    (top : s.chains = chain :: rest) (own : floor ≤ rest.length)
    (unfinished : chain.branch ≠ .otherwise) (needed : Chain.pending chain = true) :
    s.answer (.elseIf floor expression condition) = condition := by
  rw [answer, apply, elseIf?_pending top own unfinished needed]
  cases condition <;> simp [onTaken]

/-- The condition of a further branch is consulted if the chain belongs to the current source, is
not on its last branch, stands in live text and had no taken branch so far. -/
theorem consults_elseIf {expression : Text} {condition : Except Fault Bool} :
    s.Consults (.elseIf floor expression condition) ↔
      ∃ chain rest, s.chains = chain :: rest ∧ floor ≤ rest.length ∧
        chain.branch ≠ .otherwise ∧ Chain.pending chain = true := by
  constructor
  · rintro ⟨c, c', differs⟩
    by_contra none
    refine differs ?_
    simp only [apply, Operation.withCondition, elseIf?_eq]
    split
    · rfl
    · rename_i chain rest hc
      obtain ⟨top, own, unfinished⟩ := Run.continuable_ok hc
      have unneeded : ¬ Chain.pending chain = true := fun needed =>
        none ⟨chain, rest, top, own, unfinished, needed⟩
      rw [if_neg unneeded, if_neg unneeded]
  · rintro ⟨chain, rest, top, own, unfinished, needed⟩
    refine ⟨.error (.badCondition ""), .ok true, ?_⟩
    simp only [apply, Operation.withCondition, elseIf?_pending top own unfinished needed]
    exact nofun

end

/-! ## A stack at one time -/

/-- Every chain knows whether the text around it is live, and only in live text can it be on a
branch that is taken. -/
def Coherent (s : ConditionalStack) : Prop :=
  ∀ above chain below, s.chains = above ++ chain :: below →
    chain.parentActive = below.all Chain.taken ∧
      (chain.taken = true → chain.parentActive = true ∧ chain.satisfied = true)

namespace Coherent

variable {s s' : ConditionalStack} {op : Operation} {chain : Chain} {rest : List Chain}

theorem cons_iff : Coherent ⟨chain :: rest⟩ ↔
    (chain.parentActive = rest.all Chain.taken ∧
      (chain.taken = true → chain.parentActive = true ∧ chain.satisfied = true)) ∧
    Coherent ⟨rest⟩ := by
  constructor
  · exact fun h => ⟨h [] chain rest rfl, fun above c below hs =>
      h (chain :: above) c below (congrArg (chain :: ·) hs)⟩
  · rintro ⟨first, others⟩ above c below hs
    rcases List.cons_eq_append_iff.mp hs with ⟨rfl, here⟩ | ⟨above, rfl, there⟩
    · cases here
      exact first
    · exact others above c below there

theorem step (h : s.Coherent) (step : Step s op s') : s'.Coherent := by
  cases step with
  | opened =>
    refine cons_iff.mpr ⟨⟨rfl, fun taken => ⟨?_, taken⟩⟩, h⟩
    exact (Bool.and_eq_true_iff.mp taken).1
  | @continued floor expression condition chain rest taken top own unfinished consulted unneeded =>
    obtain ⟨⟨parent, -⟩, below⟩ := cons_iff.mp (show Coherent ⟨chain :: rest⟩ from top ▸ h)
    refine cons_iff.mpr ⟨⟨parent, fun ht => ⟨?_, by simp [show taken = true from ht]⟩⟩, below⟩
    have needed : Chain.pending chain = true := by
      by_contra un
      exact absurd (unneeded (by simpa using un)) (by simp [show taken = true from ht])
    exact (Bool.and_eq_true_iff.mp needed).1
  | @finished floor chain rest top own unfinished =>
    obtain ⟨⟨parent, -⟩, below⟩ := cons_iff.mp (show Coherent ⟨chain :: rest⟩ from top ▸ h)
    exact cons_iff.mpr
      ⟨⟨parent, fun needed => ⟨(Bool.and_eq_true_iff.mp needed).1, rfl⟩⟩, below⟩
  | @closed floor chain rest top own =>
    exact (cons_iff.mp (show Coherent ⟨chain :: rest⟩ from top ▸ h)).2

/-- The innermost chain tells whether text is live. -/
theorem isActive_eq (h : s.Coherent) :
    s.isActive = (s.chains.head?.map Chain.taken).getD true := by
  obtain ⟨chains⟩ := s
  cases chains with
  | nil => rfl
  | cons chain rest =>
    obtain ⟨⟨parent, taken⟩, -⟩ := cons_iff.mp h
    cases ht : chain.taken with
    | false => simp [isActive, ht]
    | true =>
      have live : rest.all Chain.taken = true := parent ▸ (taken ht).1
      simp [isActive, ht, live]

end Coherent

/-! ## A chain over time -/

section

variable {ops : List Operation} {m n k : Nat} {op : Operation} {taken : Bool} {chain : Chain}

theorem before_succ (given : ops[n]? = some op) :
    before ops (n + 1) = (before ops n).obey op :=
  stateAt_succ given

theorem turns (ops : List Operation) (n : Nat) : Turn (chainsAt ops n) (chainsAt ops (n + 1)) := by
  refine turns_of_obey chains (fun s op => ?_) {} ops n
  rcases obey_eq s op with ⟨-, step⟩ | ⟨-, same⟩
  · exact step.turn
  · rw [same]
    exact .kept _

theorem coherent_before (ops : List Operation) (n : Nat) : (before ops n).Coherent := by
  refine stateAt_preserves (fun s op h => ?_) fun _ _ _ hs => by simp at hs
  rcases obey_eq s op with ⟨-, step⟩ | ⟨-, same⟩
  · exact h.step step
  · exact same.symm ▸ h

theorem answer_eq_ok (h : (before ops n).answer op = .ok taken) :
    ∃ s, Step (before ops n) op s ∧ (before ops n).obey op = s ∧ s.onTaken = taken := by
  obtain ⟨s, applied, rfl⟩ := Outcome.map_eq_ok.mp h
  exact ⟨s, step_of_apply applied, obey_of_ok applied, rfl⟩

namespace BranchAt

/-- A branch that is not the first one begins on top of the stack. -/
theorem later (h : BranchAt ops m n taken) (after : m ≠ n) :
    ∃ op, ops[n]? = some op ∧ op.isFurther = true ∧ OnTop (chainsAt ops) m n ∧
      (before ops n).answer op = .ok taken := by
  cases h with
  | first => exact absurd rfl after
  | further given further innermost answers => exact ⟨_, given, further, innermost, answers⟩

theorem le (h : BranchAt ops m n taken) : m ≤ n := by
  cases h with
  | first => exact Nat.le_refl m
  | further _ _ innermost => exact Nat.le_of_lt innermost.lt

end BranchAt

/-- What a chain recalls of those of its branches that began before time `n`. -/
structure Recalls (ops : List Operation) (m n : Nat) (chain : Chain) : Prop where
  parent : chain.parentActive = (before ops m).isActive
  last : chain.branch = .otherwise ↔ ∃ k < n, LastAt ops m k
  satisfied : chain.satisfied = true ↔
    (∃ k < n, BranchAt ops m k true) ∨ chain.branch = .otherwise

theorem branchAt_iff {taken' : Bool} (given : ops[n]? = some op) (further : op.isFurther = true)
    (innermost : OnTop (chainsAt ops) m n) (answers : (before ops n).answer op = .ok taken) :
    BranchAt ops m n taken' ↔ taken' = taken := by
  constructor
  · intro begins
    obtain ⟨op', given', -, -, answers'⟩ := begins.later (Nat.ne_of_lt innermost.lt)
    cases given.symm.trans given'
    exact Except.ok.inj (answers'.symm.trans answers)
  · rintro rfl
    exact .further given further innermost answers

/-- Where a chain is neither opened nor continued, none of its branches begins. -/
theorem not_branchAt (after : m ≠ n)
    (other : ∀ op taken, ops[n]? = some op → op.isFurther = true →
      OnTop (chainsAt ops) m n → (before ops n).answer op ≠ .ok taken) :
    ¬ BranchAt ops m n taken := by
  intro begins
  obtain ⟨op, given, further, innermost, answers⟩ := begins.later after
  exact other op taken given further innermost answers

namespace Recalls

theorem kept (h : Recalls ops m n chain) (none : ∀ taken, ¬ BranchAt ops m n taken) :
    Recalls ops m (n + 1) chain where
  parent := h.parent
  last := by
    rw [Nat.exists_lt_succ_right, h.last, iff_self_or]
    rintro ⟨_, taken, -, begins⟩
    exact absurd begins (none taken)
  satisfied := by
    rw [Nat.exists_lt_succ_right, h.satisfied]
    simp only [none true, or_false]

/-- A chain that is opened recalls its first branch. -/
theorem opened {expression : Option Text} {condition : Except Fault Bool}
    (given : ops[m]? = some (.opens expression condition))
    (answers : (before ops m).answer (.opens expression condition) = .ok chain.taken)
    (first : chain.branch = .first) (satisfied : chain.satisfied = chain.taken)
    (parent : chain.parentActive = (before ops m).isActive) : Recalls ops m (m + 1) chain := by
  have unbegun (k : Nat) (taken : Bool) (before : k < m) : ¬ BranchAt ops m k taken :=
    fun begins => absurd begins.le (Nat.not_le_of_lt before)
  have here (taken : Bool) : BranchAt ops m m taken ↔ taken = chain.taken := by
    constructor
    · intro begins
      cases begins with
      | first given' answers' =>
        cases given.symm.trans given'
        exact Except.ok.inj (answers'.symm.trans answers)
      | further _ _ innermost => exact absurd innermost.lt (Nat.lt_irrefl m)
    · rintro rfl
      exact .first given answers
  refine ⟨parent, ?_, ?_⟩
  · simp only [first, reduceCtorEq, false_iff]
    rintro ⟨k, hk, floor, taken, last, begins⟩
    rcases Nat.lt_or_eq_of_le (Nat.le_of_lt_succ hk) with before | rfl
    · exact unbegun k taken before begins
    · cases given.symm.trans last
  · have fresh : ¬ ∃ k < m, BranchAt ops m k true := fun ⟨k, hk, begins⟩ =>
      unbegun k true hk begins
    rw [satisfied, Nat.exists_lt_succ_right, here, or_iff_right fresh, first, eq_comm]
    simp

theorem continued {floor : Nat} {expression : Text} {condition : Except Fault Bool}
    (h : Recalls ops m n chain) (innermost : OnTop (chainsAt ops) m n)
    (given : ops[n]? = some (.elseIf floor expression condition))
    (unfinished : chain.branch ≠ .otherwise)
    (answers : (before ops n).answer (.elseIf floor expression condition) = .ok taken) :
    Recalls ops m (n + 1)
      { chain with
        branch := .elseIf, expression := some expression, taken
        satisfied := chain.satisfied || taken } where
  parent := h.parent
  last := by
    simp only [reduceCtorEq, false_iff]
    rintro ⟨k, hk, last⟩
    rcases Nat.lt_or_eq_of_le (Nat.le_of_lt_succ hk) with before | rfl
    · exact unfinished (h.last.mpr ⟨k, before, last⟩)
    · obtain ⟨_, _, given', -⟩ := last
      cases given.symm.trans given'
  satisfied := by
    rw [Bool.or_eq_true, h.satisfied, Nat.exists_lt_succ_right,
      branchAt_iff given rfl innermost answers, or_iff_left unfinished, eq_comm (a := true)]
    simp

theorem finished {floor : Nat} {expression : Option Text}
    (h : Recalls ops m n chain) (innermost : OnTop (chainsAt ops) m n)
    (given : ops[n]? = some (.otherwise floor))
    (answers : (before ops n).answer (.otherwise floor) = .ok taken) :
    Recalls ops m (n + 1)
      { chain with branch := .otherwise, expression, taken, satisfied := true } where
  parent := h.parent
  last := by
    simp only [true_iff]
    exact ⟨n, Nat.lt_succ_self n, floor, taken, given, .further given rfl innermost answers⟩
  satisfied := by simp

end Recalls

theorem recalls_pushed (top : chainsAt ops (m + 1) = chain :: chainsAt ops m) :
    Recalls ops m (m + 1) chain := by
  have higher : (chainsAt ops m).length < (chainsAt ops (m + 1)).length := by simp [top]
  unfold chainsAt at top higher
  cases given : ops[m]? with
  | none =>
    have same : before ops (m + 1) = before ops m := stateAt_succ_of_none given
    exact absurd higher (same ▸ Nat.lt_irrefl _)
  | some op =>
    rw [before_succ given] at top higher
    rcases obey_eq (before ops m) op with ⟨answers, step⟩ | ⟨-, same⟩
    · generalize (before ops m).obey op = s at answers step top higher
      cases step with
      | opened =>
        cases top
        exact .opened given answers rfl rfl rfl
      | continued onTop | finished onTop => exact absurd higher (by simp [onTop])
      | closed onTop => exact absurd higher (by simp [onTop])
    · exact absurd higher (by simp [same])

theorem recalls_turned {above : List Chain} {chain' : Chain} (innermost : OnTop (chainsAt ops) m n)
    (top : chainsAt ops n = chain :: chainsAt ops m)
    (now : chainsAt ops (n + 1) = above ++ chain' :: chainsAt ops m)
    (h : Recalls ops m n chain) : Recalls ops m (n + 1) chain' := by
  have after := Nat.ne_of_lt innermost.lt
  have unmoved (same : before ops (n + 1) = before ops n) : chain' = chain := by
    rw [chainsAt, same] at now
    exact (entry_unique [] _ (top.symm.trans now)).symm
  cases given : ops[n]? with
  | none =>
    rw [unmoved (stateAt_succ_of_none given)]
    exact h.kept fun _ => not_branchAt after fun _ _ given' => by simp [given] at given'
  | some op =>
    rw [chainsAt] at top
    rw [chainsAt, before_succ given] at now
    rcases obey_eq (before ops n) op with ⟨answers, step⟩ | ⟨⟨fault, fails⟩, same⟩
    · generalize (before ops n).obey op = s at answers step now
      cases step with
      | opened =>
        simp only [push, top] at now
        rw [← entry_unique [_] _ now]
        refine h.kept fun _ => not_branchAt after fun op _ given' further => ?_
        cases given.symm.trans given'
        cases further
      | continued onTop _ unfinished =>
        cases top.symm.trans onTop
        rw [← entry_unique [] _ now]
        exact h.continued innermost given unfinished answers
      | finished onTop =>
        cases top.symm.trans onTop
        rw [← entry_unique [] _ now]
        exact h.finished innermost given answers
      | closed onTop =>
        cases top.symm.trans onTop
        have height := congrArg List.length now
        simp only [List.length_append, List.length_cons] at height
        omega
    · rw [unmoved ((before_succ given).trans same)]
      refine h.kept fun _ => not_branchAt after fun op _ given' _ _ answers => ?_
      cases given.symm.trans given'
      cases fails.symm.trans answers

/-- A chain that is on top recalls its branches. -/
theorem recalls_onTop (h : OnTop (chainsAt ops) m n) :
    ∃ chain, chainsAt ops n = chain :: chainsAt ops m ∧ Recalls ops m n chain := by
  have known : ∃ above chain, chainsAt ops n = above ++ chain :: chainsAt ops m ∧
      Recalls ops m n chain :=
    h.1.induction (turns ops) (fun _ => recalls_pushed)
      (fun _ _ stands under recalled => recalled.kept fun _ =>
        not_branchAt (Nat.ne_of_lt stands.lt) fun _ _ _ _ innermost => absurd innermost under)
      fun _ _ _ _ => recalls_turned
  obtain ⟨above, chain, top, recalled⟩ := known
  obtain rfl := h.above_eq_nil top
  exact ⟨chain, top, recalled⟩

/-! ## Branches -/

/-- What is known of a further branch that begins. -/
theorem BranchAt.recalls (h : BranchAt ops m n taken) (after : m ≠ n) :
    ∃ chain, Recalls ops m n chain ∧ chain.branch ≠ .otherwise ∧
      (Chain.pending chain = false → taken = false) ∧
      (LastAt ops m n → taken = Chain.pending chain) := by
  obtain ⟨op, given, further, innermost, answers⟩ := h.later after
  obtain ⟨chain, top, recalled⟩ := recalls_onTop innermost
  obtain ⟨s, step, -, rfl⟩ := answer_eq_ok answers
  refine ⟨chain, recalled, ?_⟩
  rw [chainsAt] at top
  cases step with
  | opened | closed => cases further
  | continued onTop _ unfinished _ unneeded =>
    cases top.symm.trans onTop
    refine ⟨unfinished, fun un => by simp [onTaken, unneeded un], ?_⟩
    rintro ⟨_, _, given', -⟩
    cases given.symm.trans given'
  | finished onTop _ unfinished =>
    cases top.symm.trans onTop
    exact ⟨unfinished, fun un => by simp [onTaken, un], fun _ => by simp [onTaken]⟩

theorem BranchAt.not_again (h : BranchAt ops m k true) (later : k < n)
    (again : BranchAt ops m n taken) : taken = false := by
  have after := Nat.lt_of_le_of_lt h.le later
  obtain ⟨chain, recalled, -, dead, -⟩ := again.recalls (Nat.ne_of_lt after)
  have satisfied : chain.satisfied = true := recalled.satisfied.mpr (.inl ⟨k, later, h⟩)
  exact dead (by simp [Chain.pending, satisfied])

theorem LastAt.after (h : LastAt ops m n) : m ≠ n := by
  rintro rfl
  obtain ⟨floor, taken, given, begins⟩ := h
  cases begins with
  | first given' => cases given.symm.trans given'
  | further _ _ innermost => exact absurd innermost.lt (Nat.lt_irrefl m)

/-- If no branch before the last one was taken, and the chain stands in live text, the last one
is. -/
theorem LastAt.complete (h : LastAt ops m n) (live : (before ops m).isActive = true) :
    ∃ k ≤ n, BranchAt ops m k true := by
  obtain ⟨floor, taken, given, begins⟩ := h
  obtain ⟨chain, recalled, unfinished, -, last⟩ :=
    begins.recalls (LastAt.after ⟨floor, taken, given, begins⟩)
  cases satisfied : chain.satisfied with
  | true =>
    rcases recalled.satisfied.mp satisfied with ⟨k, hk, earlier⟩ | finished
    · exact ⟨k, Nat.le_of_lt hk, earlier⟩
    · exact absurd finished unfinished
  | false =>
    have needed : taken = true := by
      rw [last ⟨floor, taken, given, begins⟩]
      simp [Chain.pending, satisfied, recalled.parent, live]
    exact ⟨n, Nat.le_refl n, needed ▸ begins⟩

/-- A chain that is on its last branch cannot be continued. -/
theorem LastAt.terminal (h : LastAt ops m k) (later : k < n) (innermost : OnTop (chainsAt ops) m n)
    (further : op.isFurther = true) : ∃ fault, (before ops n).apply op = .error fault := by
  obtain ⟨chain, top, recalled⟩ := recalls_onTop innermost
  have finished : chain.branch = .otherwise := recalled.last.mpr ⟨k, later, h⟩
  rw [chainsAt] at top
  cases applied : (before ops n).apply op with
  | error fault => exact ⟨fault, rfl⟩
  | ok s =>
    cases step_of_apply applied with
    | opened | closed => cases further
    | continued onTop _ unfinished | finished onTop _ unfinished =>
      cases top.symm.trans onTop
      exact absurd finished unfinished

/-- The condition of a further branch is consulted where it matters. -/
theorem consults_elseIf_iff {floor : Nat} {expression : Text} {condition : Except Fault Bool} :
    (before ops n).Consults (.elseIf floor expression condition) ↔
      ∃ m, OnTop (chainsAt ops) m n ∧ floor ≤ (chainsAt ops m).length ∧
        (before ops m).isActive = true ∧ ∀ k < n, ¬ BranchAt ops m k true ∧ ¬ LastAt ops m k := by
  rw [consults_elseIf]
  constructor
  · rintro ⟨chain, rest, top, own, unfinished, needed⟩
    obtain ⟨m, innermost⟩ := exists_onTop (turns ops) rfl top
    obtain ⟨chain', top', recalled⟩ := recalls_onTop innermost
    cases top.symm.trans top'
    obtain ⟨parent, unsatisfied⟩ := Bool.and_eq_true_iff.mp needed
    refine ⟨m, innermost, own, recalled.parent ▸ parent, fun k hk =>
      ⟨fun begins => ?_, fun last => ?_⟩⟩
    · simp [recalled.satisfied.mpr (.inl ⟨k, hk, begins⟩)] at unsatisfied
    · exact unfinished (recalled.last.mpr ⟨k, hk, last⟩)
  · rintro ⟨m, innermost, own, live, none⟩
    obtain ⟨chain, top, recalled⟩ := recalls_onTop innermost
    have unfinished : chain.branch ≠ .otherwise := fun finished => by
      obtain ⟨k, hk, last⟩ := recalled.last.mp finished
      exact (none k hk).2 last
    have unsatisfied : chain.satisfied = false := by
      by_contra satisfied
      rcases recalled.satisfied.mp (by simpa using satisfied) with ⟨k, hk, begins⟩ | finished
      · exact (none k hk).1 begins
      · exact unfinished finished
    exact ⟨chain, _, top, own, unfinished,
      by simp [Chain.pending, recalled.parent, live, unsatisfied]⟩

theorem BranchAt.unique {k' : Nat} (h : BranchAt ops m k true) (h' : BranchAt ops m k' true) :
    k = k' := by
  rcases Nat.lt_trichotomy k k' with earlier | same | later
  · cases h.not_again earlier h'
  · exact same
  · cases h'.not_again later h

end

/-- What holds of a stack of chains at all times, whatever it is told to do. -/
structure Lawful (ops : List Operation) : Prop where
  /-- Each chain knows whether the text around it is live, and is on a taken branch only there. -/
  coherent (n : Nat) : (before ops n).Coherent
  /-- Text is live if the innermost chain is on a taken branch. -/
  gate (n : Nat) : (before ops n).isActive =
    ((before ops n).chains.head?.map Chain.taken).getD true
  /-- At most one branch of a chain is taken. -/
  once (m k k' : Nat) : BranchAt ops m k true → BranchAt ops m k' true → k = k'
  /-- In live text, exactly one is taken if the last branch is reached. -/
  complete (m n : Nat) : LastAt ops m n → (before ops m).isActive = true →
    ∃! k, BranchAt ops m k true
  /-- No branch follows the last one. -/
  terminal (m k n : Nat) (op : Operation) : LastAt ops m k → k < n → OnTop (chainsAt ops) m n →
    ops[n]? = some op → op.isFurther = true → ∃ fault, (before ops n).apply op = .error fault
  /-- The condition of a first branch is consulted in live text only. -/
  first (n : Nat) (expression : Option Text) (condition : Except Fault Bool) :
    ops[n]? = some (.opens expression condition) →
      ((before ops n).Consults (.opens expression condition) ↔ (before ops n).isActive = true)
  /-- That of a further branch is consulted only if the chain stands in live text and has had no
  taken branch. -/
  further (n floor : Nat) (expression : Text) (condition : Except Fault Bool) :
    ops[n]? = some (.elseIf floor expression condition) →
      ((before ops n).Consults (.elseIf floor expression condition) ↔
        ∃ m, OnTop (chainsAt ops) m n ∧ floor ≤ (chainsAt ops m).length ∧
          (before ops m).isActive = true ∧
          ∀ k < n, ¬ BranchAt ops m k true ∧ ¬ LastAt ops m k)
  /-- A condition that is consulted decides whether the branch is taken, and may fail. -/
  decides (n : Nat) (op : Operation) (condition : Except Fault Bool) : ops[n]? = some op →
    op.condition? = some condition → (before ops n).Consults op →
      (before ops n).answer op = condition
  /-- An operation that fails changes nothing. -/
  fails (n : Nat) (op : Operation) (fault : Fault) : ops[n]? = some op →
    (before ops n).apply op = .error fault → before ops (n + 1) = before ops n
  /-- An operation does not change the chains below its floor, counted from the outermost one. -/
  shelters (n : Nat) (op : Operation) (i : Nat) (chain : Chain) : ops[n]? = some op →
    (∀ floor, op.floor? = some floor → i < floor) →
      (chainsAt ops n).reverse[i]? = some chain → (chainsAt ops (n + 1)).reverse[i]? = some chain

/-- Whatever a stack of chains is told to do, and whatever comes of the conditions, it stays lawful:
its chains know what is live, each has at most one branch that is taken and no branch after the last
one, and conditions are consulted only where they matter. -/
theorem chains_lawful (ops : List Operation) : Lawful ops where
  coherent := coherent_before ops
  gate n := (coherent_before ops n).isActive_eq
  once _ _ _ := BranchAt.unique
  complete m n last live := by
    obtain ⟨k, -, begins⟩ := last.complete live
    exact ⟨k, begins, fun k' begins' => begins'.unique begins⟩
  terminal _ _ _ _ last later innermost _ := last.terminal later innermost
  first _ _ _ _ := consults_opens
  further _ _ _ _ _ := consults_elseIf_iff
  decides n op condition _ given consults := by
    cases op with
    | opens =>
      cases given
      exact answer_opens (consults_opens.mp consults)
    | elseIf =>
      cases given
      obtain ⟨chain, rest, top, own, unfinished, needed⟩ := consults_elseIf.mp consults
      exact answer_elseIf top own unfinished needed
    | otherwise | close => cases given
  fails n op fault given failed := by
    rw [before_succ given, obey_of_error failed]
  shelters n op i chain given low here := by
    rw [chainsAt, before_succ given]
    rcases obey_eq (before ops n) op with ⟨-, step⟩ | ⟨-, same⟩
    · exact (step.shelters fun floor own => low floor own).getElem? here
    · rw [same]
      exact here

/-- A condition that would fail does no harm after a branch that is taken. -/
example : BranchAt [.opens none (.ok true), .elseIf 0 ['x'] (.error (.badCondition "")),
    .otherwise 0] 0 1 false :=
  .further rfl rfl (by decide) rfl

end ConditionalStack

end LineTemplate
