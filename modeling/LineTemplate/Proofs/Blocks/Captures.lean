import LineTemplate.Proofs.Blocks.Stacks
import LineTemplate.Proofs.Lines.Role

/-!
# The stack of captured blocks

What becomes of blocks whose bodies are captured, whatever blocks are started and whatever lines are
read. A block is known by the time at which it was started, and the lines that go to it are those
that are read while it is on top (`fedTo`). It is completed by the first of them at which more
directives of its own kind have closed a block than have opened one, and its body are the lines
before that one.
-/

namespace LineTemplate

theorem bind_opens?_ne_of_closes? {kind : Option Directive} {block : BlockKind}
    (closes : kind.bind Directive.closes? = some block) :
    kind.bind Directive.opens? ≠ some block := by
  obtain ⟨d, rfl, hc⟩ := Option.bind_eq_some_iff.mp closes
  intro opens
  have closed := Directive.closes?_eq_some_iff.mp hc
  have opened := Directive.opens?_eq_some_iff.mp (show d.opens? = some block from opens)
  cases closed.symm.trans opened

namespace CaptureStack

/-- What happens to a stack of captured blocks: a block is started, or a line is read that may hold
a directive. -/
inductive Operation where
  | start (head : CaptureHead) (active : Bool) (openedAt : Location)
  | feed (line : Line) (kind : Option Directive)

/-- A line and the directive that it holds, if it holds one. -/
abbrev Fed := Line × Option Directive

def Operation.fed? : Operation → Option Fed
  | start .. => none
  | feed line kind => some (line, kind)

def obey (s : CaptureStack) : Operation → CaptureStack
  | .start head active openedAt => s.push { head, active, openedAt }
  | .feed line kind => (s.feed line kind).2

/-- The blocks when the operation with a number comes, none of which was captured at first. -/
def before (ops : List Operation) (n : Nat) : CaptureStack :=
  stateAt obey {} ops n

def capturesAt (ops : List Operation) (n : Nat) : List Capture :=
  (before ops n).captures

/-- The lines that were read before time `n` while the block was on top that was started at time
`m`. -/
def fedTo (ops : List Operation) (m n : Nat) : List Fed :=
  (List.range n).filterMap fun k =>
    if OnTop (capturesAt ops) m k then ops[k]?.bind Operation.fed? else none

def openers (block : BlockKind) (lines : List Fed) : Nat :=
  lines.countP fun fed => fed.2.bind Directive.opens? = some block

def closers (block : BlockKind) (lines : List Fed) : Nat :=
  lines.countP fun fed => fed.2.bind Directive.closes? = some block

/-- More blocks of a kind are closed in some lines than are opened there. -/
def Outnumbered (block : BlockKind) (lines : List Fed) : Prop :=
  openers block lines < closers block lines

/-- At time `n` the line is read that completes the block that was started at time `m`. -/
def CompletesAt (ops : List Operation) (m n : Nat) (c : Capture) : Prop :=
  OnTop (capturesAt ops) m n ∧ ∃ line kind, ops[n]? = some (.feed line kind) ∧
    ((before ops n).feed line kind).1 = some c

section

variable {ops : List Operation} {m n : Nat} {op : Operation} {c : Capture} {rest : List Capture}
  {s : CaptureStack} {line : Line} {kind : Option Directive} {head : CaptureHead} {active : Bool}
  {openedAt : Location}

theorem before_succ (given : ops[n]? = some op) :
    before ops (n + 1) = (before ops n).obey op :=
  stateAt_succ given

theorem feed_eq (top : s.captures = c :: rest) : s.feed line kind =
    if c.closedBy kind then (some c, ⟨rest⟩) else (none, ⟨c.add line kind :: rest⟩) := by
  unfold feed
  rw [top]

theorem turn_feed : Turn s.captures (s.feed line kind).2.captures := by
  cases top : s.captures with
  | nil =>
    have same : s.feed line kind = (none, s) := by simp [feed, top]
    rw [same, top]
    exact .kept _
  | cons c rest =>
    rw [feed_eq top]
    split
    · exact .popped c rest
    · exact .replaced c _ rest

theorem length_feed_le : (s.feed line kind).2.captures.length ≤ s.captures.length := by
  cases top : s.captures with
  | nil => simp [feed, top]
  | cons c rest =>
    rw [feed_eq top]
    split <;> simp

theorem turns (ops : List Operation) (n : Nat) :
    Turn (capturesAt ops n) (capturesAt ops (n + 1)) := by
  refine turns_of_obey captures (fun s op => ?_) {} ops n
  cases op with
  | start head active openedAt => exact .pushed _ _
  | feed line kind => exact turn_feed

/-! ## The lines of a block -/

theorem fedTo_succ : fedTo ops m (n + 1) = fedTo ops m n ++
    (if OnTop (capturesAt ops) m n then ops[n]?.bind Operation.fed? else none).toList := by
  rw [fedTo, List.range_succ, List.filterMap_append]
  cases h : if OnTop (capturesAt ops) m n then ops[n]?.bind Operation.fed? else none <;>
    simp [fedTo, h]

theorem fedTo_of_feed (top : OnTop (capturesAt ops) m n)
    (given : ops[n]? = some (.feed line kind)) :
    fedTo ops m (n + 1) = fedTo ops m n ++ [(line, kind)] := by
  rw [fedTo_succ, if_pos top, given]
  rfl

theorem fedTo_of_not_onTop (under : ¬ OnTop (capturesAt ops) m n) :
    fedTo ops m (n + 1) = fedTo ops m n := by
  rw [fedTo_succ, if_neg under, Option.toList_none, List.append_nil]

theorem fedTo_of_unread (unread : ops[n]?.bind Operation.fed? = none) :
    fedTo ops m (n + 1) = fedTo ops m n := by
  rw [fedTo_succ, unread, ite_self, Option.toList_none, List.append_nil]

/-- No line goes to a block before it is started. -/
theorem fedTo_unstarted (before : n ≤ m + 1) : fedTo ops m n = [] := by
  refine List.filterMap_eq_nil_iff.mpr fun k hk => if_neg fun top => ?_
  have after := top.lt
  have early := List.mem_range.mp hk
  omega

theorem openers_concat (block : BlockKind) (lines : List Fed) :
    openers block (lines ++ [(line, kind)]) =
      openers block lines + if kind.bind Directive.opens? = some block then 1 else 0 := by
  simp [openers, List.countP_append, List.countP_singleton]

theorem closers_concat (block : BlockKind) (lines : List Fed) :
    closers block (lines ++ [(line, kind)]) =
      closers block lines + if kind.bind Directive.closes? = some block then 1 else 0 := by
  simp [closers, List.countP_append, List.countP_singleton]

/-- A block that was started like this has some lines as its body. -/
structure Took (head : CaptureHead) (active : Bool) (openedAt : Location) (lines : List Fed)
    (c : Capture) : Prop where
  head : c.head = head
  active : c.active = active
  openedAt : c.openedAt = openedAt
  body : c.body = lines.map Prod.fst

/-- What is known at time `n` of a block that was started at time `m`: it took the lines that went
to it, and it counts the blocks of its kind that are open in them. -/
structure Holds (ops : List Operation) (m n : Nat) (head : CaptureHead) (active : Bool)
    (openedAt : Location) (c : Capture) : Prop
    extends Took head active openedAt (fedTo ops m n) c where
  depth : c.depth + closers c.head.kind (fedTo ops m n) = openers c.head.kind (fedTo ops m n)

namespace Holds

theorem start : Holds ops m (m + 1) head active openedAt { head, active, openedAt } where
  head := rfl
  active := rfl
  openedAt := rfl
  body := by rw [fedTo_unstarted (Nat.le_refl _)]; rfl
  depth := by rw [fedTo_unstarted (Nat.le_refl _)]; rfl

theorem kept (h : Holds ops m n head active openedAt c)
    (same : fedTo ops m (n + 1) = fedTo ops m n) : Holds ops m (n + 1) head active openedAt c := by
  obtain ⟨took, depth⟩ := h
  exact ⟨same ▸ took, same ▸ depth⟩

theorem add (h : Holds ops m n head active openedAt c) (inside : c.closedBy kind = false)
    (fed : fedTo ops m (n + 1) = fedTo ops m n ++ [(line, kind)]) :
    Holds ops m (n + 1) head active openedAt (c.add line kind) where
  head := h.head
  active := h.active
  openedAt := h.openedAt
  body := by rw [Capture.body_add, h.body, fed, List.map_append]; rfl
  depth := by
    have depth := h.depth
    simp only [fed, openers_concat, closers_concat, Capture.add]
    by_cases closes : kind.bind Directive.closes? = some c.head.kind
    · have inner : c.depth ≠ 0 := fun none => by simp [Capture.closedBy, closes, none] at inside
      simp only [closes, bind_opens?_ne_of_closes? closes, ite_true, ite_false]
      omega
    · by_cases opens : kind.bind Directive.opens? = some c.head.kind <;>
        simp only [closes, opens, ite_true, ite_false] <;> omega

/-- The lines that a block took are balanced, as one that makes them otherwise closes it. -/
theorem not_outnumbered (h : Holds ops m n head active openedAt c) :
    ¬ Outnumbered head.kind (fedTo ops m n) := by
  have depth := h.depth
  rw [h.head] at depth
  unfold Outnumbered
  omega

theorem closedBy_iff (h : Holds ops m n head active openedAt c) :
    c.closedBy kind = true ↔ Outnumbered head.kind (fedTo ops m n ++ [(line, kind)]) := by
  have depth := h.depth
  rw [h.head] at depth
  simp only [Outnumbered, openers_concat, closers_concat, Capture.closedBy, h.head,
    Bool.and_eq_true, decide_eq_true_eq]
  by_cases closes : kind.bind Directive.closes? = some head.kind
  · simp only [closes, bind_opens?_ne_of_closes? closes, ite_true, ite_false, true_and]
    omega
  · simp only [closes, ite_false, false_and, false_iff]
    omega

end Holds

/-! ## Blocks over time -/

/-- Only what is started can be on top. -/
theorem started_of_onTop (top : OnTop (capturesAt ops) m n) :
    ∃ head active openedAt, ops[m]? = some (.start head active openedAt) := by
  have higher := (top.1.earlier (Nat.lt_succ_self m) top.lt).higher
  cases given : ops[m]? with
  | none =>
    rw [capturesAt, capturesAt, before, before, stateAt_succ_of_none given] at higher
    exact absurd higher (Nat.lt_irrefl _)
  | some op =>
    cases op with
    | start head active openedAt => exact ⟨head, active, openedAt, rfl⟩
    | feed line kind =>
      rw [capturesAt, capturesAt, before_succ given] at higher
      exact absurd higher (Nat.not_lt_of_le length_feed_le)

theorem holds_started (given : ops[m]? = some (.start head active openedAt))
    (pushed : capturesAt ops (m + 1) = c :: capturesAt ops m) :
    Holds ops m (m + 1) head active openedAt c := by
  rw [capturesAt, before_succ given] at pushed
  obtain rfl := entry_unique [] [] pushed
  exact .start

/-- While a block is on top, it takes what is read, or is closed by it. -/
theorem holds_turned {above : List Capture} {c' : Capture} (top : OnTop (capturesAt ops) m n)
    (now : capturesAt ops n = c :: capturesAt ops m)
    (later : capturesAt ops (n + 1) = above ++ c' :: capturesAt ops m)
    (h : Holds ops m n head active openedAt c) :
    Holds ops m (n + 1) head active openedAt c' := by
  cases given : ops[n]? with
  | none =>
    rw [capturesAt, before, stateAt_succ_of_none given] at later
    obtain rfl := entry_unique [] above (now.symm.trans later)
    exact h.kept (fedTo_of_unread (by rw [given]; rfl))
  | some op =>
    rw [capturesAt, before_succ given] at later
    cases op with
    | start head' active' openedAt' =>
      simp only [obey, push, show (before ops n).captures = _ from now] at later
      obtain rfl := entry_unique [_] above later
      exact h.kept (fedTo_of_unread (by rw [given]; rfl))
    | feed line kind =>
      rw [obey, feed_eq now] at later
      cases closes : c.closedBy kind with
      | true =>
        have height := congrArg List.length later
        simp only [closes, if_true, List.length_append, List.length_cons] at height
        omega
      | false =>
        simp only [closes, Bool.false_eq_true, if_false] at later
        obtain rfl := entry_unique [] above later
        exact h.add closes (fedTo_of_feed top given)

theorem holds_stands (given : ops[m]? = some (.start head active openedAt))
    (stands : Stands (capturesAt ops) m n) :
    ∃ above c, capturesAt ops n = above ++ c :: capturesAt ops m ∧
      Holds ops m n head active openedAt c :=
  stands.induction (turns ops) (fun _ => holds_started given)
    (fun _ _ _ under held => held.kept (fedTo_of_not_onTop under))
    fun _ _ _ _ => holds_turned

theorem holds_onTop (given : ops[m]? = some (.start head active openedAt))
    (top : OnTop (capturesAt ops) m n) :
    ∃ c, capturesAt ops n = c :: capturesAt ops m ∧ Holds ops m n head active openedAt c := by
  obtain ⟨above, c, now, held⟩ := holds_stands given top.1
  obtain rfl := top.above_eq_nil now
  exact ⟨c, now, held⟩

theorem completesAt_iff (top : OnTop (capturesAt ops) m n)
    (now : capturesAt ops n = c :: capturesAt ops m) (given : ops[n]? = some (.feed line kind))
    {done : Capture} : CompletesAt ops m n done ↔ c.closedBy kind = true ∧ done = c := by
  have fed : (before ops n).feed line kind = _ := feed_eq now
  constructor
  · rintro ⟨-, line', kind', given', completed⟩
    cases given.symm.trans given'
    rw [fed] at completed
    split at completed
    · rename_i closes
      exact ⟨closes, (Option.some.inj completed).symm⟩
    · cases completed
  · rintro ⟨closes, rfl⟩
    exact ⟨top, line, kind, given, by rw [fed, if_pos closes]⟩

namespace CompletesAt

/-- A block is completed by a line that is read while the block is on top. -/
theorem closes (h : CompletesAt ops m n c) : capturesAt ops n = c :: capturesAt ops m ∧
    ∃ line kind, ops[n]? = some (.feed line kind) ∧ c.closedBy kind = true := by
  obtain ⟨top, line, kind, given, -⟩ := id h
  obtain ⟨head, active, openedAt, started⟩ := started_of_onTop top
  obtain ⟨c', now, -⟩ := holds_onTop started top
  obtain ⟨closes, rfl⟩ := (completesAt_iff top now given).mp h
  exact ⟨now, line, kind, given, closes⟩

/-- A block that is completed leaves the others as they were when it was started. -/
theorem before_eq (h : CompletesAt ops m n c) : before ops (n + 1) = before ops m := by
  obtain ⟨now, line, kind, given, closes⟩ := h.closes
  rw [before_succ given, obey, feed_eq now, if_pos closes]
  rfl

/-- While a block is captured, no line goes to the one around it. -/
theorem fedTo_outer {k : Nat} (h : CompletesAt ops m n c) (outer : OnTop (capturesAt ops) k m) :
    fedTo ops k (n + 1) = fedTo ops k m := by
  obtain ⟨head, active, openedAt, started⟩ := started_of_onTop h.1
  have covered : ∀ l, m + 1 ≤ l → l ≤ n + 1 → fedTo ops k l = fedTo ops k m := by
    intro l after
    induction after with
    | refl => exact fun _ => fedTo_of_unread (by rw [started]; rfl)
    | @step l after ih =>
      intro early
      have height := h.1.1.2 l (Nat.le_of_succ_le_succ early) after
      have under : ¬ OnTop (capturesAt ops) k l := fun top => by
        have := outer.2
        have := top.2
        omega
      rw [fedTo_of_not_onTop under, ih (Nat.le_of_succ_le early)]
  exact covered (n + 1) (Nat.succ_le_succ (Nat.le_of_lt h.1.lt)) (Nat.le_refl _)

end CompletesAt

end

/-- What holds of captured blocks at all times, whatever is started and read. -/
structure Matching (ops : List Operation) : Prop where
  /-- While a block is on top, it has taken the lines that went to it, in order, and lies on the
  blocks that were there when it was started. -/
  takes (m n : Nat) (head : CaptureHead) (active : Bool) (openedAt : Location) :
    ops[m]? = some (.start head active openedAt) → OnTop (capturesAt ops) m n →
      ∃ c, capturesAt ops n = c :: capturesAt ops m ∧
        Took head active openedAt (fedTo ops m n) c
  /-- A line completes it if directives of its kind then have closed more blocks than they have
  opened. -/
  completes (m n : Nat) (head : CaptureHead) (active : Bool) (openedAt : Location) (line : Line)
      (kind : Option Directive) :
    ops[m]? = some (.start head active openedAt) → OnTop (capturesAt ops) m n →
      ops[n]? = some (.feed line kind) →
        ((∃ c, CompletesAt ops m n c) ↔ Outnumbered head.kind (fedTo ops m (n + 1)))
  /-- No line before did. -/
  first (m n k : Nat) (head : CaptureHead) (active : Bool) (openedAt : Location) :
    ops[m]? = some (.start head active openedAt) → OnTop (capturesAt ops) m n → k ≤ n →
      ¬ Outnumbered head.kind (fedTo ops m k)
  /-- What is completed is as it was started, and has the lines before as its body. -/
  result (m n : Nat) (head : CaptureHead) (active : Bool) (openedAt : Location) (c : Capture) :
    ops[m]? = some (.start head active openedAt) → CompletesAt ops m n c →
      Took head active openedAt (fedTo ops m n) c
  /-- What a line completes is a block that was started, and only one. -/
  started (n : Nat) (line : Line) (kind : Option Directive) (c : Capture) :
    ops[n]? = some (.feed line kind) → ((before ops n).feed line kind).1 = some c →
      ∃ m head active openedAt, ops[m]? = some (.start head active openedAt) ∧
        CompletesAt ops m n c ∧ ∀ m' c', CompletesAt ops m' n c' → m' = m
  /-- A line that is read leaves all blocks alone but the one on top. -/
  shelters (n : Nat) (line : Line) (kind : Option Directive) (top : Capture)
      (below : List Capture) :
    ops[n]? = some (.feed line kind) → capturesAt ops n = top :: below →
      capturesAt ops (n + 1) = below ∨ ∃ top', capturesAt ops (n + 1) = top' :: below
  /-- After a block is completed, the next line goes to the block around it. -/
  resumes (k m n : Nat) (c : Capture) : CompletesAt ops m n c → OnTop (capturesAt ops) k m →
    capturesAt ops (n + 1) = capturesAt ops m ∧ OnTop (capturesAt ops) k (n + 1) ∧
      ∀ line kind, ops[n + 1]? = some (.feed line kind) →
        fedTo ops k (n + 2) = fedTo ops k m ++ [(line, kind)]

/-- Whatever blocks are started and whatever lines are read, each block takes the lines up to the
directive that matches its own. -/
theorem captures_matching (ops : List Operation) : Matching ops where
  takes m n head active openedAt started top := by
    obtain ⟨c, now, held⟩ := holds_onTop started top
    exact ⟨c, now, held.toTook⟩
  completes m n head active openedAt line kind started top given := by
    obtain ⟨c, now, held⟩ := holds_onTop started top
    rw [fedTo_of_feed top given, ← held.closedBy_iff]
    simp only [completesAt_iff top now given]
    exact ⟨fun ⟨_, closes, _⟩ => closes, fun closes => ⟨c, closes, rfl⟩⟩
  first m n k head active openedAt started top early := by
    rcases Nat.lt_or_ge m k with after | before
    · obtain ⟨_, _, -, held⟩ := holds_stands started (top.1.earlier after early)
      exact held.not_outnumbered
    · rw [fedTo_unstarted (Nat.le_succ_of_le before)]
      exact Nat.lt_irrefl 0
  result m n head active openedAt c started completed := by
    obtain ⟨c', now, held⟩ := holds_onTop started completed.1
    cases now.symm.trans completed.closes.1
    exact held.toTook
  started n line kind c given completed := by
    cases hs : (before ops n).captures with
    | nil => simp [feed, hs] at completed
    | cons top below =>
      obtain ⟨m, onTop⟩ := exists_onTop (turns ops) rfl hs
      obtain ⟨head, active, openedAt, started⟩ := started_of_onTop onTop
      exact ⟨m, head, active, openedAt, started, ⟨onTop, line, kind, given, completed⟩,
        fun _ _ other => other.1.unique onTop⟩
  shelters n line kind top below given now := by
    rw [capturesAt, before_succ given, obey, feed_eq now]
    split
    · exact .inl rfl
    · exact .inr ⟨_, rfl⟩
  resumes k m n c completed outer := by
    have gone : capturesAt ops (n + 1) = capturesAt ops m := congrArg captures completed.before_eq
    have resumed := outer.resume completed.1.1 gone
    refine ⟨gone, resumed, fun line kind given => ?_⟩
    rw [fedTo_of_feed resumed given, completed.fedTo_outer outer]

/-- The end of a loop is an ordinary line of a macro definition. -/
example : CompletesAt
    [.start (.macroBody ['m'] []) true ⟨['t'], 1⟩,
      .feed ⟨"_END_LOOP".toList, ⟨['t'], 2⟩⟩ (some .endLoop),
      .feed ⟨"_END_MACRO".toList, ⟨['t'], 3⟩⟩ (some .endMacro)]
    0 2 ⟨.macroBody ['m'] [], true, ⟨['t'], 1⟩, [⟨"_END_LOOP".toList, ⟨['t'], 2⟩⟩], 0⟩ :=
  ⟨by decide, _, _, rfl, rfl⟩

end CaptureStack

end LineTemplate
