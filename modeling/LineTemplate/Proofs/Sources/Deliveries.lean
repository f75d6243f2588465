import LineTemplate.Proofs.Blocks.Rendered
import LineTemplate.Proofs.Blocks.Stacks
import LineTemplate.Proofs.Sources.Files

/-!
# The lines that a stack of files delivers

What becomes of files that are started, read and ended in any order. A frame is known by the time at
which it was put on the stack, and the lines delivered from it are those that are delivered while it
is on top (`deliveredFrom`). They are the first lines of its source, numbered from 1, and the frame
counts them, whatever happens above it in the meantime (`frames_supplied`).

Main statement: `deliveries_disciplined`.
-/

namespace LineTemplate

/-- Lines of a file with their numbers, from 1 on. -/
def numberedLines (path : Text) (texts : List Text) : List Line :=
  texts.mapIdx fun i text => ⟨text, ⟨path, i + 1⟩⟩

theorem length_numberedLines (path : Text) (texts : List Text) :
    (numberedLines path texts).length = texts.length :=
  List.length_mapIdx

theorem numberedLines_concat (path : Text) (texts : List Text) (text : Text) :
    numberedLines path (texts ++ [text]) =
      numberedLines path texts ++ [⟨text, ⟨path, texts.length + 1⟩⟩] :=
  List.mapIdx_concat

theorem prefix_numberedLines_append {path : Text} {texts more : List Text} :
    numberedLines path texts <+: numberedLines path (texts ++ more) := by
  rw [numberedLines, numberedLines, List.mapIdx_append]
  exact List.prefix_append ..

namespace FileFrame

/-- What a frame supplies next, and what it is afterwards. -/
def supply (frame : FileFrame) : Option (Except Fault Line) × FileFrame :=
  match frame.unread with
  | [] => (none, frame)
  | .ok text :: unread =>
    (some (.ok ⟨text, ⟨frame.path, frame.lineNumber + 1⟩⟩),
      { frame with unread, lineNumber := frame.lineNumber + 1 })
  | .error cause :: unread => (some (.error (.unreadable frame.path cause)), { frame with unread })

/-- A frame of a source from which some lines were delivered. -/
structure Supplied (path : Text) (source : Source) (lines : List Line) (frame : FileFrame) :
    Prop where
  named : frame.path = path
  /-- The lines are those of the part of the source that is no longer unread. -/
  delivered : ∃ front, source = front ++ frame.unread ∧
    lines = numberedLines path (Source.texts front)
  lineNumber : frame.lineNumber = lines.length

end FileFrame

/-- The line in an answer, if there is one. -/
def lineIn : Option (Except Fault Line) → Option Line
  | some (.ok line) => some line
  | _ => none

namespace FileFrame

variable {path : Text} {source : Source} {lines : List Line} {frame : FileFrame}

theorem supply_path (frame : FileFrame) : frame.supply.2.path = frame.path := by
  unfold supply
  split <;> rfl

namespace Supplied

theorem start (path : Text) (source : Source) :
    Supplied path source [] { path, unread := source } :=
  ⟨rfl, ⟨[], rfl, rfl⟩, rfl⟩

theorem prefix_numberedLines (h : Supplied path source lines frame) :
    lines <+: numberedLines path source.texts := by
  obtain ⟨front, rfl, rfl⟩ := h.delivered
  rw [Source.texts, Source.texts, List.filterMap_append]
  exact prefix_numberedLines_append

/-- What is supplied next comes right after the lines before, with the next number. -/
theorem supply (h : Supplied path source lines frame) :
    Supplied path source (lines ++ (lineIn frame.supply.1).toList) frame.supply.2 := by
  obtain ⟨same, ⟨front, split, delivered⟩, count⟩ := h
  unfold FileFrame.supply
  cases unread : frame.unread with
  | nil =>
    dsimp only [lineIn, Option.toList_none]
    rw [List.append_nil]
    exact ⟨same, ⟨front, split, delivered⟩, count⟩
  | cons reply rest =>
    have further : source = (front ++ [reply]) ++ rest := by
      rw [split, unread, List.append_assoc, List.singleton_append]
    cases reply with
    | error cause =>
      dsimp only [lineIn, Option.toList_none]
      rw [List.append_nil]
      have texts : Source.texts (front ++ [.error cause]) = Source.texts front := by
        simp [Source.texts, Except.toOption]
      exact ⟨same, ⟨_, further, by rw [texts, delivered]⟩, count⟩
    | ok text =>
      dsimp only [lineIn, Option.toList_some]
      have texts : Source.texts (front ++ [.ok text]) = Source.texts front ++ [text] := by
        simp [Source.texts, Except.toOption]
      have number : frame.lineNumber = (Source.texts front).length := by
        rw [count, delivered, length_numberedLines]
      refine ⟨same, ⟨_, further, ?_⟩, ?_⟩
      · rw [texts, numberedLines_concat, delivered, same, number]
      · rw [count, List.length_append, List.length_singleton]

/-- A frame that supplies nothing more has delivered all lines of its source. -/
theorem complete (h : Supplied path source lines frame) (atEnd : frame.supply.1 = none) :
    lines = numberedLines path source.texts := by
  obtain ⟨front, split, delivered⟩ := h.delivered
  unfold FileFrame.supply at atEnd
  split at atEnd
  · rename_i unread
    rw [delivered, split, unread, List.append_nil]
  · cases atEnd
  · cases atEnd

end Supplied

end FileFrame

namespace FileStack

/-- What happens to a stack of files: a file is started, a line is asked for, or the innermost file
is ended. -/
inductive Operation where
  | push (path : Text) (source : Source)
  | next
  | pop

/-- A stack that refuses an operation stays as it is. -/
def obey (s : FileStack) : Operation → FileStack
  | .push path source => (s.push? path source).toOption.getD s
  | .next => s.next.2
  | .pop => (s.pop?.map (·.2)).getD s

/-- The stack when the operation with a number comes, which was empty at first. -/
def before (ops : List Operation) (n : Nat) : FileStack :=
  stateAt obey {} ops n

def framesAt (ops : List Operation) (n : Nat) : List FileFrame :=
  (before ops n).frames

def pathsAt (ops : List Operation) (n : Nat) : List Text :=
  (framesAt ops n).map FileFrame.path

/-- The line that the operation with a number delivers, if it delivers one. -/
def delivered? (ops : List Operation) (n : Nat) : Option Line :=
  match ops[n]? with
  | some .next => lineIn (before ops n).next.1
  | _ => none

/-- The lines that were delivered before time `n` while the frame was on top that was put there at
time `m`. -/
def deliveredFrom (ops : List Operation) (m n : Nat) : List Line :=
  (List.range n).filterMap fun k => if OnTop (framesAt ops) m k then delivered? ops k else none

section

variable {ops : List Operation} {m n : Nat} {op : Operation} {path : Text} {source : Source}
  {frame : FileFrame} {rest : List FileFrame} {s : FileStack}

/-! ## One operation -/

theorem push?_of_mem (here : path ∈ s.frames.map FileFrame.path) (source : Source) :
    s.push? path source = .error (.circularInclude path s.chain) :=
  if_pos ((contains_iff s path).mpr here)

theorem push?_of_notMem (new : path ∉ s.frames.map FileFrame.path) (source : Source) :
    s.push? path source = .ok ⟨{ path, unread := source } :: s.frames⟩ :=
  if_neg (mt (contains_iff s path).mp new)

theorem next_of_top (top : s.frames = frame :: rest) :
    s.next = (frame.supply.1, ⟨frame.supply.2 :: rest⟩) := by
  obtain ⟨frames⟩ := s
  cases top
  unfold next FileFrame.supply
  dsimp only
  cases unread : frame.unread with
  | nil => rfl
  | cons reply others => cases reply <;> rfl

theorem obey_refused (here : path ∈ s.frames.map FileFrame.path) :
    s.obey (.push path source) = s := by
  rw [obey, push?_of_mem here]
  rfl

theorem obey_accepted (new : path ∉ s.frames.map FileFrame.path) :
    s.obey (.push path source) = ⟨{ path, unread := source } :: s.frames⟩ := by
  rw [obey, push?_of_notMem new]
  rfl

theorem obey_next (top : s.frames = frame :: rest) :
    s.obey .next = ⟨frame.supply.2 :: rest⟩ := by
  rw [obey, next_of_top top]

theorem pop?_of_top (top : s.frames = frame :: rest) : s.pop? = some (frame, ⟨rest⟩) := by
  rw [pop?, top]

theorem obey_pop (top : s.frames = frame :: rest) : s.obey .pop = ⟨rest⟩ := by
  rw [obey, pop?_of_top top]
  rfl

/-- An empty stack supplies nothing and gives nothing back. -/
theorem obey_empty (empty : s.frames = []) : s.obey .next = s ∧ s.obey .pop = s := by
  obtain ⟨frames⟩ := s
  cases empty
  exact ⟨rfl, rfl⟩

/-- What an operation does to a stack. -/
inductive Step (s : FileStack) : Operation → FileStack → Prop where
  | refused {path : Text} {source : Source} (here : path ∈ s.frames.map FileFrame.path) :
    Step s (.push path source) s
  | started {path : Text} {source : Source} (new : path ∉ s.frames.map FileFrame.path) :
    Step s (.push path source) ⟨{ path, unread := source } :: s.frames⟩
  | supplied {frame : FileFrame} {rest : List FileFrame} (top : s.frames = frame :: rest) :
    Step s .next ⟨frame.supply.2 :: rest⟩
  | ended {frame : FileFrame} {rest : List FileFrame} (top : s.frames = frame :: rest) :
    Step s .pop ⟨rest⟩
  | idle {op : Operation} (empty : s.frames = []) : Step s op s

theorem step_obey (s : FileStack) (op : Operation) : Step s op (s.obey op) := by
  cases op with
  | push path source =>
    by_cases here : path ∈ s.frames.map FileFrame.path
    · rw [obey_refused here]
      exact .refused here
    · rw [obey_accepted here]
      exact .started here
  | next =>
    cases top : s.frames with
    | nil =>
      rw [(obey_empty top).1]
      exact .idle top
    | cons frame rest =>
      rw [obey_next top]
      exact .supplied top
  | pop =>
    cases top : s.frames with
    | nil =>
      rw [(obey_empty top).2]
      exact .idle top
    | cons frame rest =>
      rw [obey_pop top]
      exact .ended top

namespace Step

variable {s' : FileStack}

theorem turn (h : Step s op s') : Turn s.frames s'.frames := by
  cases h with
  | refused | idle => exact .kept _
  | started => exact .pushed _ _
  | supplied top =>
    rw [top]
    exact .replaced ..
  | ended top =>
    rw [top]
    exact .popped ..

theorem nodup (h : Step s op s') (distinct : (s.frames.map FileFrame.path).Nodup) :
    (s'.frames.map FileFrame.path).Nodup := by
  cases h with
  | refused | idle => exact distinct
  | started new => exact List.nodup_cons.mpr ⟨new, distinct⟩
  | supplied top =>
    rw [top] at distinct
    rw [List.map_cons, FileFrame.supply_path]
    exact distinct
  | ended top =>
    rw [top] at distinct
    exact (List.nodup_cons.mp distinct).2

/-- Only a file that is started makes the stack higher. -/
theorem pushed (h : Step s op s') (higher : s.frames.length < s'.frames.length) :
    ∃ path source, op = .push path source ∧
      s'.frames = { path, unread := source } :: s.frames := by
  cases h with
  | refused | idle => exact absurd higher (Nat.lt_irrefl _)
  | started => exact ⟨_, _, rfl, rfl⟩
  | supplied top =>
    rw [top] at higher
    exact absurd higher (Nat.lt_irrefl _)
  | ended top =>
    rw [top] at higher
    exact absurd higher (Nat.not_lt_of_le (Nat.le_succ _))

end Step

/-! ## The lines of a frame -/

theorem before_succ (given : ops[n]? = some op) : before ops (n + 1) = (before ops n).obey op :=
  stateAt_succ given

theorem turns (ops : List Operation) (n : Nat) :
    Turn (framesAt ops n) (framesAt ops (n + 1)) :=
  turns_of_obey frames (fun s op => (step_obey s op).turn) {} ops n

theorem deliveredFrom_succ : deliveredFrom ops m (n + 1) = deliveredFrom ops m n ++
    (if OnTop (framesAt ops) m n then delivered? ops n else none).toList := by
  rw [deliveredFrom, List.range_succ, List.filterMap_append]
  cases h : if OnTop (framesAt ops) m n then delivered? ops n else none <;>
    simp [deliveredFrom, h]

theorem deliveredFrom_of_onTop (top : OnTop (framesAt ops) m n) :
    deliveredFrom ops m (n + 1) = deliveredFrom ops m n ++ (delivered? ops n).toList := by
  rw [deliveredFrom_succ, if_pos top]

theorem deliveredFrom_of_not_onTop (under : ¬ OnTop (framesAt ops) m n) :
    deliveredFrom ops m (n + 1) = deliveredFrom ops m n := by
  rw [deliveredFrom_succ, if_neg under, Option.toList_none, List.append_nil]

theorem deliveredFrom_of_none (top : OnTop (framesAt ops) m n) (none : delivered? ops n = none) :
    deliveredFrom ops m (n + 1) = deliveredFrom ops m n := by
  rw [deliveredFrom_of_onTop top, none, Option.toList_none, List.append_nil]

/-- No line is delivered from a frame before it is put on the stack. -/
theorem deliveredFrom_start : deliveredFrom ops m (m + 1) = [] := by
  refine List.filterMap_eq_nil_iff.mpr fun k hk => if_neg fun top => ?_
  have after := top.lt
  have early := List.mem_range.mp hk
  omega

theorem delivered?_of_next (given : ops[n]? = some .next) (now : framesAt ops n = frame :: rest) :
    delivered? ops n = lineIn frame.supply.1 := by
  rw [delivered?, given]
  exact congrArg (fun answer => lineIn answer.1) (next_of_top now)

/-- What stands on the stack was put there by the start of a file. -/
theorem pushed_of_stands (stands : Stands (framesAt ops) m n) :
    ∃ path source, ops[m]? = some (.push path source) ∧
      framesAt ops (m + 1) = { path, unread := source } :: framesAt ops m := by
  have higher := (stands.earlier (Nat.lt_succ_self m) stands.lt).higher
  rw [framesAt, framesAt] at higher
  cases given : ops[m]? with
  | none =>
    rw [before, before, stateAt_succ_of_none given] at higher
    exact absurd higher (Nat.lt_irrefl _)
  | some op =>
    rw [before_succ given] at higher
    obtain ⟨path, source, rfl, frames⟩ := (step_obey _ op).pushed higher
    exact ⟨path, source, rfl, by rw [framesAt, before_succ given, frames]; rfl⟩

/-- While a frame is on top, it delivers what is asked for, or is taken away. -/
theorem supplied_turned {above : List FileFrame} {frame' : FileFrame}
    (top : OnTop (framesAt ops) m n) (now : framesAt ops n = frame :: framesAt ops m)
    (later : framesAt ops (n + 1) = above ++ frame' :: framesAt ops m)
    (h : frame.Supplied path source (deliveredFrom ops m n)) :
    frame'.Supplied path source (deliveredFrom ops m (n + 1)) := by
  cases given : ops[n]? with
  | none =>
    rw [framesAt, before, stateAt_succ_of_none given] at later
    obtain rfl := entry_unique [] above (now.symm.trans later)
    rw [deliveredFrom_of_none top (by rw [delivered?, given])]
    exact h
  | some op =>
    rw [framesAt, before_succ given] at later
    have step := step_obey (before ops n) op
    generalize (before ops n).obey op = s' at step later
    cases step with
    | refused =>
      obtain rfl := entry_unique [] above (now.symm.trans later)
      rw [deliveredFrom_of_none top (by rw [delivered?, given])]
      exact h
    | started =>
      have split : [_] ++ frame :: framesAt ops m = above ++ frame' :: framesAt ops m :=
        (congrArg _ now.symm).trans later
      obtain rfl := entry_unique [_] above split
      rw [deliveredFrom_of_none top (by rw [delivered?, given])]
      exact h
    | supplied here =>
      cases here.symm.trans now
      obtain rfl := entry_unique [] above later
      rw [deliveredFrom_of_onTop top, delivered?_of_next given now]
      exact h.supply
    | ended here =>
      cases here.symm.trans now
      have height := congrArg List.length later
      simp only [List.length_append, List.length_cons] at height
      omega
    | idle empty => cases empty.symm.trans now

theorem supplied_stands (stands : Stands (framesAt ops) m n) :
    ∃ path source above frame, ops[m]? = some (.push path source) ∧
      framesAt ops n = above ++ frame :: framesAt ops m ∧
      frame.Supplied path source (deliveredFrom ops m n) := by
  obtain ⟨path, source, given, started⟩ := pushed_of_stands stands
  obtain ⟨above, frame, now, supplied⟩ := stands.induction (turns ops)
    (P := fun n frame => frame.Supplied path source (deliveredFrom ops m n))
    (fun frame pushed => by
      obtain rfl := entry_unique [] [] (started.symm.trans pushed)
      rw [deliveredFrom_start]
      exact .start path source)
    (fun n frame _ under supplied => by
      rw [deliveredFrom_of_not_onTop under]
      exact supplied)
    fun n frame frame' above => supplied_turned
  exact ⟨path, source, above, frame, given, now, supplied⟩

/-- Every frame that is on the stack was put on what lies below it, and holds what is left of its
source after the lines that were delivered from it. -/
theorem frames_supplied {above : List FileFrame} (now : framesAt ops n = above ++ frame :: rest) :
    ∃ m source, ops[m]? = some (.push frame.path source) ∧ Stands (framesAt ops) m n ∧
      framesAt ops m = rest ∧ frame.Supplied frame.path source (deliveredFrom ops m n) := by
  have higher : rest.length < (framesAt ops n).length := by
    rw [now, List.length_append, List.length_cons]
    omega
  obtain ⟨m, low, stands⟩ := exists_stands (turns ops) rfl higher
  obtain ⟨path, source, above', frame', given, now', supplied⟩ := supplied_stands stands
  have same := List.append_inj' (now'.symm.trans now) (by simp [low])
  obtain ⟨rfl, below⟩ := List.cons.inj same.2
  obtain rfl := supplied.named
  exact ⟨m, source, given, stands, below, supplied⟩

theorem top_supplied (now : framesAt ops n = frame :: rest) :
    ∃ m source, ops[m]? = some (.push frame.path source) ∧ OnTop (framesAt ops) m n ∧
      framesAt ops m = rest ∧ frame.Supplied frame.path source (deliveredFrom ops m n) := by
  have alone : framesAt ops n = [] ++ frame :: rest := now
  obtain ⟨m, source, given, stands, below, supplied⟩ := frames_supplied alone
  exact ⟨m, source, given, ⟨stands, by rw [now, below]; rfl⟩, below, supplied⟩

end

/-- What holds of a stack of files at all times, whatever is started, asked for and ended. -/
structure Disciplined (ops : List Operation) : Prop where
  /-- No file is on the stack twice. -/
  distinct (n : Nat) : (pathsAt ops n).Nodup
  /-- To start a file fails exactly if it is on the stack, and then nothing changes. -/
  refuses (n : Nat) (path : Text) (source : Source) : ops[n]? = some (.push path source) →
    ((∃ fault, (before ops n).push? path source = .error fault) ↔ path ∈ pathsAt ops n) ∧
      (path ∈ pathsAt ops n → before ops (n + 1) = before ops n)
  /-- Otherwise it lies on top of what was there, with all of its lines to come. -/
  starts (n : Nat) (path : Text) (source : Source) : ops[n]? = some (.push path source) →
    path ∉ pathsAt ops n → OnTop (framesAt ops) n (n + 1) ∧ deliveredFrom ops n (n + 1) = [] ∧
      framesAt ops (n + 1) = { path, unread := source } :: framesAt ops n
  /-- Each frame on the stack was put on what lies below it. The lines that were delivered from it
  are the first lines of its source, with their numbers, and the frame counts them. -/
  frames (n : Nat) (above : List FileFrame) (frame : FileFrame) (below : List FileFrame) :
    framesAt ops n = above ++ frame :: below → ∃ m source,
      ops[m]? = some (.push frame.path source) ∧ Stands (framesAt ops) m n ∧
        framesAt ops m = below ∧ deliveredFrom ops m n <+: numberedLines frame.path source.texts ∧
          frame.lineNumber = (deliveredFrom ops m n).length
  /-- What is delivered comes from the frame on top, and from no other one. -/
  delivers (n : Nat) (line : Line) : delivered? ops n = some line → ∃ m path source,
    ops[m]? = some (.push path source) ∧ OnTop (framesAt ops) m n ∧
      deliveredFrom ops m (n + 1) = deliveredFrom ops m n ++ [line] ∧
        ∀ m', m' ≠ m → deliveredFrom ops m' (n + 1) = deliveredFrom ops m' n
  /-- Nothing is supplied only after all lines of the frame on top have been delivered. -/
  complete (n : Nat) (frame : FileFrame) (below : List FileFrame) :
    framesAt ops n = frame :: below → (before ops n).next.1 = none → ∃ m source,
      ops[m]? = some (.push frame.path source) ∧ OnTop (framesAt ops) m n ∧
        deliveredFrom ops m n = numberedLines frame.path source.texts
  /-- What is ended is the frame on top, with the number of lines that were delivered from it, and
  the stack is as it was before that frame was put there. -/
  ends (n : Nat) (frame : FileFrame) (s : FileStack) : ops[n]? = some .pop →
    (before ops n).pop? = some (frame, s) → ∃ m source,
      ops[m]? = some (.push frame.path source) ∧ OnTop (framesAt ops) m n ∧
        frame.lineNumber = (deliveredFrom ops m n).length ∧ s = before ops m ∧
          before ops (n + 1) = s

/-- Whatever files are started, read and ended, each of them delivers its lines in order. -/
theorem deliveries_disciplined (ops : List Operation) : Disciplined ops where
  distinct n := stateAt_preserves (P := fun s : FileStack => (s.frames.map FileFrame.path).Nodup)
    (fun s op => (step_obey s op).nodup) List.nodup_nil
  refuses n path source given := by
    constructor
    · constructor
      · rintro ⟨fault, refused⟩
        by_contra new
        rw [push?_of_notMem new] at refused
        cases refused
      · exact fun here => ⟨_, push?_of_mem here source⟩
    · intro here
      rw [before_succ given, obey_refused here]
  starts n path source given new := by
    have now : framesAt ops (n + 1) = { path, unread := source } :: framesAt ops n := by
      rw [framesAt, before_succ given, obey_accepted new]
      rfl
    have height : (framesAt ops (n + 1)).length = (framesAt ops n).length + 1 := by rw [now]; rfl
    refine ⟨⟨⟨Nat.lt_succ_self n, fun k hk later => ?_⟩, height⟩, deliveredFrom_start, now⟩
    obtain rfl : k = n + 1 := Nat.le_antisymm hk later
    exact height ▸ Nat.lt_succ_self _
  frames n above frame below now := by
    obtain ⟨m, source, given, stands, under, supplied⟩ := frames_supplied now
    exact ⟨m, source, given, stands, under, supplied.prefix_numberedLines, supplied.lineNumber⟩
  delivers n line delivered := by
    have given : ops[n]? = some .next := by
      unfold delivered? at delivered
      split at delivered
      · assumption
      · cases delivered
    cases now : framesAt ops n with
    | nil =>
      have none : (before ops n).next.1 = none := by
        rw [next, show (before ops n).frames = _ from now]
      rw [delivered?, given, none] at delivered
      cases delivered
    | cons frame rest =>
      obtain ⟨m, source, started, top, -, -⟩ := top_supplied now
      refine ⟨m, _, source, started, top, ?_, fun m' other => ?_⟩
      · rw [deliveredFrom_of_onTop top, delivered]
        rfl
      · exact deliveredFrom_of_not_onTop fun top' => other (top'.unique top)
  complete n frame below now none := by
    obtain ⟨m, source, given, top, -, supplied⟩ := top_supplied now
    rw [next_of_top now] at none
    exact ⟨m, source, given, top, supplied.complete none⟩
  ends n frame s given popped := by
    cases now : framesAt ops n with
    | nil =>
      rw [pop?, show (before ops n).frames = _ from now] at popped
      cases popped
    | cons top rest =>
      rw [pop?_of_top now] at popped
      cases popped
      obtain ⟨m, source, started, onTop, below, supplied⟩ := top_supplied now
      refine ⟨m, source, started, onTop, supplied.lineNumber, ?_, ?_⟩
      · exact congrArg FileStack.mk below.symm
      · rw [before_succ given, obey_pop now]

/-- A file goes on where it was when the file above it has ended. -/
example :
    deliveredFrom [.push ['a'] [.ok ['x'], .ok ['y']], .next, .push ['b'] [.ok ['z']], .next, .pop,
      .next] 0 6 = [⟨['x'], ⟨['a'], 1⟩⟩, ⟨['y'], ⟨['a'], 2⟩⟩] := by
  decide

end FileStack

end LineTemplate
