import LineTemplate.Pattern.Regex.Normal
import LineTemplate.Unicode.Utf8
import Std.Data.HashMap

/-!
# The size of automata

An expression can be run as an automaton that reads the bytes of a text, forward to find where a
match ends and backward to find where it starts. Neither may take more than a certain number of
bytes, so that a short pattern with large counts cannot ask for any amount of memory. The automata
are not built here; it is only counted which states they have and how much room these take.
-/

namespace LineTemplate.Regex

open Unicode

/-- The bytes that an automaton may take. -/
def sizeLimit : Nat := 10485760

/-- How much of an automaton there is. States are numbered in the order in which they are made. -/
structure Built where
  states : Nat
  bytes : Nat

/-- Makes a part of an automaton, and fails when the automaton takes more than it may. -/
abbrev Builder := StateT Built Option

/-- The ways in which an automaton reads a text. -/
inductive Direction where
  | forward
  | backward
  deriving DecidableEq

inductive Exit where
  /-- By a state that has room for the one that follows. -/
  | fixed
  /-- By a state with several followers, which takes more room with each of them. -/
  | union
  deriving DecidableEq

/-! ## States -/

def charge (bytes : Nat) : Builder Unit := fun built =>
  let bytes := built.bytes + bytes
  if bytes ≤ sizeLimit then some ((), { built with bytes }) else none

/-- Makes a state that takes so many bytes more than each state does, and answers its number. -/
def newState (further : Nat) : Builder Nat := do
  charge (32 + further)
  modifyGet fun built => (built.states, { built with states := built.states + 1 })

/-- Makes a state for each of some ranges of bytes that lead on from it. -/
def newSparse (ranges : Nat) : Builder Nat :=
  newState (8 * ranges)

/-- Gives states with several followers so many more of them. -/
def addFollowers (count : Nat) : Builder Unit :=
  charge (4 * count)

def leave : Exit → Builder Unit
  | .fixed => pure ()
  | .union => addFollowers 1

def newStates (further : Nat) : Nat → Builder Unit
  | 0 => pure ()
  | count + 1 => do
    let _ ← newState further
    newStates further count

/-! ## Sets of characters -/

/-- The states of one set that can be used again, by what they lead on to. A state stays until
another one takes its slot. -/
structure Recent (κ : Type) where
  slots : Nat
  entries : Std.HashMap Nat (κ × Nat) := {}

/-- The slot of a state, by the numbers that make up what it leads on to. -/
def slotOf (slots : Nat) (numbers : List Nat) : Nat :=
  let hash : UInt64 := numbers.foldl (fun hash n => (hash ^^^ n.toUInt64) * 1099511628211)
    14695981039346656037
  hash.toNat % slots

/-- The state that leads on as wanted, a recent one if there is one. -/
def recentOr {κ : Type} [DecidableEq κ] (numbers : κ → List Nat) (key : κ) (make : Builder Nat) :
    StateT (Recent κ) Builder Nat := do
  let recent ← get
  let slot := slotOf recent.slots (numbers key)
  match recent.entries[slot]? with
  | some (known, state) => if known = key then return state
  | none => pure ()
  let state ← make
  set { recent with entries := recent.entries.insert slot (key, state) }
  return state

/-- A range of bytes that leads on to a state. -/
abbrev Transition := ByteRange × Nat

/-- Makes the states that read one of some sequences of at most `depth` bytes on the way to a
target. Sequences that start in the same way share their first states, and states that lead on in
the same way are the same. -/
def newSequences (target : Nat) :
    (depth : Nat) → List (List ByteRange) → StateT (Recent (List Transition)) Builder Nat
  | 0, _ => pure target
  | depth + 1, sequences => do
    let groups := sequences.splitBy fun a b => a.head? == b.head?
    let transitions : List (List Transition) ← groups.mapM fun group =>
      match group with
      | (range :: rest) :: _ => do
        let next ← if rest.isEmpty then pure target
          else newSequences target depth (group.map List.tail)
        pure [(range, next)]
      | _ => pure []
    recentOr (fun key => key.flatMap fun ((first, last), next) => [first, last, next])
      transitions.flatten (newSparse transitions.length)

/-- Makes the states that read a sequence of bytes backward, the last of them first, up to the state
that stands for its end. -/
def newBackward (stop : Nat) (bytes : List ByteRange) :
    StateT (Recent (Nat × ByteRange)) Builder Unit := do
  let _ ← bytes.foldlM (fun next range =>
    recentOr (fun (next, first, last) => [next, first, last]) (next, range) (newState 0)) stop
  addFollowers 1

/-- Makes the states that read one character of a set. -/
def newSet (direction : Direction) (set : Ranges) : Builder Unit := do
  if set.all fun (_, last) => last < 0x80 then
    let _ ← newState 0
    let _ ← newSparse set.length
  else match direction with
    | .forward => do
      let target ← newState 0
      let _ ← (newSequences target 4 (set.flatMap utf8Sequences)).run { slots := 10000 }
    | .backward => do
      let _ ← newState 0
      let stop ← newState 0
      let _ ← ((set.flatMap utf8Sequences).forM (newBackward stop)).run { slots := 1000 }

/-! ## Texts -/

/-- The bytes of a text in the order in which they are read. -/
def bytesOf (direction : Direction) (text : Text) : List Nat :=
  let bytes := text.flatMap fun c => utf8Bytes c.toNat
  match direction with
  | .forward => bytes
  | .backward => bytes.reverse

/-- Words in the order in which they are tried, divided where one of them is empty. A second empty
word before all others has no effect. -/
def segments (words : List (List Nat)) : List (List (List Nat)) :=
  let words := match words with
    | [] :: rest => [] :: rest.dropWhile List.isEmpty
    | words => words
  let (first, further) := words.foldr (fun word (first, further) =>
    if word.isEmpty then ([], first :: further) else (word :: first, further)) ([], [])
  first :: further

/-- The rests of the words that start with the same byte, for each such byte. -/
def byFirstByte (words : List (List Nat)) : List (List (List Nat)) :=
  let firsts := (words.filterMap List.head?).eraseDups
  firsts.map fun first => (words.filter fun word => word.head? = some first).map List.tail

/-- Makes the states that read one of some words of at most `depth` bytes, where words with the same
start share it. -/
def newWords : (depth : Nat) → List (List Nat) → Builder Unit
  | 0, _ => pure ()
  | depth + 1, words => do
    if !words.all List.isEmpty then
      let segments := segments words
      for segment in segments do
        let rests := byFirstByte segment
        for rest in rests do newWords depth rest
        match rests.length with
        | 0 => pure ()
        | 1 => let _ ← newState 0
        | ranges => let _ ← newSparse ranges
      let nonempty := segments.countP fun segment => !segment.isEmpty
      let _ ← newState (4 * (nonempty + (segments.length - 1)))

/-! ## Expressions -/

/-- Makes several copies of a part, one after another, the first of which follows on an exit. -/
def newCopies (part : Builder Exit) : (count : Nat) → Exit → Builder Exit
  | 0, exit => pure exit
  | count + 1, exit => do
    let next ← part
    leave exit
    newCopies part count next

def newExactly (part : Builder Exit) : Nat → Builder Exit
  | 0 => do
    let _ ← newState 0
    pure .fixed
  | count + 1 => do newCopies part count (← part)

/-- Makes a part at most so many times after an exit; each time may be the last. -/
def newOptional (part : Builder Exit) : (count : Nat) → Exit → Builder Exit
  | 0, exit => pure exit
  | count + 1, exit => do
    let _ ← newState 0
    let next ← part
    leave exit
    addFollowers 2
    newOptional part count next

def newRepetition (least : Nat) (most : Option Nat) (consumes : Bool) (part : Builder Exit) :
    Builder Exit :=
  match least, most with
  | 0, none => do
    if consumes then
      let _ ← newState 0
      let exit ← part
      leave exit
      addFollowers 1
      pure .union
    else
      let exit ← part
      -- One state repeats the part, one skips it, and one is where both end.
      newStates 0 3
      leave exit
      addFollowers 4
      pure .fixed
  | least + 1, none => do
    let exit ← match least with
      | 0 => part
      | least + 1 => newCopies part 1 (← newExactly part (least + 1))
    let _ ← newState 0
    leave exit
    addFollowers 1
    pure .union
  | 0, some 1 => do
    let _ ← newState 0
    let exit ← part
    let _ ← newState 0
    leave exit
    addFollowers 2
    pure .fixed
  | least, some most => do
    let exit ← newExactly part least
    if most ≤ least then pure exit
    else
      let _ ← newState 0
      leave (← newOptional part (most - least) exit)
      pure .fixed

/-- The texts between which an expression chooses, if it does nothing else. -/
def texts? (r : Regex) : Option (List Text) :=
  r.branches.mapM fun
    | literal text => some text
    | _ => none

/-- Joins an alternative to those before it, by its exit. Of these only the first one, if there is
no other, has not been joined yet: then a state from which all of them start and one where all of
them end are made. -/
def joinBranch (first : Option Exit) (exit : Exit) : Builder Unit := do
  match first with
  | some first => do
    newStates 0 2
    leave first
    addFollowers 1
  | none => pure ()
  leave exit
  addFollowers 1

mutual

def build (direction : Direction) : Regex → Builder Exit
  | empty | place _ => do
    newStates 0 1
    pure .fixed
  | literal text => do
    newStates 0 (bytesOf direction text).length
    pure .fixed
  | oneOf set => do
    newSet direction set
    pure .fixed
  | repeated least most _ a =>
    newRepetition least most (a.minLength?.any (0 < ·)) (build direction a)
  | group _ a => do
    match direction with
    | .forward =>
      newStates 0 1
      let exit ← build .forward a
      newStates 0 1
      leave exit
      pure .fixed
    | .backward => build .backward a
  | seq a b => do
    match direction with
    | .forward =>
      let exit ← build .forward a
      let last ← build .forward b
      leave exit
      pure last
    | .backward =>
      let exit ← build .backward b
      let last ← build .backward a
      leave exit
      pure last
  | alt a b => do
    match texts? (alt a b) with
    | some texts =>
      let words := texts.map (bytesOf direction)
      newStates 0 1
      newWords ((words.map List.length).foldl max 0) words
    | none =>
      let first ← build direction a
      buildBranches direction (some first) b
    pure .fixed
termination_by r => (sizeOf r, 0)

/-- Makes the further alternatives of an expression, after the first one if it has not been joined
yet. -/
def buildBranches (direction : Direction) (first : Option Exit) : Regex → Builder Unit
  | alt a rest => do
    joinBranch first (← build direction a)
    buildBranches direction none rest
  | a => do
    joinBranch first (← build direction a)
termination_by r => (sizeOf r, 1)

end

/-- Whether every match starts at the start of the text because nothing can be read before it is
known to be there. -/
def startsText : Regex → Bool
  | place .textStart => true
  | repeated least _ _ a => 0 < least && a.startsText
  | group _ a => a.startsText
  | seq a b => a.startsText || (a.maxLength? = some 0 && b.startsText)
  | alt a b => a.startsText && b.startsText
  | _ => false

/-- Whether every match ends at the end of the text because nothing can be read after it is known to
be there. -/
def endsText : Regex → Bool
  | place .textEnd => true
  | repeated least _ _ a => 0 < least && a.endsText
  | group _ a => a.endsText
  | seq a b => b.endsText || (b.maxLength? = some 0 && a.endsText)
  | alt a b => a.endsText && b.endsText
  | _ => false

/-- Makes the whole automaton: the one of the expression, with a match at its end, and before it a
loop over all bytes unless it only has to be tried in one place. Forward, it keeps where a match
starts and ends. -/
def buildWhole (direction : Direction) (r : Regex) : Builder Unit := do
  let anchored := match direction with
    | .forward => r.startsText
    | .backward => r.endsText
  newStates 0 1
  if !anchored then
    newStates 0 1
    let _ ← newSparse 1
    addFollowers 2
  match direction with
  | .forward => do
    newStates 0 1
    leave (← build .forward r)
    newStates 0 2
  | .backward => do
    leave (← build .backward r)
    newStates 0 1

/-- Whether the automata of an expression take no more than they may. -/
def isSmall (r : Regex) : Bool :=
  [Direction.forward, .backward].all fun direction =>
    ((buildWhole direction r).run { states := 0, bytes := 0 }).isSome

end LineTemplate.Regex
