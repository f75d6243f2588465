import LineTemplate.Proofs.Lines.Shelter
import Mathlib

/-!
# The history of a directory

A cursor directory is what a list of commands has made of an empty one. Each command writes at most
one piece, to the stream that is current when it is given: a line that is emitted, or the anchor of
a cursor that is named for the first time. The streams of the directory hold what was written to
them, in the order of the commands (`pieces_after`).
-/

namespace LineTemplate

/-- What a cursor directory can be told to do. -/
inductive Command where
  | enter (name : Text)
  | leave
  | switch (name : Text)
  | truncate (floor : Nat)
  | emit (line : Text)
  deriving DecidableEq

namespace Command

def line? : Command → Option Text
  | emit line => some line
  | _ => none

/-- The name of the cursor that a command selects. -/
def name? : Command → Option Text
  | enter name | switch name => some name
  | _ => none

end Command

/-- A piece that is written, and the cursor in whose stream; in the main stream, if it is none. -/
structure Write where
  stream : Option Nat
  piece : Piece
  deriving DecidableEq

/-- What is written to a stream. -/
def Write.to? (stream : Option Nat) (w : Write) : Option Piece :=
  if w.stream = stream then some w.piece else none

namespace CursorDirectory

/-- Does what a command says. To leave changes nothing where no cursor is selected. -/
def obey (d : CursorDirectory) : Command → CursorDirectory
  | .enter name => d.enter name
  | .leave =>
    match d.leave? with
    | .ok (_, left) => left
    | .error _ => d
  | .switch name => d.switch name
  | .truncate floor => d.truncate floor
  | .emit line => d.emit line

/-- What a command writes. -/
def written (d : CursorDirectory) : Command → Option Write
  | .emit line => some ⟨d.selected.head?, .line line⟩
  | .enter name | .switch name =>
    if d.exists? name then none else some ⟨d.selected.head?, .anchor d.cursors.length⟩
  | .leave | .truncate _ => none

/-- What was written to a stream. -/
def pieces (d : CursorDirectory) : Option Nat → List Piece
  | none => d.main.pieces
  | some i => (d.cursors[i]?.map fun c => c.buffer.pieces).getD []

def names (d : CursorDirectory) : List Text :=
  d.cursors.map Cursor.name

/-- Only cursors that there are can be selected. -/
def Selectable (d : CursorDirectory) : Prop :=
  ∀ i ∈ d.selected, i < d.cursors.length

section

variable {d : CursorDirectory} {name : Text} {piece : Piece} {stream : Option Nat}

theorem exists?_iff : d.exists? name = true ↔ name ∈ d.names := by
  simp [exists?, names]

theorem length_write : (d.write piece).cursors.length = d.cursors.length := by
  unfold write
  split <;> simp

theorem names_write : (d.write piece).names = d.names := by
  unfold write names
  split
  · rfl
  · apply List.ext_getElem?
    intro j
    simp only [List.getElem?_map, List.getElem?_modify]
    cases d.cursors[j]? with
    | none => rfl
    | some c =>
      simp only [Option.map_eq_map, Option.map_some]
      split <;> rfl

/-- The stream is the current one, and there is such a stream. -/
def Receives (d : CursorDirectory) (stream : Option Nat) : Prop :=
  d.selected.head? = stream ∧ ∀ i, stream = some i → i < d.cursors.length

theorem pieces_write_of_receives (h : d.Receives stream) :
    (d.write piece).pieces stream = d.pieces stream ++ [piece] := by
  obtain ⟨rfl, short⟩ := h
  unfold write
  cases hs : d.selected with
  | nil => simp [pieces]
  | cons i rest =>
    have short : i < d.cursors.length := short i (by simp [hs])
    simp [pieces, List.getElem?_eq_getElem short]

theorem pieces_write_of_not_receives (h : ¬ d.Receives stream) :
    (d.write piece).pieces stream = d.pieces stream := by
  unfold write
  cases hs : d.selected with
  | nil =>
    cases stream with
    | none => exact absurd ⟨by simp [hs], nofun⟩ h
    | some j => rfl
  | cons i rest =>
    cases stream with
    | none => rfl
    | some j =>
      simp only [pieces, List.getElem?_modify]
      cases here : d.cursors[j]? with
      | none => rfl
      | some c =>
        -- The number is that of a cursor, so it is not the selected one.
        have short : j < d.cursors.length := (List.getElem?_eq_some_iff.mp here).1
        have other : i ≠ j := fun same => h ⟨by simp [hs, same], fun k hk => by
          cases hk
          exact short⟩
        simp [other]

/-- A piece goes to the end of the current stream. -/
theorem pieces_write (h : d.Selectable) :
    (d.write piece).pieces stream =
      d.pieces stream ++ if d.selected.head? = stream then [piece] else [] := by
  by_cases current : d.selected.head? = stream
  · rw [if_pos current]
    refine pieces_write_of_receives ⟨current, fun i same => h i ?_⟩
    exact List.mem_of_mem_head? (current.trans same)
  · rw [if_neg current, List.append_nil]
    exact pieces_write_of_not_receives fun receives => current receives.1

/-- A new cursor has written nothing. -/
theorem pieces_append_cursor :
    ({ d with cursors := d.cursors ++ [{ name }] } : CursorDirectory).pieces stream =
      d.pieces stream := by
  cases stream with
  | none => rfl
  | some i =>
    simp only [pieces]
    by_cases short : i < d.cursors.length
    · rw [List.getElem?_append_left short]
    · rw [List.getElem?_append_right (Nat.le_of_not_lt short),
        List.getElem?_eq_none (Nat.le_of_not_lt short)]
      cases hi : i - d.cursors.length <;> simp

theorem target_of_known (known : d.exists? name = true) :
    ∃ i, i < d.cursors.length ∧ d.target name = (i, d) := by
  unfold target
  cases hi : d.cursors.findIdx? (·.name = name) with
  | none =>
    have found : (d.cursors.findIdx? (·.name = name)).isSome = true :=
      List.findIdx?_isSome.trans known
    simp [hi] at found
  | some i => exact ⟨i, (List.findIdx?_eq_some_iff_getElem.mp hi).1, rfl⟩

theorem target_of_new (new : d.exists? name = false) :
    d.target name = (d.cursors.length,
      { d.write (.anchor d.cursors.length) with
        cursors := (d.write (.anchor d.cursors.length)).cursors ++ [{ name }] }) := by
  have missing : d.cursors.findIdx? (·.name = name) = none := by
    rw [← Option.isNone_iff_eq_none, ← Option.not_isSome, List.findIdx?_isSome]
    simpa [exists?] using new
  unfold target
  rw [missing]

theorem pieces_target (h : d.Selectable) :
    (d.target name).2.pieces stream = d.pieces stream ++
      if d.exists? name then []
      else if d.selected.head? = stream then [.anchor d.cursors.length] else [] := by
  cases known : d.exists? name with
  | true =>
    obtain ⟨i, -, ht⟩ := target_of_known known
    simp [ht]
  | false =>
    rw [target_of_new known, pieces_append_cursor, pieces_write h]
    simp

theorem names_target :
    (d.target name).2.names = d.names ++ if d.exists? name then [] else [name] := by
  cases known : d.exists? name with
  | true =>
    obtain ⟨i, -, ht⟩ := target_of_known known
    simp [ht]
  | false =>
    have anchored : (d.write (.anchor d.cursors.length)).names = d.names := names_write
    rw [target_of_new known, ← anchored]
    simp [names]

theorem target_lt : (d.target name).1 < (d.target name).2.cursors.length := by
  cases known : d.exists? name with
  | true =>
    obtain ⟨i, short, ht⟩ := target_of_known known
    rwa [ht]
  | false =>
    rw [target_of_new known]
    simp [length_write]

theorem selectable_target (h : d.Selectable) : (d.target name).2.Selectable := by
  intro i hi
  rw [selected_target] at hi
  have grown : d.names.length ≤ (d.target name).2.names.length := by
    rw [names_target, List.length_append]
    omega
  simp only [names, List.length_map] at grown
  exact Nat.lt_of_lt_of_le (h i hi) grown

end

section

variable {d : CursorDirectory} {stream : Option Nat}

/-- A command appends what it writes to the stream in which it writes. -/
theorem pieces_obey (h : d.Selectable) (c : Command) :
    (d.obey c).pieces stream =
      d.pieces stream ++ ((d.written c).bind (Write.to? stream)).toList := by
  have anchored (name : Text) : ((if d.exists? name then none
      else some (⟨d.selected.head?, .anchor d.cursors.length⟩ : Write)).bind
        (Write.to? stream)).toList =
      if d.exists? name then []
      else if d.selected.head? = stream then [.anchor d.cursors.length] else [] := by
    split
    · rfl
    · by_cases current : d.selected.head? = stream <;> simp [Write.to?, current]
  cases c with
  | enter name | switch name =>
    rw [written, anchored, ← pieces_target h]
    rfl
  | leave =>
    unfold obey leave?
    cases d.selected <;> simp [written, pieces]
  | truncate floor => simp [obey, written, truncate, pieces]
  | emit line =>
    rw [obey, emit, pieces_write h]
    by_cases current : d.selected.head? = stream <;> simp [written, Write.to?, current]

/-- A name that is used for the first time is the last one. -/
theorem names_obey (c : Command) :
    (d.obey c).names = d.names ++ c.name?.toList.filter (· ∉ d.names) := by
  cases c with
  | enter name | switch name =>
    have named : (d.target name).2.names = d.names ++ [name].filter (· ∉ d.names) := by
      rw [names_target]
      by_cases used : name ∈ d.names
      · simp [exists?_iff.mpr used, used]
      · simp [mt exists?_iff.mp used, used]
    exact named
  | leave =>
    unfold obey leave?
    cases d.selected <;> simp [Command.name?, names]
  | truncate floor => simp [obey, Command.name?, truncate, names]
  | emit line => simp [obey, emit, names_write, Command.name?]

theorem names_obey_of_new {c : Command} {name : Text} (named : c.name? = some name)
    (new : name ∉ d.names) : (d.obey c).names = d.names ++ [name] := by
  rw [names_obey, named]
  simp [new]

theorem names_obey_of_known {c : Command} (known : ∀ name, c.name? = some name → name ∈ d.names) :
    (d.obey c).names = d.names := by
  rw [names_obey]
  cases named : c.name? with
  | none => simp
  | some name => simp [known name named]

theorem selectable_obey (h : d.Selectable) (c : Command) : (d.obey c).Selectable := by
  have under {selected : List Nat} (part : ∀ i ∈ selected, i ∈ d.selected) :
      ({ d with selected } : CursorDirectory).Selectable :=
    fun i hi => h i (part i hi)
  cases c with
  | enter name =>
    exact List.forall_mem_cons.mpr ⟨target_lt, selectable_target h⟩
  | switch name =>
    refine List.forall_mem_cons.mpr ⟨target_lt, fun i hi => selectable_target h i ?_⟩
    exact List.mem_of_mem_tail hi
  | leave =>
    unfold obey leave?
    cases hs : d.selected with
    | nil => exact h
    | cons i rest => exact under fun j hj => by simp [hs, hj]
  | truncate floor => exact under fun i hi => List.mem_of_mem_drop hi
  | emit line =>
    intro i hi
    rw [obey, emit, selected_write] at hi
    rw [obey, emit, length_write]
    exact h i hi

theorem stream_of_written {c : Command} {w : Write} (h : d.written c = some w) :
    w.stream = d.selected.head? := by
  cases c with
  | enter name | switch name =>
    simp only [written] at h
    split at h
    · cases h
    · cases h
      rfl
  | emit line =>
    cases h
    rfl
  | leave | truncate floor => cases h

/-- An anchor belongs to a new cursor, which the command names. -/
theorem anchor_of_written {c : Command} {i : Nat} (h : d.written c = some ⟨stream, .anchor i⟩) :
    i = d.cursors.length ∧ ∃ name, c.name? = some name ∧ name ∉ d.names := by
  cases c with
  | enter name | switch name =>
    simp only [written] at h
    split at h
    · cases h
    · rename_i new
      cases h
      exact ⟨rfl, name, rfl, mt exists?_iff.mpr new⟩
  | emit | leave | truncate => cases h

theorem written_of_new {c : Command} {name : Text} (named : c.name? = some name)
    (new : name ∉ d.names) :
    d.written c = some ⟨d.selected.head?, .anchor d.cursors.length⟩ := by
  cases c with
  | enter | switch =>
    cases named
    simp [written, mt exists?_iff.mp new]
  | leave | truncate | emit => cases named

theorem line_of_written {c : Command} {text : Text} (h : d.written c = some ⟨stream, .line text⟩) :
    c.line? = some text := by
  cases c with
  | enter name | switch name =>
    simp only [written] at h
    split at h <;> cases h
  | emit line =>
    cases h
    rfl
  | leave | truncate => cases h

theorem written_of_line {c : Command} {text : Text} (h : c.line? = some text) :
    d.written c = some ⟨d.selected.head?, .line text⟩ := by
  cases c with
  | emit line =>
    cases h
    rfl
  | _ => cases h

end

/-! ## Lists of commands -/

/-- The directory after some commands, of which the first one finds it empty. -/
def after (commands : List Command) : CursorDirectory :=
  commands.foldl obey {}

/-- What is written at a time, which is the number of the commands before. -/
def writtenAt (commands : List Command) (t : Nat) : Option Write :=
  commands[t]?.bind (after (commands.take t)).written

/-- The times at which something is written to a stream, in order. -/
def times (commands : List Command) (stream : Option Nat) : List Nat :=
  (List.range commands.length).filter fun t =>
    (writtenAt commands t).map Write.stream = some stream

section

variable {commands : List Command} {c : Command} {stream : Option Nat} {t t' i : Nat} {w : Write}

theorem after_concat : after (commands ++ [c]) = (after commands).obey c :=
  List.foldl_concat ..

theorem after_take_succ (h : commands[t]? = some c) :
    after (commands.take (t + 1)) = (after (commands.take t)).obey c := by
  rw [List.take_add_one, h]
  exact after_concat

theorem selectable_after (commands : List Command) : (after commands).Selectable := by
  induction commands using List.reverseRecOn with
  | nil => exact nofun
  | append_singleton commands c ih =>
    rw [after_concat]
    exact selectable_obey ih c

theorem writtenAt_concat_of_lt (h : t < commands.length) :
    writtenAt (commands ++ [c]) t = writtenAt commands t := by
  unfold writtenAt
  rw [List.getElem?_append_left h, List.take_append_of_le_length (Nat.le_of_lt h)]

theorem writtenAt_concat_length :
    writtenAt (commands ++ [c]) commands.length = (after commands).written c := by
  simp [writtenAt]

theorem lt_of_writtenAt (h : writtenAt commands t = some w) : t < commands.length := by
  obtain ⟨c, hc, -⟩ := Option.bind_eq_some_iff.mp h
  exact (List.getElem?_eq_some_iff.mp hc).1

theorem mem_times : t ∈ times commands stream ↔
    ∃ piece, writtenAt commands t = some ⟨stream, piece⟩ := by
  constructor
  · intro h
    obtain ⟨⟨_, piece⟩, hw, rfl⟩ := Option.map_eq_some_iff.mp
      (of_decide_eq_true (List.mem_filter.mp h).2)
    exact ⟨piece, hw⟩
  · rintro ⟨piece, hw⟩
    exact List.mem_filter.mpr ⟨List.mem_range.mpr (lt_of_writtenAt hw), by simp [hw]⟩

theorem times_pairwise : (times commands stream).Pairwise (· < ·) :=
  List.pairwise_lt_range.filter _

theorem times_concat : times (commands ++ [c]) stream = times commands stream ++
    if ((after commands).written c).map Write.stream = some stream then [commands.length]
    else [] := by
  unfold times
  rw [List.length_append, List.length_singleton, List.range_succ, List.filter_append]
  congr 1
  · apply List.filter_congr
    intro t ht
    rw [writtenAt_concat_of_lt (List.mem_range.mp ht)]
  · simp [writtenAt_concat_length, List.filter_cons]

/-- A stream holds what was written to it, in the order of the commands. -/
theorem pieces_after (commands : List Command) (stream : Option Nat) :
    (after commands).pieces stream =
      (times commands stream).filterMap fun t => (writtenAt commands t).map Write.piece := by
  induction commands using List.reverseRecOn with
  | nil => cases stream <;> rfl
  | append_singleton commands c ih =>
    rw [after_concat, pieces_obey (selectable_after commands), ih, times_concat,
      List.filterMap_append]
    congr 1
    · apply List.filterMap_congr
      intro t ht
      have short : t < commands.length := List.mem_range.mp (List.mem_filter.mp ht).1
      rw [writtenAt_concat_of_lt short]
    · cases hw : (after commands).written c with
      | none => simp
      | some w =>
        by_cases same : w.stream = stream <;>
          simp [Write.to?, same, writtenAt_concat_length, hw]

/-! ## Names and anchors -/

theorem names_after (commands : List Command) :
    (after commands).names = (commands.filterMap Command.name?).eraseDups := by
  induction commands using List.reverseRecOn with
  | nil => rfl
  | append_singleton commands c ih =>
    rw [after_concat, names_obey, ih, List.filterMap_append, List.eraseDups_append]
    congr 1
    cases hn : c.name? with
    | none => simp [hn, List.removeAll]
    | some name =>
      by_cases used : ∃ a ∈ commands, a.name? = some name <;>
        simp [hn, used, List.removeAll, List.eraseDups_cons, -not_exists, -not_and]

theorem names_nodup (commands : List Command) : (after commands).names.Nodup := by
  induction commands using List.reverseRecOn with
  | nil => exact .nil
  | append_singleton commands c ih =>
    rw [after_concat, names_obey]
    refine List.Nodup.append ih ?_ ?_
    · apply List.Nodup.filter
      cases c.name? <;> simp
    · intro name old new
      exact of_decide_eq_true (List.mem_filter.mp new).2 old

theorem names_prefix (h : t ≤ t') :
    (after (commands.take t)).names <+: (after (commands.take t')).names := by
  induction h with
  | refl => exact List.prefix_rfl
  | @step t' _ ih =>
    cases hc : commands[t']? with
    | none =>
      rw [List.take_add_one, hc, Option.toList_none, List.append_nil]
      exact ih
    | some c =>
      rw [after_take_succ hc, names_obey]
      exact ih.trans (List.prefix_append _ _)

theorem names_take (commands : List Command) (t : Nat) :
    (after (commands.take t)).names <+: (after commands).names := by
  rcases Nat.le_total t commands.length with short | long
  · have early : (after (commands.take t)).names <+:
        (after (commands.take commands.length)).names := names_prefix short
    rwa [List.take_length] at early
  · rw [List.take_of_length_le long]

theorem length_names (d : CursorDirectory) : d.names.length = d.cursors.length :=
  List.length_map ..

theorem length_take_le (commands : List Command) (t : Nat) :
    (after (commands.take t)).cursors.length ≤ (after commands).cursors.length := by
  simpa only [length_names] using (names_take commands t).length_le

/-- A stream to which something is written is that of a cursor that there is. -/
theorem stream_lt (h : writtenAt commands t = some ⟨some i, w.piece⟩) :
    i < (after (commands.take t)).cursors.length := by
  obtain ⟨c, -, hw⟩ := Option.bind_eq_some_iff.mp h
  have current := stream_of_written hw
  exact selectable_after _ i (List.mem_of_mem_head? current.symm)

/-- A cursor is anchored when it is named for the first time. -/
theorem anchored (h : writtenAt commands t = some ⟨stream, .anchor i⟩) :
    i = (after (commands.take t)).cursors.length ∧
      ∃ name, commands[t]?.bind Command.name? = some name ∧
        (∀ t' < t, commands[t']?.bind Command.name? ≠ some name) ∧
        (after commands).names[i]? = some name := by
  obtain ⟨c, hc, hw⟩ := Option.bind_eq_some_iff.mp h
  obtain ⟨rfl, name, hn, fresh⟩ := anchor_of_written hw
  refine ⟨rfl, name, by simp [hc, hn], ?_, ?_⟩
  · intro t' earlier used
    obtain ⟨c', hc', hn'⟩ := Option.bind_eq_some_iff.mp used
    rw [names_after, List.mem_eraseDups, List.mem_filterMap] at fresh
    exact fresh ⟨c', List.mem_of_getElem? (by rwa [List.getElem?_take_of_lt earlier]), hn'⟩
  · have named : (after (commands.take (t + 1))).names =
        (after (commands.take t)).names ++ [name] := by
      rw [after_take_succ hc, names_obey_of_new hn fresh]
    obtain ⟨later, hl⟩ := names_take commands (t + 1)
    rw [← hl, named, ← length_names]
    simp

/-- A cursor has only one anchor. -/
theorem anchor_unique {stream' : Option Nat} (h : writtenAt commands t = some ⟨stream, .anchor i⟩)
    (h' : writtenAt commands t' = some ⟨stream', .anchor i⟩) : t = t' := by
  obtain ⟨-, name, used, first, hi⟩ := anchored h
  obtain ⟨-, name', used', first', hi'⟩ := anchored h'
  cases hi.symm.trans hi'
  rcases Nat.lt_trichotomy t t' with earlier | same | later
  · exact absurd used (first' t earlier)
  · exact same
  · exact absurd used' (first t' later)

theorem exists_anchor (h : i < (after commands).cursors.length) :
    ∃ t stream, writtenAt commands t = some ⟨stream, .anchor i⟩ := by
  induction commands using List.reverseRecOn with
  | nil => simp [after] at h
  | append_singleton commands c ih =>
    by_cases before : i < (after commands).cursors.length
    · obtain ⟨t, stream, hw⟩ := ih before
      exact ⟨t, stream, by rwa [writtenAt_concat_of_lt (lt_of_writtenAt hw)]⟩
    · rw [after_concat, ← length_names] at h
      rw [← length_names] at before
      by_cases known : ∀ name, c.name? = some name → name ∈ (after commands).names
      · rw [names_obey_of_known known] at h
        exact absurd h before
      · push Not at known
        obtain ⟨name, named, new⟩ := known
        rw [names_obey_of_new named new, List.length_append, List.length_singleton] at h
        have last : i = (after commands).cursors.length := by
          rw [← length_names]
          omega
        exact ⟨_, _, by rw [writtenAt_concat_length, written_of_new named new, last]⟩

end

end CursorDirectory

end LineTemplate
