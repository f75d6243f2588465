import LineTemplate.Proofs.Output.Splicing

/-!
# The arrangement of a document

Where the lines that were emitted are in the document. A cursor stands where it was first named, so
what is written to it stands there, too, and so on through the cursors in which cursors are
anchored. `Arranges` says this of an order of the commands, from which `render_arranges` reads off
the document: each line is there once, each stream is in its own order, and the lines of a cursor
stay together, in their place in the stream that holds the anchor.
-/

namespace LineTemplate.CursorDirectory

open Relation (ReflTransGen)

/-- The line that is emitted at a time. -/
def lineAt (commands : List Command) (t : Nat) : Option Text :=
  commands[t]?.bind Command.line?

/-- The stream that is current at a time. -/
def streamAt (commands : List Command) (t : Nat) : Option Nat :=
  (after (commands.take t)).selected.head?

/-- What is written at a time goes to the stream of the cursor that is anchored at another time. -/
def AnchoredAt (commands : List Command) (t anchor : Nat) : Prop :=
  ∃ i piece stream, writtenAt commands t = some ⟨some i, piece⟩ ∧
    writtenAt commands anchor = some ⟨stream, .anchor i⟩

/-- What is written at a time stands in the place of what is written at another time. -/
def StandsAt (commands : List Command) : Nat → Nat → Prop :=
  ReflTransGen (AnchoredAt commands)

/-- A document has the lines of some commands, in an order of the times when they are emitted. -/
structure Arranges (commands : List Command) (document : Document) (order : List Nat) : Prop where
  lines : document.lines = order.filterMap (lineAt commands)
  emitted : ∀ t, t ∈ order ↔ (lineAt commands t).isSome
  once : order.Nodup
  ordered : order.Pairwise fun t t' =>
    streamAt commands t = streamAt commands t' → t < t'
  /-- The lines of a cursor stay together. They are in the stream that was current when the cursor
  was first named, between what was written there before and what was written there afterwards. -/
  cursor : ∀ (i : Nat) (name : Text) (own : List Text), document.cursors[i]? = some (name, own) →
    ∃ first before part later,
      commands[first]?.bind Command.name? = some name ∧
      (∀ t < first, commands[t]?.bind Command.name? ≠ some name) ∧
      order = before ++ part ++ later ∧
      own = part.filterMap (lineAt commands) ∧
      (∀ t ∈ order, t ∈ part ↔ StandsAt commands t first) ∧
      ∀ t ∈ order, ∀ t', StandsAt commands t t' → streamAt commands t' = streamAt commands first →
        (t' < first → t ∈ before) ∧ (first < t' → t ∈ later)

section

variable {commands : List Command} {t t' i : Nat} {stream stream' : Option Nat} {w : Write}
  {text : Text}

theorem stream_eq (h : writtenAt commands t = some w) : streamAt commands t = w.stream := by
  obtain ⟨c, -, hw⟩ := Option.bind_eq_some_iff.mp h
  exact (stream_of_written hw).symm

theorem streamAt_of_mem_times (h : t ∈ times commands stream) : streamAt commands t = stream := by
  obtain ⟨piece, hw⟩ := mem_times.mp h
  exact stream_eq hw

theorem lineAt_of_written (h : writtenAt commands t = some ⟨stream, .line text⟩) :
    lineAt commands t = some text := by
  obtain ⟨c, hc, hw⟩ := Option.bind_eq_some_iff.mp h
  simp [lineAt, hc, line_of_written hw]

theorem written_of_lineAt (h : lineAt commands t = some text) :
    writtenAt commands t = some ⟨streamAt commands t, .line text⟩ := by
  obtain ⟨c, hc, hl⟩ := Option.bind_eq_some_iff.mp h
  simp [writtenAt, hc, written_of_line hl, streamAt]

/-! ## Places -/

/-- An anchor has no line of its own. -/
theorem lineAt_of_anchor (h : writtenAt commands t = some ⟨stream, .anchor i⟩) :
    lineAt commands t = none := by
  cases hl : lineAt commands t with
  | none => rfl
  | some text => cases h.symm.trans (written_of_lineAt hl)

theorem anchoredAt_unique : Relator.RightUnique (AnchoredAt commands) := by
  rintro t a a' ⟨i, piece, stream, hw, ha⟩ ⟨i', piece', stream', hw', ha'⟩
  cases hw.symm.trans hw'
  exact anchor_unique ha ha'

/-- Streams in which cursors are anchored come before those of the cursors. -/
def level : Option Nat → Nat
  | none => 0
  | some i => i + 1

theorem AnchoredAt.level_lt (h : AnchoredAt commands t t') :
    level (streamAt commands t') < level (streamAt commands t) := by
  obtain ⟨i, piece, stream, hw, ha⟩ := h
  rw [stream_eq hw, stream_eq ha]
  cases stream with
  | none => exact Nat.succ_pos i
  | some j => exact Nat.succ_lt_succ (stream_lt_anchor ha)

theorem StandsAt.level_le (h : StandsAt commands t t') :
    level (streamAt commands t') ≤ level (streamAt commands t) := by
  induction h with
  | refl => exact Nat.le_refl _
  | tail _ last ih => exact Nat.le_trans (Nat.le_of_lt last.level_lt) ih

/-- Nothing stands in the place of another piece of its own stream. -/
theorem StandsAt.eq_of_stream (h : StandsAt commands t t')
    (same : streamAt commands t = streamAt commands t') : t = t' := by
  rcases ReflTransGen.cases_head h with rfl | ⟨a, first, rest⟩
  · rfl
  · have lower := first.level_lt
    have below : level (streamAt commands t') ≤ level (streamAt commands a) :=
      StandsAt.level_le rest
    rw [same] at lower
    omega

/-- Pieces of one stream that stand in different places of another stream are these places. -/
theorem eq_of_apart {k k' : Nat} (h : StandsAt commands k t) (h' : StandsAt commands k' t')
    (places : streamAt commands t = streamAt commands t') (apart : t ≠ t')
    (same : streamAt commands k = streamAt commands k') : k = t ∧ k' = t' := by
  rcases ReflTransGen.cases_head h with rfl | ⟨a, first, rest⟩
  · exact ⟨rfl, h'.eq_of_stream (same.symm.trans places)⟩
  · rcases ReflTransGen.cases_head h' with rfl | ⟨a', first', rest'⟩
    · exact ⟨h.eq_of_stream (same.trans places.symm), rfl⟩
    · -- Both are pieces of one cursor, whose anchor cannot stand in both places.
      have anchor : a = a' := by
        obtain ⟨i, piece, stream, hw, ha⟩ := first
        obtain ⟨i', piece', stream', hw', ha'⟩ := first'
        rw [stream_eq hw, stream_eq hw'] at same
        cases same
        exact anchor_unique ha ha'
      subst anchor
      rcases ReflTransGen.total_of_right_unique anchoredAt_unique rest rest' with above | above
      · exact absurd (StandsAt.eq_of_stream above places) apart
      · exact absurd (StandsAt.eq_of_stream above places.symm).symm apart

/-- The lines that stand in the places of what is written at some times, by the times at which they
are emitted. -/
inductive Places (commands : List Command) : List Nat → List Nat → Prop where
  | nil : Places commands [] []
  | line {t : Nat} {stream : Option Nat} {text : Text} {ts order : List Nat}
      (written : writtenAt commands t = some ⟨stream, .line text⟩)
      (further : Places commands ts order) : Places commands (t :: ts) (t :: order)
  | anchor {t i : Nat} {stream : Option Nat} {ts own order : List Nat}
      (written : writtenAt commands t = some ⟨stream, .anchor i⟩)
      (inner : Places commands (times commands (some i)) own)
      (further : Places commands ts order) : Places commands (t :: ts) (own ++ order)

end

namespace Places

variable {commands : List Command} {ts ts' order : List Nat} {t i : Nat} {stream : Option Nat}

theorem exists_of_cursors
    (written : ∀ t ∈ ts, ∃ w, writtenAt commands t = some w ∧
      ∀ i, w.piece = .anchor i → ∃ own, Places commands (times commands (some i)) own) :
    ∃ order, Places commands ts order := by
  induction ts with
  | nil => exact ⟨[], .nil⟩
  | cons t ts ih =>
    obtain ⟨order, further⟩ := ih fun t' ht' => written t' (List.mem_cons_of_mem _ ht')
    obtain ⟨⟨stream, piece⟩, hw, cursors⟩ := written t List.mem_cons_self
    cases piece with
    | line text => exact ⟨t :: order, .line hw further⟩
    | anchor i =>
      obtain ⟨own, inner⟩ := cursors i rfl
      exact ⟨own ++ order, .anchor hw inner further⟩

/-- The lines of a cursor are found, those of later cursors first. -/
theorem exists_own (commands : List Command) (rank j : Nat)
    (reach : (after commands).cursors.length ≤ j + rank) :
    ∃ own, Places commands (times commands (some j)) own := by
  induction rank generalizing j with
  | zero =>
    refine exists_of_cursors fun t ht => ?_
    obtain ⟨piece, hw⟩ := mem_times.mp ht
    refine ⟨_, hw, ?_⟩
    rintro i rfl
    have := stream_lt_anchor hw
    have := anchor_lt hw
    omega
  | succ rank ih =>
    refine exists_of_cursors fun t ht => ?_
    obtain ⟨piece, hw⟩ := mem_times.mp ht
    refine ⟨_, hw, ?_⟩
    rintro i rfl
    have := stream_lt_anchor hw
    exact ih i (by omega)

theorem exists_order (commands : List Command) :
    ∃ order, Places commands (times commands none) order := by
  refine exists_of_cursors fun t ht => ?_
  obtain ⟨piece, hw⟩ := mem_times.mp ht
  exact ⟨_, hw, fun i _ => exists_own commands _ i (Nat.le_add_left _ _)⟩

/-- The lines of a document are those that stand in the places. -/
theorem flattens (h : Places commands ts order) :
    Flattens (after commands).cursors
      (ts.filterMap fun t => (writtenAt commands t).map Write.piece)
      (order.filterMap (lineAt commands)) := by
  induction h with
  | nil => exact .nil
  | line written further ih =>
    rw [List.filterMap_cons_some (by rw [written]; rfl),
      List.filterMap_cons_some (lineAt_of_written written)]
    exact .line ih
  | @anchor t i stream ts own order written inner further ih_inner ih_further =>
    rw [List.filterMap_cons_some (by rw [written]; rfl), List.filterMap_append]
    have short := anchor_lt written
    have found := List.getElem?_eq_getElem short
    refine .anchor found ?_ ih_further
    have pieces := pieces_after commands (some i)
    rw [CursorDirectory.pieces, found] at pieces
    rw [← pieces] at ih_inner
    exact ih_inner

theorem mem_iff {k : Nat} (h : Places commands ts order) :
    k ∈ order ↔ (lineAt commands k).isSome ∧ ∃ t ∈ ts, StandsAt commands k t := by
  induction h with
  | nil => simp
  | @line t stream text ts order written further ih =>
    have place (hk : StandsAt commands k t) : k = t := by
      rcases ReflTransGen.cases_tail hk with rfl | ⟨a, -, i, piece, stream', -, anchor⟩
      · rfl
      · cases written.symm.trans anchor
    rw [List.mem_cons, ih]
    simp only [List.mem_cons, exists_eq_or_imp, and_or_left]
    refine or_congr_left ⟨?_, fun hk => place hk.2⟩
    rintro rfl
    exact ⟨by rw [lineAt_of_written written]; rfl, .refl⟩
  | @anchor t i stream ts own order written inner further ih_inner ih_further =>
    rw [List.mem_append, ih_inner, ih_further]
    simp only [List.mem_cons, exists_eq_or_imp, and_or_left]
    refine or_congr_left (and_congr_right fun line => ?_)
    constructor
    · rintro ⟨t', ht', hk⟩
      obtain ⟨piece, hw⟩ := mem_times.mp ht'
      exact .tail hk ⟨i, piece, stream, hw, written⟩
    · intro hk
      rcases ReflTransGen.cases_tail hk with rfl | ⟨t', hk, i', piece, stream', hw, anchor⟩
      · rw [lineAt_of_anchor written] at line
        cases line
      · cases written.symm.trans anchor
        exact ⟨t', mem_times.mpr ⟨piece, hw⟩, hk⟩

theorem pairwise (h : Places commands ts order) (sorted : ts.Pairwise (· < ·))
    (within : ∀ t ∈ ts, streamAt commands t = stream) :
    order.Pairwise fun t t' => streamAt commands t = streamAt commands t' → t < t' := by
  induction h generalizing stream with
  | nil => exact .nil
  | @line t _ text ts order written further ih =>
    obtain ⟨first, sorted⟩ := List.pairwise_cons.mp sorted
    obtain ⟨here, within⟩ := List.forall_mem_cons.mp within
    refine List.pairwise_cons.mpr ⟨fun k hk same => ?_, ih sorted within⟩
    obtain ⟨-, place, hp, stands⟩ := further.mem_iff.mp hk
    have places : streamAt commands t = streamAt commands place := here.trans (within place hp).symm
    obtain ⟨-, rfl⟩ := eq_of_apart .refl stands places (Nat.ne_of_lt (first place hp)) same
    exact first k hp
  | @anchor t i _ ts own order written inner further ih_inner ih_further =>
    obtain ⟨first, sorted⟩ := List.pairwise_cons.mp sorted
    obtain ⟨here, within⟩ := List.forall_mem_cons.mp within
    have own_pairwise := ih_inner times_pairwise fun _ => streamAt_of_mem_times
    refine List.pairwise_append.mpr ⟨own_pairwise, ih_further sorted within, ?_⟩
    intro k hk k' hk' same
    obtain ⟨line, t', ht', stands⟩ := inner.mem_iff.mp hk
    obtain ⟨-, place, hp, stands'⟩ := further.mem_iff.mp hk'
    obtain ⟨piece, hw⟩ := mem_times.mp ht'
    have places : streamAt commands t = streamAt commands place := here.trans (within place hp).symm
    -- Only the anchor itself could be a piece of a stream that has lines in both places.
    obtain ⟨rfl, -⟩ := eq_of_apart (.tail stands ⟨i, piece, _, hw, written⟩) stands' places
      (Nat.ne_of_lt (first place hp)) same
    rw [lineAt_of_anchor written] at line
    cases line

theorem append_inv (h : Places commands (ts ++ ts') order) :
    ∃ first second, order = first ++ second ∧ Places commands ts first ∧
      Places commands ts' second := by
  induction ts generalizing order with
  | nil => exact ⟨[], order, rfl, .nil, h⟩
  | cons t ts ih =>
    cases h with
    | line written further =>
      obtain ⟨first, second, rfl, h, h'⟩ := ih further
      exact ⟨_, second, rfl, .line written h, h'⟩
    | anchor written inner further =>
      obtain ⟨first, second, rfl, h, h'⟩ := ih further
      exact ⟨_, second, (List.append_assoc ..).symm, .anchor written inner h, h'⟩

/-- In a stream, the lines of a cursor stand between those from before its anchor and those from
after it. -/
theorem around_anchor {whole : List Nat} {first : Nat}
    (h : Places commands (times commands stream) whole)
    (written : writtenAt commands first = some ⟨stream, .anchor i⟩) :
    ∃ before part later, whole = before ++ part ++ later ∧
      Places commands (times commands (some i)) part ∧
      ∀ k t, (lineAt commands k).isSome → StandsAt commands k t → t ∈ times commands stream →
        (t < first → k ∈ before) ∧ (first < t → k ∈ later) := by
  obtain ⟨earlier, rest, split⟩ := List.append_of_mem (mem_times.mpr ⟨_, written⟩)
  have sorted : (times commands stream).Pairwise (· < ·) := times_pairwise
  rw [split] at h sorted
  obtain ⟨before, after_before, rfl, hb, h⟩ := h.append_inv
  cases h with
  | line written' => cases written.symm.trans written'
  | @anchor _ _ _ _ part later written' inner further =>
    cases written.symm.trans written'
    refine ⟨before, part, later, (List.append_assoc ..).symm, inner, fun k t line stands ht => ?_⟩
    obtain ⟨-, sorted_rest, ahead⟩ := List.pairwise_append.mp sorted
    rw [split, List.mem_append, List.mem_cons] at ht
    constructor
    · intro lt
      rcases ht with ht | rfl | ht
      · exact hb.mem_iff.mpr ⟨line, t, ht, stands⟩
      · exact absurd lt (Nat.lt_irrefl _)
      · exact absurd lt (Nat.not_lt_of_lt ((List.pairwise_cons.mp sorted_rest).1 t ht))
    · intro lt
      rcases ht with ht | rfl | ht
      · exact absurd lt (Nat.not_lt_of_lt (ahead t ht _ List.mem_cons_self))
      · exact absurd lt (Nat.lt_irrefl _)
      · exact further.mem_iff.mpr ⟨line, t, ht, stands⟩

/-- The lines of each stream stay together. -/
theorem contiguous (h : Places commands (times commands none) order) (stream : Option Nat)
    (known : ∀ i, stream = some i → i < (after commands).cursors.length) :
    ∃ before whole later, order = before ++ whole ++ later ∧
      Places commands (times commands stream) whole := by
  cases stream with
  | none => exact ⟨[], order, [], by simp, h⟩
  | some i =>
    induction i using Nat.strong_induction_on with
    | _ i ih =>
      obtain ⟨first, stream, written⟩ := exists_anchor (known i rfl)
      have outer : ∃ before whole later, order = before ++ whole ++ later ∧
          Places commands (times commands stream) whole := by
        cases stream with
        | none => exact ⟨[], order, [], by simp, h⟩
        | some j =>
          have earlier := stream_lt_anchor written
          refine ih j earlier fun j' hj => ?_
          cases hj
          exact Nat.lt_trans earlier (known i rfl)
      obtain ⟨before, whole, later, rfl, hw⟩ := outer
      obtain ⟨before', part, later', rfl, inner, -⟩ := hw.around_anchor written
      exact ⟨before ++ before', part, later' ++ later, by simp, inner⟩

end Places

section

variable {commands : List Command} {order : List Nat} {t t' i : Nat} {w : Write}

/-- Whatever is written stands in the place of a piece of the main stream. -/
theorem exists_root (h : writtenAt commands t = some w) :
    ∃ root ∈ times commands none, StandsAt commands t root := by
  obtain ⟨stream, piece⟩ := w
  induction hl : level stream using Nat.strong_induction_on generalizing t stream piece with
  | _ rank ih =>
    subst hl
    cases stream with
    | none => exact ⟨t, mem_times.mpr ⟨piece, h⟩, .refl⟩
    | some i =>
      have known : i < (after commands).cursors.length :=
        Nat.lt_of_lt_of_le (stream_lt (w := ⟨some i, piece⟩) h) (length_take_le commands t)
      obtain ⟨a, stream, ha⟩ := exists_anchor known
      have up : AnchoredAt commands t a := ⟨i, piece, stream, h, ha⟩
      have lower := up.level_lt
      rw [stream_eq h, stream_eq ha] at lower
      obtain ⟨root, hr, stands⟩ := ih _ lower _ _ ha rfl
      exact ⟨root, hr, .head up stands⟩

/-- A line stands in the place of something that is written. -/
theorem StandsAt.written (h : StandsAt commands t t') (line : (lineAt commands t).isSome) :
    t' ∈ times commands (streamAt commands t') := by
  have written : ∃ w, writtenAt commands t' = some w := by
    rcases ReflTransGen.cases_tail h with rfl | ⟨a, -, i, piece, stream, -, ha⟩
    · obtain ⟨text, hl⟩ := Option.isSome_iff_exists.mp line
      exact ⟨_, written_of_lineAt hl⟩
    · exact ⟨_, ha⟩
  obtain ⟨⟨stream, piece⟩, hw⟩ := written
  exact mem_times.mpr ⟨piece, by rw [hw, stream_eq hw]⟩

theorem arranges_of_places (h : Places commands (times commands none) order) :
    Arranges commands (after commands).render order := by
  have emitted (t : Nat) : t ∈ order ↔ (lineAt commands t).isSome := by
    rw [h.mem_iff, and_iff_left_iff_imp]
    intro line
    obtain ⟨text, hl⟩ := Option.isSome_iff_exists.mp line
    exact exists_root (written_of_lineAt hl)
  have ordered := h.pairwise times_pairwise fun _ => streamAt_of_mem_times
  have forward := forward_after commands
  refine ⟨?_, emitted, ordered.imp fun ahead same => ?_, ordered, ?_⟩
  · have main : (after commands).main.pieces = _ := pieces_after commands none
    have flattens := h.flattens
    rw [← main] at flattens
    exact forward.render_lines.unique flattens
  · subst same
    exact absurd (ahead rfl) (Nat.lt_irrefl _)
  · intro i name own hc
    obtain ⟨named, flattens⟩ := forward.render_cursor hc
    have known : i < (after commands).cursors.length := by
      rw [← length_names]
      exact (List.getElem?_eq_some_iff.mp named).1
    obtain ⟨first, stream, written⟩ := exists_anchor known
    obtain ⟨-, name', used, unused, named'⟩ := anchored written
    cases named.symm.trans named'
    obtain ⟨before, whole, later, rfl, hw⟩ := h.contiguous stream fun j hj =>
      Nat.lt_trans (stream_lt_anchor (hj ▸ written)) known
    obtain ⟨before', part, later', rfl, inner, around⟩ := hw.around_anchor written
    refine ⟨first, before ++ before', part, later' ++ later, used, unused, by simp, ?_, ?_, ?_⟩
    · exact flattens.unique (pieces_after commands (some i) ▸ inner.flattens)
    · intro t ht
      have line := (emitted t).mp ht
      have whole := (Places.anchor written inner .nil).mem_iff (k := t)
      simpa [line] using whole
    · intro t ht t' stands same
      have line := (emitted t).mp ht
      have writes := stands.written line
      rw [same, stream_eq written] at writes
      obtain ⟨ahead, behind⟩ := around t t' line stands writes
      exact ⟨fun lt => List.mem_append_right _ (ahead lt),
        fun lt => List.mem_append_left _ (behind lt)⟩

theorem filterMap_lineAt (commands : List Command) :
    (List.range commands.length).filterMap (lineAt commands) =
      commands.filterMap Command.line? := by
  induction commands using List.reverseRecOn with
  | nil => rfl
  | append_singleton commands c ih =>
    rw [List.length_append, List.length_singleton, List.range_succ, List.filterMap_append,
      List.filterMap_append, ← ih]
    congr 1
    · apply List.filterMap_congr
      intro t ht
      rw [lineAt, lineAt, List.getElem?_append_left (List.mem_range.mp ht)]
    · cases hl : c.line? <;> simp [lineAt, hl]

/-- The document has the emitted lines, each as often as it was emitted. -/
theorem Arranges.perm {document : Document} (h : Arranges commands document order) :
    document.lines.Perm (commands.filterMap Command.line?) := by
  have all : order.Perm
      ((List.range commands.length).filter fun t => (lineAt commands t).isSome) := by
    refine (List.perm_ext_iff_of_nodup h.once (List.nodup_range.filter _)).mpr fun t => ?_
    rw [h.emitted, List.mem_filter, iff_and_self]
    intro line
    obtain ⟨text, hl⟩ := Option.isSome_iff_exists.mp line
    exact List.mem_range.mpr (lt_of_writtenAt (written_of_lineAt hl))
  rw [h.lines, ← filterMap_lineAt]
  refine (all.filterMap _).trans (.of_eq ?_)
  rw [List.filterMap_filter]
  apply List.filterMap_congr
  intro t _
  cases lineAt commands t <;> rfl

end

/-- Whatever a fresh directory is told to do, to render it comes to an end, and the document has the
emitted lines and no others, each as often as it was emitted. The cursors have distinct names and
stand in the order of their first use. The lines are arranged by the cursors. -/
theorem render_arranges (commands : List Command) :
    Flattens (after commands).cursors (after commands).main.pieces
        (after commands).render.lines ∧
      (∀ (i : Nat) (name : Text) (own : List Text),
        (after commands).render.cursors[i]? = some (name, own) →
          Flattens (after commands).cursors ((after commands).pieces (some i)) own) ∧
      (after commands).render.lines.Perm (commands.filterMap Command.line?) ∧
      (after commands).render.cursors.map Prod.fst =
        (commands.filterMap Command.name?).eraseDups ∧
      ((after commands).render.cursors.map Prod.fst).Nodup ∧
      ∃ order, Arranges commands (after commands).render order := by
  have forward := forward_after commands
  obtain ⟨order, places⟩ := Places.exists_order commands
  have arranges := arranges_of_places places
  refine ⟨forward.render_lines, fun i name own hc => (forward.render_cursor hc).2, arranges.perm,
    ?_, ?_, order, arranges⟩
  · rw [render_names, names_after]
  · rw [render_names]
    exact names_nodup commands

/-- A cursor that is entered from inside itself is anchored only once. -/
example : (after [.enter ['c'], .emit ['1'], .enter ['c'], .leave, .leave, .leave, .emit ['2'],
    .switch ['c'], .emit ['3']]).render = ⟨[['1'], ['3'], ['2']], [(['c'], [['1'], ['3']])]⟩ := by
  decide

end LineTemplate.CursorDirectory
