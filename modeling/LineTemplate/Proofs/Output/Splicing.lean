import LineTemplate.Proofs.Output.History

/-!
# Splicing

To render a directory, the lines of each cursor are put in the place of its anchor, those of the
cursors anchored in it among them. Nothing says so of an arbitrary directory that this comes to an
end. In one that some commands have made, an anchor belongs to a later cursor than the stream does
that holds it, so that it does (`forward_after`).
-/

namespace LineTemplate

/-- The lines for which some pieces stand. An anchor stands for the lines of its cursor. -/
inductive Flattens (cursors : List Cursor) : List Piece → List Text → Prop where
  | nil : Flattens cursors [] []
  | line {text : Text} {pieces : List Piece} {lines : List Text}
      (further : Flattens cursors pieces lines) :
    Flattens cursors (.line text :: pieces) (text :: lines)
  | anchor {i : Nat} {c : Cursor} {pieces : List Piece} {own lines : List Text}
      (found : cursors[i]? = some c) (inner : Flattens cursors c.buffer.pieces own)
      (further : Flattens cursors pieces lines) :
    Flattens cursors (.anchor i :: pieces) (own ++ lines)

theorem Flattens.unique {cursors : List Cursor} {pieces : List Piece} {lines lines' : List Text}
    (h : Flattens cursors pieces lines) (h' : Flattens cursors pieces lines') : lines = lines' := by
  induction h generalizing lines' with
  | nil =>
    cases h'
    rfl
  | line further ih =>
    cases h' with
    | line further' => rw [ih further']
  | anchor found inner further ih_inner ih_further =>
    cases h' with
    | anchor found' inner' further' =>
      cases found.symm.trans found'
      rw [ih_inner inner', ih_further further']

namespace CursorDirectory

/-- Anchors belong to cursors that there are, and to later ones than the stream does. -/
def Forward (d : CursorDirectory) : Prop :=
  ∀ stream i, .anchor i ∈ d.pieces stream → i < d.cursors.length ∧ ∀ j, stream = some j → j < i

section

variable {cursors : List Cursor} {later : List (List Text)} {next : Nat}

/-- `later` holds the lines of the cursors from the number `next` on. -/
def Holds (cursors : List Cursor) (next : Nat) (later : List (List Text)) : Prop :=
  ∀ i c, next ≤ i → cursors[i]? = some c →
    ∃ own, later[i - next]? = some own ∧ Flattens cursors c.buffer.pieces own

theorem splice_flattens (holds : Holds cursors next later) {pieces : List Piece}
    (forward : ∀ i, .anchor i ∈ pieces → i < cursors.length ∧ next ≤ i) :
    Flattens cursors pieces (splice next later pieces) := by
  induction pieces with
  | nil => exact .nil
  | cons piece pieces ih =>
    have further := ih fun i hi => forward i (List.mem_cons_of_mem _ hi)
    cases piece with
    | line text => exact .line further
    | anchor i =>
      obtain ⟨short, far⟩ := forward i List.mem_cons_self
      have found : cursors[i]? = some cursors[i] := List.getElem?_eq_getElem short
      obtain ⟨own, hl, inner⟩ := holds i _ far found
      have spliced : splice next later (.anchor i :: pieces) = own ++ splice next later pieces := by
        simp [splice, Nat.not_lt.mpr far, hl]
      rw [spliced]
      exact .anchor found inner further

/-- Each cursor only needs the lines of the later ones. -/
theorem ownLines_holds
    (forward : ∀ j c i, cursors[j]? = some c → .anchor i ∈ c.buffer.pieces →
      i < cursors.length ∧ j < i) {rest : List Cursor} (drop : cursors.drop next = rest) :
    Holds cursors next (ownLines next rest) := by
  induction rest generalizing next with
  | nil =>
    intro i c far found
    have short : i < cursors.length := (List.getElem?_eq_some_iff.mp found).1
    have long : cursors.length ≤ next := List.drop_eq_nil_iff.mp drop
    omega
  | cons first rest ih =>
    have drop' : cursors.drop (next + 1) = rest := by
      rw [← List.tail_drop, drop, List.tail_cons]
    have found' : cursors[next]? = some first := by
      rw [← List.head?_drop, drop, List.head?_cons]
    have holds := ih drop'
    intro i c far found
    rw [ownLines]
    rcases Nat.eq_or_lt_of_le far with rfl | further
    · cases found'.symm.trans found
      refine ⟨_, by rw [Nat.sub_self]; rfl, splice_flattens holds fun i hi => ?_⟩
      exact forward next first i found' hi
    · obtain ⟨own, hl, inner⟩ := holds i c further found
      refine ⟨own, ?_, inner⟩
      rw [show i - next = i - (next + 1) + 1 by omega, List.getElem?_cons_succ]
      exact hl

end

section

variable {d : CursorDirectory} {i : Nat} {name : Text} {own : List Text}

theorem length_ownLines (next : Nat) (cursors : List Cursor) :
    (ownLines next cursors).length = cursors.length := by
  induction cursors generalizing next with
  | nil => rfl
  | cons c rest ih => rw [ownLines, List.length_cons, List.length_cons, ih]

theorem Forward.ownLines_holds (h : d.Forward) :
    Holds d.cursors 0 (ownLines 0 d.cursors) := by
  refine CursorDirectory.ownLines_holds (fun j c i found hi => ?_) List.drop_zero
  have held : .anchor i ∈ d.pieces (some j) := by simpa [pieces, found] using hi
  exact ⟨(h _ i held).1, (h _ i held).2 j rfl⟩

theorem Forward.render_lines (h : d.Forward) :
    Flattens d.cursors d.main.pieces d.render.lines :=
  splice_flattens h.ownLines_holds fun i hi => ⟨(h none i hi).1, Nat.zero_le i⟩

theorem Forward.render_cursor (h : d.Forward) (hc : d.render.cursors[i]? = some (name, own)) :
    d.names[i]? = some name ∧ Flattens d.cursors (d.pieces (some i)) own := by
  obtain ⟨named, hown⟩ := List.getElem?_zip_eq_some.mp hc
  refine ⟨named, ?_⟩
  obtain ⟨c, found, -⟩ := Option.map_eq_some_iff.mp ((List.getElem?_map ..).symm.trans named)
  obtain ⟨own', hl, inner⟩ := h.ownLines_holds i c (Nat.zero_le i) found
  cases hl.symm.trans hown
  simpa [pieces, found] using inner

theorem render_names (d : CursorDirectory) : d.render.cursors.map Prod.fst = d.names := by
  unfold render
  apply List.map_fst_zip
  rw [length_ownLines, List.length_map]

end

section

variable {commands : List Command} {t i : Nat} {stream : Option Nat}

theorem anchor_lt (h : writtenAt commands t = some ⟨stream, .anchor i⟩) :
    i < (after commands).cursors.length := by
  obtain ⟨-, name, -, -, named⟩ := anchored h
  rw [← length_names]
  exact (List.getElem?_eq_some_iff.mp named).1

theorem stream_lt_anchor {j : Nat} (h : writtenAt commands t = some ⟨some j, .anchor i⟩) :
    j < i := by
  rw [(anchored h).1]
  exact stream_lt (w := ⟨some j, .anchor i⟩) h

theorem forward_after (commands : List Command) : (after commands).Forward := by
  intro stream i hi
  rw [pieces_after] at hi
  obtain ⟨t, ht, hp⟩ := List.mem_filterMap.mp hi
  obtain ⟨piece, hw⟩ := mem_times.mp ht
  simp only [hw, Option.map_some, Option.some.injEq] at hp
  subst hp
  refine ⟨anchor_lt hw, ?_⟩
  rintro j rfl
  exact stream_lt_anchor hw

end

end CursorDirectory

end LineTemplate
