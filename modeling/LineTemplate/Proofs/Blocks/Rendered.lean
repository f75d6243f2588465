import LineTemplate.Proofs.Blocks.Outline

/-!
# Templates that are rendered

While a source is read, its outline can be followed, and the source can only be left if nothing is
open in it. So a template that is rendered is nested well where the bodies of loops and macros are
passed over; those are not looked into unless they are replayed (`renderSource_skims`).
-/

namespace LineTemplate

def Indicators.forms (ind : Indicators) (texts : List Text) : List Form :=
  texts.map ind.form

/-- The lines of a source, without what cannot be read. -/
def Source.texts (source : Source) : List Text :=
  source.filterMap Except.toOption

@[simp] theorem Source.texts_map_ok (texts : List Text) :
    Source.texts (texts.map .ok) = texts := by
  induction texts with
  | nil => rfl
  | cons text texts ih => exact congrArg (text :: ·) ih

/-- What a source supplies after the first `n` lines. -/
def Visit.unread (n : Nat) : Visit → Source
  | replay r => (r.body.drop n).map fun line => .ok line.text
  | file f => f.source.drop n

def Visit.texts (n : Nat) (source : Visit) : List Text :=
  (source.unread n).texts

@[simp] theorem Visit.texts_replay (n : Nat) (r : Replay) :
    (replay r).texts n = (r.body.drop n).map Line.text := by
  have lines := Source.texts_map_ok ((r.body.drop n).map Line.text)
  rwa [List.map_map] at lines

namespace Run

section

variable {env : Environment} {outer run run' taken : Run} {line : Line} {source : Visit} {n : Nat}

/-- The line that is taken is the first one of those that are left. -/
theorem InSource.unread_cons (h : InSource outer source n run)
    (next : source.next? n run = some (.ok line, taken)) :
    source.unread n = .ok line.text :: source.unread (n + 1) := by
  cases source with
  | replay r =>
    obtain ⟨l, hl, he⟩ := Option.map_eq_some_iff.mp next
    cases he
    obtain ⟨short, rfl⟩ := List.getElem?_eq_some_iff.mp hl
    rw [Visit.unread, Visit.unread, List.drop_eq_getElem_cons short, List.map_cons]
  | file f =>
    dsimp only [Visit.next?] at next
    simp only [FileStack.next, h.files, Visit.frames, List.cons_append, List.nil_append] at next
    rw [Visit.unread, Visit.unread, ← List.tail_drop]
    cases unread : f.source.drop n with
    | nil => simp [unread] at next
    | cons supplied rest =>
      rw [unread] at next
      cases supplied with
      | error cause => simp at next
      | ok text =>
        simp only [Option.some.injEq, Prod.mk.injEq, Except.ok.injEq] at next
        rw [← next.1, List.tail_cons]

theorem InSource.texts_cons (h : InSource outer source n run)
    (next : source.next? n run = some (.ok line, taken)) :
    source.texts n = line.text :: source.texts (n + 1) := by
  rw [Visit.texts, h.unread_cons next]
  rfl

theorem InSource.unread_nil (h : InSource outer source n run)
    (atEnd : source.next? n run = none) : source.unread n = [] := by
  cases source with
  | replay r =>
    have long : r.body.length ≤ n := by simpa [Visit.next?] using atEnd
    rw [Visit.unread, List.drop_eq_nil_of_le long, List.map_nil]
  | file f =>
    dsimp only [Visit.next?] at atEnd
    simp only [FileStack.next, h.files, Visit.frames, List.cons_append, List.nil_append] at atEnd
    rw [Visit.unread]
    cases unread : f.source.drop n with
    | nil => rfl
    | cons supplied rest =>
      rw [unread] at atEnd
      cases supplied <;> simp at atEnd

theorem InSource.texts_nil (h : InSource outer source n run) (atEnd : source.next? n run = none) :
    source.texts n = [] := by
  rw [Visit.texts, h.unread_nil atEnd]
  rfl

/-! ## Templates that are rendered -/

variable {loops deeper : Run → Visit → Outcome} {base : List Chain} {s : Outline}

theorem Outlined.single (h : Outlined base s run) : run.captures.captures.length ≤ 1 := by
  rw [← List.length_map Capture.scanned, h.captures]
  cases s.skipped <;> simp

/-- A line that succeeds leaves the outline that follows from its form, with all that it starts. -/
theorem process_outlines (hl : Isolates loops) (hd : Isolates deeper) (h : Outlined base s run)
    (done : process env loops deeper run line = .ok run') :
    ∃ s', s.next (env.config.indicators.form line.text) = some s' ∧ Outlined base s' run' := by
  obtain ⟨⟨routed, task⟩, hr, hp⟩ := Outcome.bind_eq_ok.mp done
  obtain ⟨s', next, outlined⟩ := route_outlines h hr
  have same := perform_surroundings hl hd ((effect_of_route hr).uncaptured h.single) hp
  exact ⟨s', next, outlined.of_eq (congrArg Surroundings.conditionals same)
    (congrArg Surroundings.floors same) (congrArg Surroundings.captures same)⟩

theorem start_outlined {started : Run} (uncaptured : outer.captures.captures = [])
    (hs : outer.start source = .ok started) :
    Outlined outer.conditionals.chains {} started := by
  cases source with
  | replay r =>
    cases hs
    exact ⟨⟨[], rfl, rfl⟩, rfl, by simp [uncaptured]⟩
  | file f =>
    obtain ⟨files, -, hs⟩ := Outcome.bind_eq_ok.mp hs
    cases hs
    exact ⟨⟨[], rfl, rfl⟩, rfl, by simp [uncaptured]⟩

/-- As far as a source has been read, it is readable and its outline can be followed. -/
theorem Reads.skeleton {started : Run} (hl : Isolates loops) (hd : Isolates deeper)
    (uncaptured : outer.captures.captures = []) (hs : outer.start source = .ok started)
    (reads : Reads (Does (process env loops deeper)) source started n run) :
    ∃ s, Outlined outer.conditionals.chains s run ∧
      (source.unread n = (source.texts n).map .ok → source.unread 0 = (source.texts 0).map .ok) ∧
      (s.Skeleton (env.config.indicators.forms (source.texts n)) →
        Outline.Skeleton {} (env.config.indicators.forms (source.texts 0))) := by
  -- That the rest of the source is as it has to be is only known at its end, so both facts are
  -- carried back from the rest to the whole.
  induction reads with
  | start => exact ⟨{}, start_outlined uncaptured hs, id, id⟩
  | @line n run taken run' line before next done ih =>
    obtain ⟨s, outlined, readable, follow⟩ := ih
    have inSource := before.inSource (process_keeps hl hd) uncaptured hs
    have unread := inSource.unread_cons next
    have texts := inSource.texts_cons next
    obtain ⟨-, -, files, rfl⟩ := inSource.next next
    have taken : Outlined outer.conditionals.chains s { run with files } :=
      outlined.of_eq rfl rfl rfl
    obtain ⟨s', hn, outlined'⟩ := process_outlines hl hd taken done
    refine ⟨s', outlined', fun rest => readable ?_, fun skeleton => follow ?_⟩
    · rw [unread, texts, rest, List.map_cons]
    · rw [texts]
      exact skeleton.cons hn

theorem Outlined.eq_empty (h : Outlined base s run) (uncaptured : run.captures.captures = [])
    (low : run.conditionals.depth ≤ run.floors.conditionals) : s = {} := by
  have none_open : s.chains = [] := List.eq_nil_of_length_eq_zero (by rw [h.depth] at low; omega)
  have skipped := h.uncaptured_iff.mp uncaptured
  obtain ⟨chains, _⟩ := s
  subst none_open skipped
  rfl

/-- A source can only be left with nothing open. -/
theorem Outlined.closed {after : Run} (h : Outlined base s run)
    (inSource : InSource outer source n run) (uncaptured : outer.captures.captures = [])
    (hf : outer.finish run source = .ok after) : s = {} := by
  obtain ⟨noCapture, noChain⟩ := openBlock?_eq_none.mp (finish_ok hf).1
  rw [inSource.floors, heights, CaptureStack.depth, CaptureStack.depth, uncaptured] at noCapture
  exact h.eq_empty (List.eq_nil_of_length_eq_zero (Nat.le_zero.mp noCapture)) noChain

/-- A source that is rendered is nested well where bodies are passed over, and all of it can be
read. -/
theorem visit_skims {bound : Nat} {after : Run} (hl : Isolates loops) (hd : Isolates deeper)
    (uncaptured : run.captures.captures = [])
    (done : run.visit (process env loops deeper) bound source = .ok after) :
    source.unread 0 = (source.texts 0).map .ok ∧
      ∃ rest, Skims (env.config.indicators.forms (source.texts 0)) rest ∧
        Nested .block rest := by
  obtain ⟨started, last, finished, hs, reads, atEnd, hf⟩ := visit_ok done
  have inSource := reads.inSource (process_keeps hl hd) uncaptured hs
  obtain ⟨s, outlined, readable, follow⟩ := reads.skeleton hl hd uncaptured hs
  cases outlined.closed inSource uncaptured hf
  rw [inSource.texts_nil atEnd] at follow
  refine ⟨readable ?_, Outline.nested_of_skeleton (follow Outline.skeleton_nil)⟩
  rw [inSource.unread_nil atEnd, inSource.texts_nil atEnd]
  rfl

end

end Run

theorem Engine.renderSource_skims {engine : Engine} {key : Text} {source : Source}
    {origin : Location} {rendering : Rendering}
    (done : engine.renderSource key source origin = .ok rendering) :
    source = source.texts.map .ok ∧
      ∃ rest, Skims (engine.env.config.indicators.forms source.texts) rest ∧
        Nested .block rest := by
  obtain ⟨after, hv, -⟩ := Outcome.map_eq_ok.mp done
  have isolates : Run.Isolates (Run.visitBelow engine.env engine.env.config.maxDepth) :=
    Run.visitBelow_isolates _
  exact Run.visit_skims (Run.visitWithin_isolates isolates _) isolates rfl hv

end LineTemplate
