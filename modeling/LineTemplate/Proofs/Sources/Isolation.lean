import LineTemplate.Proofs.Lines.Shelter
import LineTemplate.Proofs.Sources.Reading

/-!
# Isolation

A source that ends leaves its surroundings as it found them: the stacks, the files with what they
have still to supply, the margin and the depth. `InSource` is the invariant between the lines of a
source. A line keeps it as long as the sources that the line starts are isolated in turn, and at the
end of the source it says that the surroundings are back.
-/

namespace LineTemplate

/-- What a source must not change for the source around it. -/
structure Surroundings where
  conditionals : ConditionalStack
  captures : CaptureStack
  selected : List Nat
  files : FileStack
  scopes : Scopes
  floors : Floors
  margin : Text
  depth : Nat

namespace Visit

/-- The layers that a source puts on top of the scopes. -/
def layers : Visit → List Layer
  | replay r => [r.layer]
  | file _ => []

/-- The frames that a source puts on top of the files, after `n` of its lines. -/
def frames (n : Nat) : Visit → List FileFrame
  | replay _ => []
  | file f => [{ path := f.key, unread := f.source.drop n, lineNumber := n }]

def margin : Visit → Text
  | replay r => r.margin
  | file f => f.margin

/-- The line of a source that comes after `n` others. -/
def line? (source : Visit) (n : Nat) : Option Line :=
  match source with
  | replay r => r.body[n]?
  | file f =>
    match f.source[n]? with
    | some (.ok text) => some ⟨text, ⟨f.key, n + 1⟩⟩
    | _ => none

end Visit

namespace Run

/-- The part of a run that belongs to the source that is being read. -/
def surroundings (run : Run) : Surroundings where
  conditionals := run.conditionals
  captures := run.captures
  selected := run.cursors.selected
  files := run.files
  scopes := run.scopes
  floors := run.floors
  margin := run.margin
  depth := run.depth

/-- A way to visit a source that leaves its surroundings as they were. -/
def Restores (visitor : Run → Outcome) : Prop :=
  ∀ run after, run.captures.captures = [] → visitor run = .ok after →
    after.surroundings = run.surroundings

/-- A way to visit sources that leaves the surroundings of each as they were. -/
def Isolates (visitor : Run → Visit → Outcome) : Prop :=
  ∀ source, Restores (visitor · source)

/-- A state in which `n` lines of a source have been read that was started in the state `outer`. -/
structure InSource (outer : Run) (source : Visit) (n : Nat) (run : Run) : Prop where
  conditionals : outer.conditionals.chains <:+ run.conditionals.chains
  selections : outer.cursors.selected <:+ run.cursors.selected
  captures : run.captures.Within n
  files : run.files.frames = source.frames n ++ outer.files.frames
  scopes : run.scopes = source.layers ++ outer.scopes
  floors : run.floors = outer.heights
  margin : run.margin = source.margin
  depth : run.depth = outer.depth

section

variable {outer started run taken run' finished after : Run} {source : Visit} {line : Line}
  {n : Nat}

theorem start_inSource (uncaptured : outer.captures.captures = [])
    (h : outer.start source = .ok started) : InSource outer source 0 started := by
  cases source with
  | replay r =>
    cases h
    exact
      { conditionals := List.suffix_refl _, selections := List.suffix_refl _
        captures := CaptureStack.within_of_nil uncaptured 0
        files := rfl, scopes := rfl, floors := rfl, margin := rfl, depth := rfl }
  | file f =>
    obtain ⟨files, hp, h⟩ := Outcome.bind_eq_ok.mp h
    cases h
    have pushed : files = ⟨{ path := f.key, unread := f.source } :: outer.files.frames⟩ := by
      replace hp := located_eq_ok.mp hp
      unfold FileStack.push? at hp
      split at hp
      · cases hp
      · exact (Except.ok.inj hp).symm
    exact
      { conditionals := List.suffix_refl _, selections := List.suffix_refl _
        captures := CaptureStack.within_of_nil uncaptured 0
        files := by rw [pushed]; rfl
        scopes := rfl, floors := rfl, margin := rfl, depth := rfl }

/-- A source whose frames are on top supplies its next line, and only its read position moves. -/
theorem next?_ok {frames : List FileFrame} (h : run.files.frames = source.frames n ++ frames)
    (next : source.next? n run = some (.ok line, taken)) :
    source.line? n = some line ∧ taken.files.frames = source.frames (n + 1) ++ frames ∧
      ∃ files, taken = { run with files } := by
  cases source with
  | replay r =>
    obtain ⟨l, hl, he⟩ := Option.map_eq_some_iff.mp next
    cases he
    exact ⟨hl, h, run.files, rfl⟩
  | file f =>
    unfold Visit.next? at next
    simp only [FileStack.next, h, Visit.frames, List.cons_append, List.nil_append] at next
    cases unread : f.source.drop n with
    | nil => simp [unread] at next
    | cons supplied rest =>
      have here : f.source[n]? = some supplied := by rw [← List.head?_drop, unread, List.head?_cons]
      -- The frame of the file holds what is left of it after `n` lines.
      have rest_eq : f.source.drop (n + 1) = rest := by
        rw [← List.tail_drop, unread, List.tail_cons]
      rw [unread] at next
      cases supplied with
      | error cause => simp at next
      | ok text =>
        simp only [Option.some.injEq, Prod.mk.injEq, Except.ok.injEq] at next
        obtain ⟨rfl, rfl⟩ := next
        refine ⟨?_, by simp [Visit.frames, rest_eq], _, rfl⟩
        simp only [Visit.line?, here]
        rfl

theorem lt_size_of_line? (h : source.line? n = some line) : n < source.size := by
  cases source with
  | replay r => exact (List.getElem?_eq_some_iff.mp h).1
  | file f =>
    cases here : f.source[n]? with
    | none => simp [Visit.line?, here] at h
    | some supplied => exact (List.getElem?_eq_some_iff.mp here).1

/-- To take a line changes the read position of the source and nothing else. -/
theorem InSource.next (h : InSource outer source n run)
    (next : source.next? n run = some (.ok line, taken)) :
    n < source.size ∧ taken.files.frames = source.frames (n + 1) ++ outer.files.frames ∧
      ∃ files, taken = { run with files } := by
  obtain ⟨here, frames, moved⟩ := next?_ok h.files next
  exact ⟨lt_size_of_line? here, frames, moved⟩

/-- A line that keeps what is sheltered leads from one state of the source to the next one. -/
theorem InSource.advance (h : InSource outer source n run)
    (next : source.next? n run = some (.ok line, taken)) (keeps : Keeps taken run')
    (depth : run'.depth = taken.depth) (captures : run'.captures.Within (n + 1)) :
    InSource outer source (n + 1) run' := by
  obtain ⟨-, frames, files, rfl⟩ := h.next next
  exact
    { conditionals := keeps.conditionals _ h.conditionals (by rw [h.floors]; exact Nat.le_refl _)
      selections := keeps.selections _ h.selections (by rw [h.floors]; exact Nat.le_refl _)
      captures
      files := keeps.files ▸ frames
      scopes := keeps.scopes.trans h.scopes
      floors := keeps.floors.trans h.floors
      margin := keeps.margin.trans h.margin
      depth := depth.trans h.depth }

/-- A source can only be left if all blocks that were opened in it are closed. -/
theorem InSource.leave (h : InSource outer source n finished) {floors : Floors}
    {location : Location} {left : Run} (uncaptured : outer.captures.captures = [])
    (hl : finished.leave floors location = .ok left) :
    left.conditionals = outer.conditionals ∧ left.captures = outer.captures ∧
      left.cursors.selected = outer.cursors.selected ∧ left.files = finished.files ∧
      left.scopes = finished.scopes ∧ left.floors = floors ∧ left.depth = finished.depth := by
  obtain ⟨closed, rfl⟩ := leave_eq_ok.mp hl
  obtain ⟨noCapture, noChain⟩ := openBlock?_eq_none.mp closed
  rw [h.floors] at noCapture noChain
  have chains : finished.conditionals.chains = outer.conditionals.chains :=
    (h.conditionals.eq_of_length_le noChain).symm
  have captures : finished.captures.captures = outer.captures.captures := by
    rw [heights, CaptureStack.depth, CaptureStack.depth, uncaptured] at noCapture
    rw [uncaptured]
    exact List.eq_nil_of_length_eq_zero (Nat.le_zero.mp noCapture)
  refine ⟨congrArg ConditionalStack.mk chains, congrArg CaptureStack.mk captures, ?_, rfl, rfl, rfl,
    rfl⟩
  dsimp only
  rw [h.floors]
  exact CursorDirectory.selected_truncate h.selections

theorem InSource.finish (h : InSource outer source n finished)
    (uncaptured : outer.captures.captures = [])
    (hf : outer.finish finished source = .ok after) :
    after.surroundings = outer.surroundings := by
  cases source with
  | replay r =>
    obtain ⟨left, hl, hf⟩ := Outcome.bind_eq_ok.mp hf
    cases hf
    obtain ⟨hcond, hcapt, hsel, hfiles, hscopes, hfloors, hdepth⟩ := h.leave uncaptured hl
    have frames : left.files = outer.files := by
      rw [hfiles]
      exact congrArg FileStack.mk h.files
    simp [surroundings, hcond, hcapt, hsel, frames, hscopes, h.scopes, Visit.layers, hfloors,
      hdepth, h.depth]
  | file f =>
    obtain ⟨left, hl, hf⟩ := Outcome.bind_eq_ok.mp hf
    cases hf
    obtain ⟨hcond, hcapt, hsel, hfiles, hscopes, hfloors, hdepth⟩ := h.leave uncaptured hl
    have popped : (left.files.pop?.map (·.2)).getD left.files = outer.files := by
      rw [hfiles]
      simp [FileStack.pop?, h.files, Visit.frames]
    simp only [popped]
    simp [surroundings, hcond, hcapt, hsel, hscopes, h.scopes, Visit.layers, hfloors, hdepth,
      h.depth]

end

/-! ## Lines and visits -/

section

variable {env : Environment} {loops deeper : Run → Visit → Outcome} {run run' after : Run}
  {line : Line} {task : Task} {n bound : Nat}

theorem iterate_surroundings (hl : Isolates loops) {iterations : List Replay}
    (uncaptured : run.captures.captures = [])
    (h : iterations.foldlM (fun run r => loops run (.replay r)) run = .ok after) :
    after.surroundings = run.surroundings := by
  refine Outcome.foldlM_preserves (P := fun next => next.surroundings = run.surroundings) ?_ rfl h
  intro reached r next same hr
  have captures : reached.captures = run.captures := congrArg Surroundings.captures same
  have idle : reached.captures.captures = [] := by rw [captures, uncaptured]
  exact (hl (.replay r) reached next idle hr).trans same

/-- A task leaves the surroundings as they were, but for the levels that it went down. -/
theorem perform_surroundings (hl : Isolates loops) (hd : Isolates deeper)
    (uncaptured : task ≠ .none → run.captures.captures = [])
    (h : run.perform loops deeper task = .ok after) :
    after.surroundings = { run.surroundings with depth := run.depth - task.levels } := by
  cases task with
  | none =>
    cases h
    rfl
  | iterate iterations =>
    have idle : run.captures.captures = [] := uncaptured nofun
    exact iterate_surroundings hl idle h
  | call | includeFile =>
    obtain ⟨ended, hv, rfl⟩ := Outcome.map_eq_ok.mp h
    have same := hd _ _ _ (uncaptured nofun) hv
    have depth : ended.depth = run.depth := congrArg Surroundings.depth same
    change { ended.surroundings with depth := ended.depth - 1 } = _
    rw [same, depth]
    rfl

theorem process_keeps (hl : Isolates loops) (hd : Isolates deeper)
    (within : run.captures.Within n) (h : process env loops deeper run line = .ok run') :
    Keeps run run' ∧ run'.depth = run.depth ∧ run'.captures.Within (n + 1) := by
  obtain ⟨⟨routed, task⟩, hr, hp⟩ := Outcome.bind_eq_ok.mp h
  have effect := effect_of_route hr
  -- The levels that the line goes down are those that its task comes up again.
  have same := perform_surroundings hl hd (effect.uncaptured within.single) hp
  have depth : run'.depth = run.depth := by
    rw [show run'.depth = routed.depth - task.levels from congrArg Surroundings.depth same,
      effect.depth]
    omega
  have captures : run'.captures = routed.captures := congrArg Surroundings.captures same
  have kept : Keeps routed run' :=
    keeps_of_stacks_eq (congrArg Surroundings.conditionals same)
      (congrArg Surroundings.selected same) (congrArg Surroundings.files same)
      (congrArg Surroundings.scopes same) (congrArg Surroundings.floors same)
      (congrArg Surroundings.margin same)
  exact ⟨effect.keeps.trans kept, depth, captures ▸ effect.captures within⟩

/-- The invariant holds between all lines of a source, if every line keeps what is sheltered. -/
theorem Reads.inSource {does : Run → Line → Run → Prop} {outer started : Run} {source : Visit}
    (keeps : ∀ {n run line run'}, run.captures.Within n → does run line run' →
      Keeps run run' ∧ run'.depth = run.depth ∧ run'.captures.Within (n + 1))
    (uncaptured : outer.captures.captures = []) (hs : outer.start source = .ok started)
    (h : Reads does source started n run) : InSource outer source n run := by
  induction h with
  | start => exact start_inSource uncaptured hs
  | @line n run taken run' line before next done ih =>
    obtain ⟨-, -, files, rfl⟩ := ih.next next
    have within : ({ run with files } : Run).captures.Within n := ih.captures
    obtain ⟨kept, depth, captures⟩ := keeps within done
    exact ih.advance next kept depth captures

theorem visit_isolates (hl : Isolates loops) (hd : Isolates deeper) :
    Isolates (visit (process env loops deeper) bound) := by
  intro source run after uncaptured h
  obtain ⟨started, last, finished, hs, reads, -, hf⟩ := visit_ok h
  exact (reads.inSource (process_keeps hl hd) uncaptured hs).finish uncaptured hf

/-- Whatever the bounds are, every source is isolated. -/
theorem visitWithin_isolates (hd : Isolates deeper) (room : Nat) :
    Isolates (visitWithin env deeper room) :=
  visitWithin_induction (Q := fun _ visitor => Restores visitor) nofun
    (fun _ _ hl => visit_isolates hl hd) room

theorem visitBelow_isolates (levels : Nat) : Isolates (visitBelow env levels) :=
  visitBelow_induction (Q := fun _ visitor => Restores visitor) nofun
    (fun _ _ _ hl hd => visit_isolates hl hd) levels

theorem stepWithin_keeps {levels room : Nat} (within : run.captures.Within n)
    (h : stepWithin env levels room run line = .ok run') :
    Keeps run run' ∧ run'.depth = run.depth ∧ run'.captures.Within (n + 1) :=
  process_keeps (visitWithin_isolates (visitBelow_isolates levels) room)
    (visitBelow_isolates levels) within h

end

/-! ## Floors

The floors are put back at the end of every source, also of one that starts while a body is
captured. -/

/-- A way to visit a source that leaves the floors as they were. -/
def KeepsFloors (visitor : Run → Outcome) : Prop :=
  ∀ run after, visitor run = .ok after → after.floors = run.floors

section

variable {env : Environment} {step : Run → Line → Outcome} {loops deeper : Run → Visit → Outcome}
  {run finished after : Run} {source : Visit} {bound levels room : Nat}

theorem finish_floors (h : run.finish finished source = .ok after) : after.floors = run.floors := by
  obtain ⟨-, files, scopes, rfl⟩ := finish_ok h
  rfl

theorem visit_floors : KeepsFloors (visit step bound · source) := by
  intro run after h
  obtain ⟨started, last, finished, -, -, -, hf⟩ := visit_ok h
  exact finish_floors hf

theorem visitWithin_floors (room : Nat) (source : Visit) :
    KeepsFloors (visitWithin env deeper room · source) := by
  cases room with
  | zero => exact nofun
  | succ room => exact visit_floors

theorem visitBelow_floors (levels : Nat) (source : Visit) :
    KeepsFloors (visitBelow env levels · source) := by
  cases levels with
  | zero => exact nofun
  | succ levels => exact visitWithin_floors _ source

section

variable (hl : ∀ source, KeepsFloors (loops · source))
  (hd : ∀ source, KeepsFloors (deeper · source))

include hl hd

theorem perform_floors {task : Task} (h : run.perform loops deeper task = .ok after) :
    after.floors = run.floors := by
  cases task with
  | none =>
    cases h
    rfl
  | iterate iterations =>
    exact Outcome.foldlM_preserves (P := fun next => next.floors = run.floors)
      (fun reached r next same hr => (hl (.replay r) reached next hr).trans same) rfl h
  | call | includeFile =>
    obtain ⟨ended, hv, rfl⟩ := Outcome.map_eq_ok.mp h
    have same := hd _ _ _ hv
    exact same

theorem process_floors {line : Line} (h : process env loops deeper run line = .ok after) :
    after.floors = run.floors := by
  obtain ⟨⟨routed, task⟩, hr, hp⟩ := Outcome.bind_eq_ok.mp h
  exact (perform_floors hl hd hp).trans (effect_of_route hr).keeps.floors

end

theorem stepWithin_floors {line : Line} (h : stepWithin env levels room run line = .ok after) :
    after.floors = run.floors :=
  process_floors (visitWithin_floors room) (visitBelow_floors levels) h

theorem lines_floors {lines : List Line}
    (h : lines.foldlM (stepWithin env levels room) run = .ok after) :
    after.floors = run.floors :=
  Outcome.foldlM_preserves (P := fun next => next.floors = run.floors)
    (fun _ _ _ same hp => (stepWithin_floors hp).trans same) rfl h

end

end Run

end LineTemplate
