import LineTemplate.Proofs.Sources.Files

/-!
# Capturing in sources

Whether a line is captured is decided by the whole stack of blocks that are being captured, and not
by what the source of the line has opened. It makes no difference: at most one block is captured at
a time, and only while the source that opened it reads its lines one after the other. `Alone` is the
invariant behind it. A source that is started from a line is started when nothing is captured, so
the floor of the captured blocks is zero in all sources.

Main statement: `captures_alone`.
-/

namespace LineTemplate

/-- Of a source, `n` lines have been read. The line with number `i` is the directive that opened a
block, and the lines after it are the body of that block. -/
structure Visit.Opened (env : Environment) (source : Visit) (n i : Nat) (c : Capture) : Prop where
  opener : ∃ line, source.line? i = some line ∧ c.openedAt = line.location ∧
    env.config.indicators.role line.text = some (c.head.kind, .opens)
  body : ∀ j line, c.body[j]? = some line → source.line? (i + 1 + j) = some line
  upTo : i + 1 + c.body.length = n

/-- The height that the captured blocks had when the source around a source began. -/
def Job.floor : Job → Nat
  | visit .. => 0
  | read outer .. => outer.floors.captures

theorem Job.floor_task (task : Task) : ∀ job ∈ task.jobs, job.floor = 0 := by
  cases task with
  | iterate iterations =>
    intro job member
    obtain ⟨r, -, rfl⟩ := List.mem_map.mp member
    rfl
  | none | call | includeFile => simp [Task.jobs, floor]

namespace Run

variable {env : Environment} {run run' : Run} {line : Line} {location : Location} {role : Role}
  {task : Task} {source : Visit} {n i : Nat} {c : Capture}

/-- The statement that a line holds is carried out. -/
def Dispatches (env : Environment) (run : Run) (line : Line) : Prop :=
  ∃ statement, run.classify env line.text = .ok statement ∧
    run.route env line = run.execute env statement line.location

theorem Action.captures_cases (h : Action env run location role run' task) :
    run'.captures = run.captures ∨ task = .none ∧ ∃ head active,
      role = some (head.kind, .opens) ∧
        run'.captures = run.captures.push { head, active, openedAt := location } := by
  cases h with
  | captureStarted head => exact .inr ⟨rfl, head, _, rfl, rfl⟩
  | _ => exact .inl rfl

/-- What a statement does is not what becomes of a line that is captured: there the innermost block
grows or goes away. -/
theorem Dispatches.uncaptured (h : Dispatches env run line) : run.captures.captures = [] := by
  obtain ⟨statement, -, same⟩ := h
  cases capturing : run.captures.captures with
  | nil => rfl
  | cons c rest =>
    exfalso
    rw [route_of_capturing capturing] at same
    have effect : Effect env run line _ _ := capture_effect capturing
    generalize run.capture env line = result at same effect
    obtain ⟨run', task⟩ := result
    have action := execute_action same.symm
    have below : ∃ above, run'.captures.captures = above ++ c :: rest := by
      rcases action.captures_cases with same | ⟨-, head, active, -, pushed⟩
      · exact ⟨[], same ▸ capturing⟩
      · exact ⟨[_], by rw [pushed, CaptureStack.push, capturing]; rfl⟩
    obtain ⟨above, below⟩ := below
    cases effect with
    | @captured c' rest' capturing' inside =>
      cases capturing.symm.trans capturing'
      have whole : [] ++ c.grow line _ :: rest = above ++ c :: rest := below
      have grown := (List.cons.inj (List.append_inj' whole rfl).2).1
      have longer := congrArg (fun c => c.newestFirst.length) grown
      rw [Capture.grow_newestFirst, List.length_cons] at longer
      omega
    | @completed c' rest' _ _ capturing' ends completes =>
      cases capturing.symm.trans capturing'
      obtain ⟨-, macros, rfl⟩ := complete_task completes
      have height := congrArg List.length below
      simp only [List.length_append, List.length_cons] at height
      omega
    | executed uncaptured => cases capturing.symm.trans uncaptured

end Run

namespace Visit.Opened

variable {env : Environment} {source : Visit} {n i : Nat} {c : Capture} {line : Line}

theorem start {head : CaptureHead} (active : Bool) (here : source.line? n = some line)
    (opens : env.config.indicators.role line.text = some (head.kind, .opens)) :
    Opened env source (n + 1) n { head, active, openedAt := line.location } :=
  ⟨⟨line, here, rfl, opens⟩, nofun, rfl⟩

theorem grow (h : Opened env source n i c) (here : source.line? n = some line) (role : Role) :
    Opened env source (n + 1) i (c.grow line role) where
  opener := h.opener
  body j later found := by
    have body : (c.grow line role).body = c.body ++ [line] := by
      simp [Capture.body]
    rw [body] at found
    rcases Nat.lt_or_ge j c.body.length with earlier | last
    · rw [List.getElem?_append_left earlier] at found
      exact h.body j later found
    · rw [List.getElem?_append_right last, List.getElem?_singleton] at found
      split at found
      · rename_i zero
        cases found
        rw [show i + 1 + j = n by have := h.upTo; omega]
        exact here
      · cases found
  upTo := by
    have upTo := h.upTo
    simp only [Capture.body, Capture.grow_newestFirst, List.length_reverse,
      List.length_cons] at upTo ⊢
    omega

end Visit.Opened

namespace Progress

/-- At most one block is captured, by the source that is being read and that opened it. The floors
are zero, now and in all sources around the current one. -/
structure Alone (env : Environment) (p : Progress) : Prop where
  single : p.run.captures.captures.length ≤ 1
  floor : p.run.floors.captures = 0
  outer : ∀ job ∈ p.jobs, job.floor = 0
  opened : ∀ c ∈ p.run.captures.captures, ∃ outer source n levels jobs i,
    p.jobs = .read outer source n levels :: jobs ∧ source.Opened env n i c

namespace Alone

variable {env : Environment} {root : FileVisit} {p q : Progress}

theorem initial (root : FileVisit) (settings : Settings) :
    Alone env { jobs := [.visit (.file root) 0], run := { settings } } :=
  ⟨Nat.zero_le _, rfl, by simp [Job.floor], nofun⟩

theorem only (h : Alone env p) {c : Capture} {rest : List Capture}
    (capturing : p.run.captures.captures = c :: rest) : rest = [] := by
  have single := h.single
  rw [capturing, List.length_cons] at single
  exact List.eq_nil_of_length_eq_zero (by omega)

/-- Where nothing is being read, nothing is captured. -/
theorem uncaptured (h : Alone env p)
    (unread : ∀ outer source n levels jobs, p.jobs ≠ .read outer source n levels :: jobs) :
    p.run.captures.captures = [] := by
  refine List.eq_nil_iff_forall_not_mem.mpr fun c member => ?_
  obtain ⟨outer, source, n, levels, jobs, i, current, -⟩ := h.opened c member
  exact unread outer source n levels jobs current

theorem step (framed : Framed root p) (h : Alone env p) (step : Steps env p q) : Alone env q := by
  cases step with
  | ended => exact h
  | @started source levels jobs run run' history hs =>
    obtain ⟨files, scopes, margin, rfl⟩ := Run.start_ok hs
    have idle : run.captures.captures = [] := h.uncaptured nofun
    obtain ⟨-, others⟩ := List.forall_mem_cons.mp h.outer
    exact
      { single := h.single
        floor := congrArg List.length idle
        outer := List.forall_mem_cons.mpr ⟨h.floor, others⟩
        opened := fun c member => absurd (idle ▸ member) List.not_mem_nil }
  | @read outer run taken routed source n levels jobs history line task next hr =>
    have before : run.files.frames = source.frames n ++ jobs.flatMap Job.frames := framed.frames
    obtain ⟨here, -, files, rfl⟩ := Run.next?_ok before next
    obtain ⟨first, others⟩ := List.forall_mem_cons.mp h.outer
    have floors : routed.floors = run.floors := (Run.effect_of_route hr).keeps.floors
    have lower : ∀ job ∈ task.jobs ++ .read outer source (n + 1) levels :: jobs, job.floor = 0 :=
      List.forall_mem_append.mpr ⟨Job.floor_task task, List.forall_mem_cons.mpr ⟨first, others⟩⟩
    have alone {captures : List Capture} (now : routed.captures.captures = captures)
        (single : captures.length ≤ 1)
        (opened : ∀ c ∈ captures, task = .none ∧ ∃ i, source.Opened env (n + 1) i c) :
        Alone env ⟨task.jobs ++ .read outer source (n + 1) levels :: jobs, routed,
          history ++ [⟨{ run with files }, line, jobs.length⟩]⟩ := by
      refine ⟨now ▸ single, floors ▸ h.floor, lower, fun c member => ?_⟩
      obtain ⟨rfl, i, known⟩ := opened c (now ▸ member)
      exact ⟨_, source, n + 1, levels, jobs, i, rfl, known⟩
    cases Run.effect_of_route hr with
    | @captured c rest capturing inside =>
      obtain rfl : rest = [] := h.only capturing
      obtain ⟨_, _, _, _, _, i, current, opened⟩ := h.opened c (capturing ▸ List.mem_cons_self)
      cases current
      refine alone rfl (Nat.le_refl 1) fun c' member => ?_
      obtain rfl := List.mem_singleton.mp member
      exact ⟨rfl, i, opened.grow here _⟩
    | @completed c rest _ _ capturing ends completes =>
      obtain rfl : rest = [] := h.only capturing
      obtain ⟨-, macros, rfl⟩ := Run.complete_task completes
      exact alone rfl (Nat.zero_le 1) nofun
    | executed idle action =>
      rcases action.captures_cases with same | ⟨none, head, active, opens, pushed⟩
      · have now : routed.captures.captures = [] := by rw [same]; exact idle
        exact alone now (Nat.zero_le 1) nofun
      · have now : routed.captures.captures =
            [{ head, active, openedAt := line.location }] := by
          rw [pushed, CaptureStack.push, idle]
        refine alone now (Nat.le_refl 1) fun c member => ?_
        obtain rfl := List.mem_singleton.mp member
        exact ⟨none, n, .start active here opens⟩
  | @finished outer run run' source n levels jobs history atEnd hf =>
    obtain ⟨closed, files, scopes, rfl⟩ := Run.finish_ok hf
    obtain ⟨noCapture, -⟩ := Run.openBlock?_eq_none.mp closed
    rw [show run.floors.captures = 0 from h.floor] at noCapture
    have idle : run.captures.captures = [] :=
      List.eq_nil_of_length_eq_zero (Nat.le_zero.mp noCapture)
    obtain ⟨first, others⟩ := List.forall_mem_cons.mp h.outer
    exact
      { single := h.single
        floor := first
        outer := others
        opened := fun c member => absurd (idle ▸ member) List.not_mem_nil }

end Alone

end Progress

namespace Engine

open Progress

/-- What holds of captured blocks at every moment of a run, also of one that fails later. -/
structure CapturesAlone (engine : Engine) (key : Text) (source : Source) (origin : Location) :
    Prop where
  /-- The engine goes through the moments of which the others speak. -/
  moments : ∃ n, (∀ p, engine.moment key source origin n = .ok p → p.jobs = []) ∧
    engine.renderSource key source origin =
      (engine.moment key source origin n).map fun p =>
        { document := p.run.cursors.render, evaluations := p.run.evaluations }
  /-- At most one block is captured. -/
  single : ∀ n p, engine.moment key source origin n = .ok p → p.run.captures.depth ≤ 1
  /-- The floor is zero, so the whole stack is what the current source has opened. -/
  floor : ∀ n p, engine.moment key source origin n = .ok p → p.run.floors.captures = 0 ∧
    (p.run.captures.isCapturing = true ↔ p.run.floors.captures < p.run.captures.depth)
  /-- Nothing is captured when an iteration of a loop, a call or an include starts. -/
  starts : ∀ n p nested levels jobs, engine.moment key source origin n = .ok p →
    p.jobs = .visit nested levels :: jobs → p.run.captures.captures = []
  /-- Nothing is captured when a statement is carried out. -/
  dispatches : ∀ n p reading, engine.moment key source origin n = .ok p →
    p.upcoming? = some reading → reading.run.Dispatches engine.env reading.line →
      reading.run.captures.captures = []
  /-- A line is captured by a block that its own source opened, in an earlier line. The lines
  between them are those that the block has captured before. -/
  own : ∀ n p reading c, engine.moment key source origin n = .ok p →
    p.upcoming? = some reading → c ∈ reading.run.captures.captures →
      ∃ outer current k levels jobs i, p.jobs = .read outer current k levels :: jobs ∧
        current.line? k = some reading.line ∧ current.Opened engine.env k i c

/-- Whatever is rendered, one block is captured at a time, by the source that opened it. -/
theorem captures_alone (engine : Engine) (key : Text) (source : Source) (origin : Location) :
    engine.CapturesAlone key source origin := by
  let root : FileVisit := { key, source, margin := [], origin }
  have invariant (n : Nat) (p : Progress) (reached : engine.moment key source origin n = .ok p) :
      Framed root p ∧ Alone engine.env p :=
    after_induction (P := fun p => Framed root p ∧ Alone engine.env p)
      ⟨.initial root engine.settings, .initial root engine.settings⟩
      (fun _ _ ⟨framed, alone⟩ step => ⟨framed.step step, alone.step framed step⟩) reached
  constructor
  case moments => exact engine.renderSource_eq_moment key source origin
  case single =>
    intro n p reached
    exact (invariant n p reached).2.single
  case floor =>
    intro n p reached
    obtain ⟨-, alone⟩ := invariant n p reached
    refine ⟨alone.floor, ?_⟩
    rw [alone.floor, CaptureStack.isCapturing, Bool.not_eq_true', List.isEmpty_eq_false_iff]
    exact List.length_pos_iff.symm
  case starts =>
    intro n p nested levels jobs reached starting
    exact (invariant n p reached).2.uncaptured fun _ _ _ _ _ current => by
      cases starting.symm.trans current
  case dispatches =>
    intro n p reading _ _ dispatched
    exact dispatched.uncaptured
  case own =>
    intro n p reading c reached upcoming member
    obtain ⟨framed, alone⟩ := invariant n p reached
    obtain ⟨outer, current, k, levels, jobs, reads, -, next⟩ := eq_of_upcoming upcoming
    have before : p.run.files.frames = current.frames k ++ jobs.flatMap Job.frames := by
      rw [framed.frames, reads]
      rfl
    obtain ⟨here, -, files, taken⟩ := Run.next?_ok before next
    rw [taken] at member
    obtain ⟨_, _, _, _, _, i, reads', opened⟩ := alone.opened c member
    cases reads.symm.trans reads'
    exact ⟨outer, current, k, levels, jobs, i, reads, here, opened⟩

end Engine

end LineTemplate
