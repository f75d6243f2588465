import LineTemplate.Proofs.Blocks.Balance
import LineTemplate.Proofs.Sources.Passing
import Mathlib

/-!
# Captured bodies

The lines between a directive that opens a loop or macro and the one that closes it are captured,
whatever they are: only the directives of the same kind are counted. `Matched` says of lines that
these directives match in them, which is a matter of the text alone.

A loop stands for its body, once for each row (`loop_replays_body`).
-/

namespace LineTemplate

namespace Nesting

/-- The blocks of a kind that are open after some lines of a body, given by their roles. -/
def within (kind : BlockKind) (inner : Nat) (roles : List Role) : Option Nat :=
  roles.foldlM (fun inner role => (skip kind inner role).map Prod.snd) inner

@[simp] theorem within_nil (kind : BlockKind) (inner : Nat) : within kind inner [] = some inner :=
  rfl

theorem skip_kind {kind kind' : BlockKind} {inner inner' : Nat} {role : Role}
    (h : skip kind inner role = some (kind', inner')) : kind' = kind := by
  unfold skip at h
  split at h
  · cases inner with
    | zero => cases h
    | succ inner =>
      cases h
      rfl
  · split at h <;>
      (cases h
       rfl)

theorem within_cons_eq_some {kind : BlockKind} {inner last : Nat} {role : Role}
    {roles : List Role} : within kind inner (role :: roles) = some last ↔
      ∃ inner', skip kind inner role = some (kind, inner') ∧
        within kind inner' roles = some last := by
  simp only [within, List.foldlM_cons, Option.bind_eq_bind, Option.bind_eq_some_iff,
    Option.map_eq_some_iff]
  constructor
  · rintro ⟨inner', ⟨⟨kind', _⟩, hs, rfl⟩, further⟩
    obtain rfl := skip_kind hs
    exact ⟨_, hs, further⟩
  · rintro ⟨inner', hs, further⟩
    exact ⟨inner', ⟨_, hs, rfl⟩, further⟩

end Nesting

/-- The lines of these roles close all blocks of a kind that they open, and no others of it. -/
def Matched (kind : BlockKind) (roles : List Role) : Prop :=
  Nesting.within kind 0 roles = some 0

instance (kind : BlockKind) (roles : List Role) : Decidable (Matched kind roles) :=
  inferInstanceAs (Decidable (_ = _))

namespace Capture

variable {c : Capture} {role : Role} {inner : Nat}

/-- The body ends where a scan stops to count. -/
theorem endsAt_of_skip (h : Nesting.skip c.head.kind c.depth role = some (c.head.kind, inner)) :
    c.endsAt role = false := by
  cases ends : c.endsAt role with
  | false => rfl
  | true => simp [skip_of_endsAt ends] at h

theorem grow_of_skip (h : Nesting.skip c.head.kind c.depth role = some (c.head.kind, inner))
    (line : Line) :
    c.grow line role = { c with newestFirst := line :: c.newestFirst, depth := inner } := by
  have outline : some (c.grow line role).outline = some (c.head.kind, inner) :=
    (outline_grow (endsAt_of_skip h)).trans h
  have depth : (c.grow line role).depth = inner := congrArg Prod.snd (Option.some.inj outline)
  rw [← depth]
  rfl

end Capture

namespace Run

/-- The visits that a loop consists of: its body for each row, the rows numbered in order. -/
def iterations (loopVariable : Text) (records : List Record) (body : List Line) (margin : Text)
    (origin : Location) : List Replay :=
  records.mapIdx fun index record =>
    { body, margin, origin
      layer := Layer.forRecord loopVariable record index records.length }

section

variable {env : Environment} {loops deeper : Run → Visit → Outcome} {run run' final : Run}
  {line : Line} {lines : List Line} {c : Capture} {rest : List Capture} {inner : Nat}

theorem process_inside (capturing : run.captures.captures = c :: rest)
    (h : Nesting.skip c.head.kind c.depth (env.config.indicators.role line.text) =
      some (c.head.kind, inner)) :
    process env loops deeper run line =
      .ok { run with captures :=
        ⟨{ c with newestFirst := line :: c.newestFirst, depth := inner } :: rest⟩ } := by
  have captured := capture_of_inside capturing (Capture.endsAt_of_skip h)
  rw [Capture.grow_of_skip h] at captured
  rw [process, route_of_capturing capturing, captured]
  rfl

theorem process_ends (capturing : run.captures.captures = c :: rest)
    (ends : c.endsAt (env.config.indicators.role line.text) = true) :
    process env loops deeper run line =
      ({ run with captures := ⟨rest⟩ }.complete c line.location).1.perform loops deeper
        ({ run with captures := ⟨rest⟩ }.complete c line.location).2 := by
  rw [process, route_of_capturing capturing, capture_of_ends capturing ends]
  rfl

/-- Lines in which the directives of the captured kind match are captured as they are. -/
theorem body_captured {source : Visit} {n : Nat}
    (capturing : run.captures.captures = c :: rest)
    (matched : Nesting.within c.head.kind c.depth
      (lines.map fun line => env.config.indicators.role line.text) = some inner)
    (h : Passes (process env loops deeper) source n run lines final) :
    ∃ files, (∀ r, source = .replay r → files = run.files) ∧
      final = { run with
        files
        captures :=
          ⟨{ c with newestFirst := lines.reverse ++ c.newestFirst, depth := inner } :: rest⟩ } := by
  induction lines generalizing n run c with
  | nil =>
    cases h
    cases matched
    refine ⟨_, fun _ _ => rfl, ?_⟩
    rw [List.reverse_nil, List.nil_append, ← capturing]
  | cons line lines ih =>
    obtain ⟨inner', hs, further⟩ := Nesting.within_cons_eq_some.mp matched
    obtain ⟨files, run', same, done, h⟩ := h.cons_inv
    have capturing' : ({ run with files } : Run).captures.captures = c :: rest := capturing
    rw [process_inside capturing' hs] at done
    cases done
    obtain ⟨files', same', rfl⟩ := ih rfl further h
    refine ⟨files', fun r hr => (same' r hr).trans (same r hr), ?_⟩
    rw [List.reverse_cons, List.append_assoc, List.singleton_append]

theorem process_loop {raw loopVariable : Text} {expression : Option Text}
    (done : process env loops deeper run line = .ok run')
    (uncaptured : run.captures.isCapturing = false) (live : run.conditionals.isActive = true)
    (meaning : run.classify env line.text =
      .ok ⟨raw, .directive .loop (some loopVariable) expression⟩) :
    Text.isName loopVariable = true ∧
      ∃ resolved, Record.resolve? env.tables (run.visible env) (loopSource (expression.getD [])) =
          .ok resolved ∧
        run' = run.startCapture (.loop loopVariable (resolved.getD [])) true line.location := by
  obtain ⟨⟨routed, task⟩, hr, hp⟩ := Outcome.bind_eq_ok.mp done
  rw [route, if_neg (by simp [uncaptured]), meaning] at hr
  obtain ⟨next, hn, he⟩ := Outcome.map_eq_ok.mp hr
  cases he
  cases hp
  replace hn := located_eq_ok.mp hn
  unfold openLoop at hn
  split at hn
  · cases hn
  · rename_i named
    split at hn
    · cases hn
    · rename_i records hrec
      cases hn
      obtain ⟨resolved, hres, rfl⟩ := Outcome.map_eq_ok.mp hrec
      exact ⟨by simpa using named, resolved, hres, by rw [live]; rfl⟩

theorem complete_loop {loopVariable : Text} {records : List Record} {location : Location}
    (head : c.head = .loop loopVariable records) (active : c.active = true) :
    run.complete c location =
      (run, .iterate (iterations loopVariable records c.body run.margin location)) := by
  unfold complete
  simp only [active, head]
  rfl

end

/-- The body of a loop is replayed where the loop is closed. -/
theorem process_loop_end {loopVariable : Text} {records : List Record} {location : Location}
    {levels room : Nat} {body : List Line} (uncaptured : run.captures.captures = [])
    (closes : env.config.indicators.role line.text = some (.loop, .closes))
    (done : stepWithin env levels room
      { run with captures :=
        ⟨[⟨.loop loopVariable records, true, location, body.reverse, 0⟩]⟩ } line = .ok final) :
    (iterations loopVariable records body run.margin line.location).foldlM
        (fun run r => visitWithin env (visitBelow env levels) room run (.replay r)) run =
      .ok final := by
  have ends : (⟨.loop loopVariable records, true, location, body.reverse, 0⟩ : Capture).endsAt
      (env.config.indicators.role line.text) = true := by
    simp [Capture.endsAt, closes, CaptureHead.kind]
  have whole : (⟨.loop loopVariable records, true, location, body.reverse, 0⟩ : Capture).body =
      body := List.reverse_reverse body
  rw [stepWithin, process_ends rfl ends, complete_loop rfl rfl, whole, ← uncaptured] at done
  exact done

/-- A loop in live text stands for its body. If its lines succeed, its rows were found in the state
before the loop, and the state after it is the one to which the body leads when it is replayed for
the rows in order, each time from where the time before ended. What the lines of the body mean plays
no part, as long as the directives of loops match in them. -/
theorem loop_replays_body {env : Environment} {levels room n : Nat} {source : Visit}
    {run final : Run} {head last : Line} {body : List Line} {raw loopVariable : Text}
    {expression : Option Text}
    (uncaptured : run.captures.isCapturing = false) (live : run.conditionals.isActive = true)
    (opens : run.classify env head.text =
      .ok ⟨raw, .directive .loop (some loopVariable) expression⟩)
    (matched : Matched .loop (body.map fun line => env.config.indicators.role line.text))
    (closes : env.config.indicators.role last.text = some (.loop, .closes))
    (done : Passes (stepWithin env levels room) source n run (head :: (body ++ [last])) final) :
    Text.isName loopVariable = true ∧
      ∃ resolved, Record.resolve? env.tables (run.visible env) (loopSource (expression.getD [])) =
          .ok resolved ∧
        (iterations loopVariable (resolved.getD []) body run.margin last.location).foldlM
            (fun run r => visitWithin env (visitBelow env levels) room run (.replay r))
            { run with files := final.files } = .ok final ∧
        (resolved.getD [] = [] → final = { run with files := final.files }) ∧
        ∀ r, source = .replay r → final.files = run.files := by
  have idle := run.captures.isCapturing_eq_false_iff.mp uncaptured
  obtain ⟨files, opened, same, hp, done⟩ := done.cons_inv
  have opens' : ({ run with files } : Run).classify env head.text =
      .ok ⟨raw, .directive .loop (some loopVariable) expression⟩ := opens
  obtain ⟨named, resolved, hres, rfl⟩ := process_loop hp uncaptured live opens'
  obtain ⟨captured, hb, done⟩ := done.append_inv
  have capturing : ({ run with files }.startCapture (.loop loopVariable (resolved.getD [])) true
      head.location).captures.captures =
        [⟨.loop loopVariable (resolved.getD []), true, head.location, [], 0⟩] :=
    congrArg (List.cons _) idle
  obtain ⟨files', same', whole⟩ := body_captured capturing matched hb
  obtain ⟨files'', final', same'', hp, done⟩ := done.cons_inv
  cases done
  rw [whole, List.append_nil] at hp
  have replayed :
      (iterations loopVariable (resolved.getD []) body run.margin last.location).foldlM
          (fun run r => visitWithin env (visitBelow env levels) room run (.replay r))
          { run with files := files'' } = .ok final :=
    process_loop_end idle closes hp
  have isolates : Isolates (visitBelow env levels) := visitBelow_isolates levels
  have surroundings : final.surroundings = ({ run with files := files'' } : Run).surroundings :=
    iterate_surroundings (visitWithin_isolates isolates room) idle replayed
  have kept : final.files = files'' := congrArg Surroundings.files surroundings
  rw [← kept] at replayed
  refine ⟨named, resolved, hres, replayed, ?_, ?_⟩
  · intro none
    rw [none] at replayed
    exact (Except.ok.inj replayed).symm
  · intro r hr
    rw [kept, same'' r hr, whole]
    exact (same' r hr).trans (same r hr)

/-- An environment in which every table has two rows. -/
def rowsEnv : Environment where
  config := {}
  loader := Loader.ofMemory ⟨[]⟩
  tables := fun _ => some [Record.ofScalar ['x'], Record.ofScalar ['y']]
  evaluator := fun _ _ => .ok true

def rowsLine (n : Nat) (text : String) : Line :=
  ⟨text.toList, ⟨['t'], n⟩⟩

/-- A body that holds a loop without rows, which holds a line that means nothing. -/
def rowsBody : List Line :=
  [rowsLine 2 "_v", rowsLine 3 "_LOOP w in []", rowsLine 4 "_#NO", rowsLine 5 "_END_LOOP"]

def rowsLines : List Line :=
  rowsLine 1 "_LOOP v over rows" :: (rowsBody ++ [rowsLine 6 "_END_LOOP"])

def rowsReplay : Replay where
  body := rowsLines
  layer := ⟨[]⟩
  margin := []
  origin := ⟨['t'], 0⟩

def rowsRun : Run := { settings := {} }

def rowsFinal : Run :=
  { rowsRun with cursors := (rowsRun.cursors.emit ['x']).emit ['y'] }

theorem loop_replays_body_rows : Text.isName ['v'] = true ∧
    ∃ resolved, Record.resolve? rowsEnv.tables (rowsRun.visible rowsEnv)
        (loopSource ((some "over rows".toList).getD [])) = .ok resolved ∧
      (iterations ['v'] (resolved.getD []) rowsBody rowsRun.margin ⟨['t'], 6⟩).foldlM
          (fun run r => visitWithin rowsEnv (visitBelow rowsEnv 0) 1 run (.replay r))
          { rowsRun with files := rowsFinal.files } = .ok rowsFinal ∧
      (resolved.getD [] = [] → rowsFinal = { rowsRun with files := rowsFinal.files }) ∧
      ∀ r, Visit.replay rowsReplay = .replay r → rowsFinal.files = rowsRun.files := by
  have opens : rowsRun.classify rowsEnv (rowsLine 1 "_LOOP v over rows").text =
      .ok ⟨"_LOOP v over rows".toList,
        .directive .loop (some ['v']) (some "over rows".toList)⟩ := by cbv
  have matched : Matched .loop
      (rowsBody.map fun line => rowsEnv.config.indicators.role line.text) := by cbv
  have closes : rowsEnv.config.indicators.role (rowsLine 6 "_END_LOOP").text =
      some (.loop, .closes) := by cbv
  have drop : rowsReplay.body.drop 0 = rowsLines ++ [] := by cbv
  have done : Passes (stepWithin rowsEnv 0 1) (.replay rowsReplay) 0 rowsRun rowsLines rowsFinal :=
    .of_foldlM drop (by cbv)
  exact loop_replays_body rfl rfl opens matched closes done

end Run

end LineTemplate
