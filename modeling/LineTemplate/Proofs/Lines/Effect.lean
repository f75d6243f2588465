import LineTemplate.Proofs.Lines.Outcome
import LineTemplate.Proofs.Lines.Role
import LineTemplate.Run.Route

/-!
# The effect of a line

All that a single line can do to a run, as one relation: `Effect env run line run' task` has a case
for each thing that can happen, with the guards under which it happens. `effect_of_route` says that
a line that succeeds has one of these effects. What holds of every line is proved from the relation,
so nothing else has to look into the routing of lines.
-/

namespace LineTemplate.Run

open ConditionalStack (Chain.pending)

/-- What a statement does outside of a captured body, by its role. -/
inductive Action (env : Environment) (run : Run) (location : Location) :
    Role → Run → Task → Prop where
  /-- Dead text. -/
  | idle (dead : run.conditionals.isActive = false) : Action env run location none run .none
  | emitted (live : run.conditionals.isActive = true) (line : Text) :
    Action env run location none { run with cursors := run.cursors.emit line } .none
  | entered (live : run.conditionals.isActive = true) (name : Text) :
    Action env run location none { run with cursors := run.cursors.enter name } .none
  | switched (live : run.conditionals.isActive = true)
      (own : run.floors.selections < run.cursors.selectionDepth) (name : Text) :
    Action env run location none { run with cursors := run.cursors.switch name } .none
  | left {i : Nat} {rest : List Nat} (live : run.conditionals.isActive = true)
      (own : run.floors.selections < run.cursors.selectionDepth)
      (selected : run.cursors.selected = i :: rest) :
    Action env run location none
      { run with cursors := { run.cursors with selected := rest } } .none
  | assigned (live : run.conditionals.isActive = true) (name value : Text) :
    Action env run location none { run with settings := run.settings.define name value } .none
  /-- A chain is opened. In dead text nothing is asked, and the chain is dead. -/
  | opened {expression : Option Text} {holds : Bool} (asked : List Evaluation)
      (unasked : run.conditionals.isActive = false → holds = false ∧ asked = []) :
    Action env run location (some (.conditional, .opens))
      { run with
        conditionals := run.conditionals.push expression holds
        decided := asked ++ run.decided } .none
  /-- A chain of this source goes on. Where its condition plays no role, nothing is asked, and the
  branch is dead. -/
  | continued {chain next : Chain} {rest : List Chain} (asked : List Evaluation)
      (top : run.conditionals.chains = chain :: rest)
      (own : run.floors.conditionals ≤ rest.length)
      (further : chain.branch ≠ .otherwise)
      (parent : next.parentActive = chain.parentActive)
      (unasked : Chain.pending chain = false → next.taken = false ∧ asked = []) :
    Action env run location (some (.conditional, .continues))
      { run with conditionals := ⟨next :: rest⟩, decided := asked ++ run.decided } .none
  | ended {chain : Chain} {rest : List Chain}
      (top : run.conditionals.chains = chain :: rest)
      (own : run.floors.conditionals ≤ rest.length) :
    Action env run location (some (.conditional, .closes))
      { run with conditionals := ⟨rest⟩ } .none
  | captureStarted (head : CaptureHead) :
    Action env run location (some (head.kind, .opens))
      (run.startCapture head run.conditionals.isActive location) .none
  | called (live : run.conditionals.isActive = true) (shallow : run.depth < env.config.maxDepth)
      (r : Replay) :
    Action env run location none { run with depth := run.depth + 1 } (.call r)
  | included (live : run.conditionals.isActive = true) (shallow : run.depth < env.config.maxDepth)
      (f : FileVisit) :
    Action env run location none { run with depth := run.depth + 1 } (.includeFile f)

/-- What a line does. -/
inductive Effect (env : Environment) (run : Run) (line : Line) : Run → Task → Prop where
  /-- The line goes into the body that is captured. -/
  | captured {c : Capture} {rest : List Capture}
      (capturing : run.captures.captures = c :: rest)
      (inside : c.endsAt (env.config.indicators.role line.text) = false) :
    Effect env run line
      { run with captures := ⟨c.grow line (env.config.indicators.role line.text) :: rest⟩ } .none
  /-- The line ends the body that is captured. -/
  | completed {c : Capture} {rest : List Capture} {run' : Run} {task : Task}
      (capturing : run.captures.captures = c :: rest)
      (ends : c.endsAt (env.config.indicators.role line.text) = true)
      (completes : { run with captures := ⟨rest⟩ }.complete c line.location = (run', task)) :
    Effect env run line run' task
  | executed {run' : Run} {task : Task}
      (uncaptured : run.captures.captures = [])
      (action : Action env run line.location (env.config.indicators.role line.text) run' task) :
    Effect env run line run' task

/-! ## The functions behind the actions -/

section

variable {env : Environment} {run run' : Run} {location : Location} {task : Task}

theorem emit_ok {raw : Text} (h : run.emit env raw = .ok run') :
    ∃ line, run' = { run with cursors := run.cursors.emit line } := by
  unfold emit at h
  split at h
  · cases h
  · cases h
    exact ⟨_, rfl⟩

theorem open?_ok {s s' : ConditionalStack} {expression : Option Text}
    {condition : Except Fault Bool} (h : s.open? expression condition = .ok s') :
    ∃ holds, s' = s.push expression holds ∧ (s.isActive = true → condition = .ok holds) ∧
      (s.isActive = false → holds = false) := by
  rw [ConditionalStack.open?_eq] at h
  by_cases live : s.isActive = true
  · rw [if_pos live] at h
    obtain ⟨holds, hc, rfl⟩ := Outcome.map_eq_ok.mp h
    exact ⟨holds, rfl, fun _ => hc, by simp [live]⟩
  · rw [if_neg live] at h
    cases h
    exact ⟨false, rfl, fun l => absurd l live, fun _ => rfl⟩

theorem continuable_ok {s : ConditionalStack} {floor : Nat} {outside afterLast : BlockFault}
    {chain : Chain} {rest : List Chain}
    (h : s.continuable floor outside afterLast = .ok (chain, rest)) :
    s.chains = chain :: rest ∧ floor ≤ rest.length ∧ chain.branch ≠ .otherwise := by
  unfold ConditionalStack.continuable at h
  split at h
  · cases h
  · rename_i deep
    split at h
    · cases h
    · rename_i top
      split at h
      · cases h
      · rename_i further
        cases h
        simp only [ConditionalStack.depth, top, List.length_cons, Nat.not_le] at deep
        exact ⟨top, Nat.le_of_lt_succ deep, further⟩

theorem close?_ok {s rest : ConditionalStack} {floor : Nat} {chain : Chain}
    (h : s.close? floor = .ok (chain, rest)) :
    s.chains = chain :: rest.chains ∧ floor ≤ rest.chains.length := by
  rw [ConditionalStack.close?_eq] at h
  split at h
  · cases h
  · rename_i deep
    split at h
    · cases h
    · rename_i top
      cases h
      simp only [ConditionalStack.depth, top, List.length_cons, Nat.not_le] at deep
      exact ⟨top, Nat.le_of_lt_succ deep⟩

theorem moveCursor_action {op : CursorOp} {name : Text} {name? rest? : Option Text}
    (h : run.moveCursor op name run.conditionals.isActive = .ok run') :
    Action env run location (Content.cursor op name? rest?).role run' .none := by
  unfold moveCursor at h
  cases op with
  | query =>
    obtain ⟨s, hs, rfl⟩ := Outcome.map_eq_ok.mp h
    obtain ⟨holds, rfl, -, hdead⟩ := open?_ok hs
    exact .opened [] fun dead => ⟨hdead dead, rfl⟩
  | enter =>
    cases live : run.conditionals.isActive <;> simp only [live] at h <;> cases h
    · exact .idle live
    · exact .entered live name
  | switch =>
    cases live : run.conditionals.isActive <;> simp only [live] at h <;> cases h
    · exact .idle live
    · by_cases own : run.floors.selections < run.cursors.selectionDepth
      · simp only [if_pos own, ite_true]
        exact .switched live own name
      · simp only [if_neg own, ite_true]
        exact .entered live name
  | leave =>
    cases live : run.conditionals.isActive with
    | false =>
      simp only [live] at h
      cases h
      exact .idle live
    | true =>
      by_cases own : run.floors.selections < run.cursors.selectionDepth
      · simp only [live, decide_eq_true own, Bool.not_true, Bool.false_eq_true, ite_false] at h
        obtain ⟨⟨left, cursors⟩, hl, rfl⟩ := Outcome.map_eq_ok.mp h
        unfold CursorDirectory.leave? at hl
        split at hl
        · cases hl
        · rename_i selected
          cases hl
          exact .left live own selected
      · simp [live, own] at h

theorem openIf_action {condition : Text} (h : run.openIf env condition location = .ok run') :
    Action env run location (some (.conditional, .opens)) run' .none := by
  unfold openIf at h
  cases live : run.conditionals.isActive with
  | false =>
    simp only [live, Bool.false_eq_true, ite_false] at h
    obtain ⟨s, hs, rfl⟩ := Outcome.map_eq_ok.mp h
    obtain ⟨holds, rfl, -, hdead⟩ := open?_ok (located_eq_ok.mp hs)
    exact .opened [] fun dead => ⟨hdead dead, rfl⟩
  | true =>
    simp only [live, ite_true, decide] at h
    obtain ⟨s, hs, rfl⟩ := Outcome.map_eq_ok.mp h
    obtain ⟨holds, rfl, -, -⟩ := open?_ok (located_eq_ok.mp hs)
    exact .opened [_] fun dead => by simp [live] at dead

theorem openTest_action {holds : Bool} (h : run.openTest holds = .ok run') :
    Action env run location (some (.conditional, .opens)) run' .none := by
  obtain ⟨s, hs, rfl⟩ := Outcome.map_eq_ok.mp h
  obtain ⟨holds, rfl, -, hdead⟩ := open?_ok hs
  exact .opened [] fun dead => ⟨hdead dead, rfl⟩

/-- A further branch stands in the place of the branch before it. Where its condition plays no role
it is dead. -/
theorem elseIf?_ok {s s' : ConditionalStack} {floor : Nat} {expression : Text}
    {condition : Except Fault Bool} (h : s.elseIf? floor expression condition = .ok s') :
    ∃ chain rest next, s.continuable floor .elseIfWithoutIf .elseIfAfterElse = .ok (chain, rest) ∧
      s' = ⟨next :: rest⟩ ∧ next.branch = .elseIf ∧ next.parentActive = chain.parentActive ∧
      (Chain.pending chain = false → next.taken = false) := by
  rw [ConditionalStack.elseIf?_eq] at h
  split at h
  · cases h
  · rename_i chain rest hc
    dsimp only at h
    split at h
    · rename_i pending
      obtain ⟨taken, -, rfl⟩ := Outcome.map_eq_ok.mp h
      exact ⟨chain, rest, _, hc, rfl, rfl, rfl, fun unneeded => by simp [pending] at unneeded⟩
    · cases h
      exact ⟨chain, rest, _, hc, rfl, rfl, rfl, fun _ => rfl⟩

theorem asks_eq {s : ConditionalStack} {floor : Nat} {chain : Chain} {rest : List Chain}
    (h : s.continuable floor .elseIfWithoutIf .elseIfAfterElse = .ok (chain, rest)) :
    s.asks floor = Chain.pending chain := by
  unfold ConditionalStack.asks
  rw [h]

theorem elseIf_action {condition : Text} (h : run.elseIf env condition location = .ok run') :
    Action env run location (some (.conditional, .continues)) run' .none := by
  unfold elseIf at h
  cases asks : run.conditionals.asks run.floors.conditionals with
  | false =>
    simp only [asks, Bool.false_eq_true, ite_false] at h
    obtain ⟨s, hs, rfl⟩ := Outcome.map_eq_ok.mp h
    obtain ⟨chain, rest, next, hc, rfl, -, parent, dead⟩ := elseIf?_ok (located_eq_ok.mp hs)
    obtain ⟨top, own, further⟩ := continuable_ok hc
    exact .continued [] top own further parent fun unneeded => ⟨dead unneeded, rfl⟩
  | true =>
    simp only [asks, ite_true, decide] at h
    obtain ⟨s, hs, rfl⟩ := Outcome.map_eq_ok.mp h
    obtain ⟨chain, rest, next, hc, rfl, -, parent, -⟩ := elseIf?_ok (located_eq_ok.mp hs)
    obtain ⟨top, own, further⟩ := continuable_ok hc
    have pending : Chain.pending chain = true := (asks_eq hc).symm.trans asks
    exact .continued [_] top own further parent fun unneeded => by
      simp [pending] at unneeded

theorem otherwise?_ok {s s' : ConditionalStack} {floor : Nat} (h : s.otherwise? floor = .ok s') :
    ∃ chain rest next, s.continuable floor .elseWithoutIf .elseAfterElse = .ok (chain, rest) ∧
      s' = ⟨next :: rest⟩ ∧ next.branch = .otherwise ∧ next.parentActive = chain.parentActive ∧
      next.taken = Chain.pending chain := by
  rw [ConditionalStack.otherwise?_eq] at h
  split at h
  · cases h
  · rename_i chain rest hc
    cases h
    exact ⟨chain, rest, _, hc, rfl, rfl, rfl, rfl⟩

theorem otherwise_action {s : ConditionalStack}
    (h : run.conditionals.otherwise? run.floors.conditionals = .ok s) :
    Action env run location (some (.conditional, .continues))
      { run with conditionals := s } .none := by
  obtain ⟨chain, rest, next, hc, rfl, -, parent, taken⟩ := otherwise?_ok h
  obtain ⟨top, own, further⟩ := continuable_ok hc
  exact .continued [] top own further parent fun unneeded => ⟨taken.trans unneeded, rfl⟩

theorem define_action {name value : Text} (live : run.conditionals.isActive = true)
    (h : run.define name value = .ok run') : Action env run location none run' .none := by
  unfold define at h
  split at h
  · cases h
  · cases h
    exact .assigned live name _

theorem openLoop_action {loopVariable source : Text}
    (h : run.openLoop env loopVariable source run.conditionals.isActive location = .ok run') :
    Action env run location (some (.loop, .opens)) run' .none := by
  unfold openLoop at h
  split at h
  · cases h
  · split at h
    · cases h
    · cases h
      exact .captureStarted (.loop loopVariable _)

theorem openMacro_action {name parameters : Text}
    (h : run.openMacro name parameters run.conditionals.isActive location = .ok run') :
    Action env run location (some (.macroBody, .opens)) run' .none := by
  unfold openMacro at h
  split at h
  · cases h
  · split at h
    · cases h
    · cases h
      exact .captureStarted (.macroBody name _)

theorem descend_ok (h : run.descend env = .ok run') :
    run.depth < env.config.maxDepth ∧ run' = { run with depth := run.depth + 1 } := by
  unfold descend at h
  split at h
  · rename_i shallow
    cases h
    exact ⟨shallow, rfl⟩
  · cases h

theorem substituteAll_congr (same : run'.visible env = run.visible env) (texts : List Text) :
    run'.substituteAll env texts = run.substituteAll env texts := by
  induction texts with
  | nil => rfl
  | cons text rest ih =>
    have replaced : run'.substitute env text = run.substitute env text := by
      rw [substitute, substitute, same]
    rw [substituteAll, substituteAll, replaced, ih]

/-- The arguments of a call depend on the visible variables alone. -/
theorem readArguments_congr (same : run'.visible env = run.visible env) (arguments : Text) :
    run'.readArguments env arguments = run.readArguments env arguments := by
  unfold readArguments substituteArguments
  simp only [substituteAll_congr same]

/-- A call replays the body of a macro, one level deeper. -/
theorem call_ok {name arguments indentation : Text}
    (h : run.call env name arguments indentation location = .ok (run', task)) :
    ∃ r definition, run.macros.get? name = some definition ∧ r.body = definition.body ∧
      run.depth < env.config.maxDepth ∧ run' = { run with depth := run.depth + 1 } ∧
      task = .call r := by
  unfold call at h
  split at h
  · cases h
  · rename_i definition found
    obtain ⟨args, -, h⟩ := Outcome.bind_eq_ok.mp h
    obtain ⟨deeper, hd, h⟩ := Outcome.bind_eq_ok.mp h
    obtain ⟨shallow, rfl⟩ := descend_ok hd
    cases h
    exact ⟨_, definition, found, rfl, shallow, rfl, rfl⟩

/-- An include reads a source of the loader that is not being read, one level deeper. -/
theorem includeFile_ok {path indentation : Text}
    (h : run.includeFile env path indentation location = .ok (run', task)) :
    ∃ key source, env.loader.openKey key = .ok source ∧ run.files.contains key = false ∧
      run.depth < env.config.maxDepth ∧ run' = { run with depth := run.depth + 1 } ∧
      task = .includeFile
        { key, source, margin := run.margin ++ indentation, origin := location } := by
  unfold includeFile at h
  obtain ⟨path, -, h⟩ := Outcome.bind_eq_ok.mp h
  obtain ⟨deeper, hd, h⟩ := Outcome.bind_eq_ok.mp h
  obtain ⟨shallow, rfl⟩ := descend_ok hd
  obtain ⟨key, -, h⟩ := Outcome.bind_eq_ok.mp h
  split at h
  · cases h
  · rename_i new
    obtain ⟨-, -, h⟩ := Outcome.bind_eq_ok.mp h
    obtain ⟨source, opened, h⟩ := Outcome.bind_eq_ok.mp h
    cases h
    exact ⟨key, source, opened, Bool.eq_false_iff.mpr new, shallow, rfl, rfl⟩

end

/-! ## Lines -/

variable {env : Environment} {run run' : Run} {location : Location} {task : Task}

/-- A directive that succeeds does what its role in the catalog allows. -/
theorem direct_action {kind : Directive} {object expression indentation : Text}
    (h : run.direct env kind object expression indentation run.conditionals.isActive location =
      .ok (run', task)) :
    Action env run location kind.description.block run' task := by
  cases kind with
  | ifHolds =>
    obtain ⟨next, hn, he⟩ := Outcome.map_eq_ok.mp h
    cases he
    exact openIf_action hn
  | elseIf =>
    obtain ⟨next, hn, he⟩ := Outcome.map_eq_ok.mp h
    cases he
    exact elseIf_action hn
  | ifSet | ifNotSet | ifDef | ifNotDef =>
    obtain ⟨next, hn, he⟩ := Outcome.map_eq_ok.mp h
    cases he
    exact openTest_action (located_eq_ok.mp hn)
  | otherwise =>
    obtain ⟨next, hn, he⟩ := Outcome.map_eq_ok.mp h
    cases he
    obtain ⟨s, hs, rfl⟩ := Outcome.map_eq_ok.mp (located_eq_ok.mp hn)
    exact otherwise_action hs
  | endIf =>
    obtain ⟨next, hn, he⟩ := Outcome.map_eq_ok.mp h
    cases he
    obtain ⟨⟨chain, rest⟩, hs, rfl⟩ := Outcome.map_eq_ok.mp (located_eq_ok.mp hn)
    obtain ⟨top, own⟩ := close?_ok hs
    exact .ended top own
  | define =>
    obtain ⟨next, hn, he⟩ := Outcome.map_eq_ok.mp h
    cases he
    replace hn := located_eq_ok.mp hn
    cases live : run.conditionals.isActive <;> simp only [live] at hn
    · cases hn
      exact .idle live
    · exact define_action live hn
  | loop =>
    obtain ⟨next, hn, he⟩ := Outcome.map_eq_ok.mp h
    cases he
    exact openLoop_action (located_eq_ok.mp hn)
  | defineMacro =>
    obtain ⟨next, hn, he⟩ := Outcome.map_eq_ok.mp h
    cases he
    exact openMacro_action (located_eq_ok.mp hn)
  | endLoop | endMacro => cases h
  | call =>
    simp only [direct] at h
    cases live : run.conditionals.isActive <;> simp only [live] at h
    · cases h
      exact .idle live
    · obtain ⟨r, definition, -, -, shallow, rfl, rfl⟩ := call_ok (located_eq_ok.mp h)
      exact .called live shallow r
  | includeFile =>
    simp only [direct] at h
    cases live : run.conditionals.isActive <;> simp only [live] at h
    · cases h
      exact .idle live
    · obtain ⟨key, source, -, -, shallow, rfl, rfl⟩ := includeFile_ok (located_eq_ok.mp h)
      exact .included live shallow _

theorem execute_action {statement : Statement}
    (h : run.execute env statement location = .ok (run', task)) :
    Action env run location statement.content.role run' task := by
  unfold execute at h
  split at h
  · rename_i literal
    rw [literal]
    cases live : run.conditionals.isActive <;> simp only [live] at h
    · cases h
      exact .idle live
    · obtain ⟨next, hn, he⟩ := Outcome.map_eq_ok.mp h
      cases he
      obtain ⟨line, rfl⟩ := emit_ok (located_eq_ok.mp hn)
      exact .emitted live line
  · rename_i op name rest cursor
    obtain ⟨next, hn, he⟩ := Outcome.map_eq_ok.mp h
    cases he
    rw [cursor]
    exact moveCursor_action (located_eq_ok.mp hn)
  · rename_i kind object expression directive
    rw [directive]
    exact direct_action h

theorem capture_eq (run : Run) (env : Environment) (line : Line) :
    run.capture env line =
      (match run.captures.feed line (classifiedDirective? (run.classify env line.text)) with
        | (some c, captures) => { run with captures }.complete c line.location
        | (none, captures) => ({ run with captures }, .none)) := by
  unfold capture
  cases run.classify env line.text <;>
    (dsimp only [classifiedDirective?]
     rcases run.captures.feed line _ with ⟨_ | c, captures⟩ <;> rfl)

theorem capture_of_inside {line : Line} {c : Capture} {rest : List Capture}
    (capturing : run.captures.captures = c :: rest)
    (inside : c.endsAt (env.config.indicators.role line.text) = false) :
    run.capture env line =
      ({ run with captures := ⟨c.grow line (env.config.indicators.role line.text) :: rest⟩ },
        .none) := by
  have role := Statement.classify_role env.config.indicators run.macros.contains line.text
  rw [capture_eq, CaptureStack.feed, capturing]
  simp only [Capture.closedBy_eq_endsAt, Capture.add_eq_grow]
  rw [classify, role, inside]
  rfl

theorem capture_of_ends {line : Line} {c : Capture} {rest : List Capture}
    (capturing : run.captures.captures = c :: rest)
    (ends : c.endsAt (env.config.indicators.role line.text) = true) :
    run.capture env line = { run with captures := ⟨rest⟩ }.complete c line.location := by
  have role := Statement.classify_role env.config.indicators run.macros.contains line.text
  rw [capture_eq, CaptureStack.feed, capturing]
  simp only [Capture.closedBy_eq_endsAt]
  rw [classify, role, ends]
  rfl

theorem capture_effect {line : Line} {c : Capture} {rest : List Capture}
    (capturing : run.captures.captures = c :: rest) :
    Effect env run line (run.capture env line).1 (run.capture env line).2 := by
  cases ends : c.endsAt (env.config.indicators.role line.text) with
  | false =>
    rw [capture_of_inside capturing ends]
    exact .captured capturing ends
  | true =>
    rw [capture_of_ends capturing ends]
    exact .completed capturing ends rfl

theorem route_of_capturing {line : Line} {c : Capture} {rest : List Capture}
    (capturing : run.captures.captures = c :: rest) :
    run.route env line = .ok (run.capture env line) := by
  have isCapturing : run.captures.isCapturing = true := by
    simp [CaptureStack.isCapturing, capturing]
  rw [route, if_pos isCapturing]

/-- A line that succeeds has one of the listed effects. -/
theorem effect_of_route {line : Line} (h : run.route env line = .ok (run', task)) :
    Effect env run line run' task := by
  cases hc : run.captures.captures with
  | cons c rest =>
    rw [route_of_capturing hc] at h
    have effect : Effect env run line _ _ := capture_effect hc
    rw [Except.ok.inj h] at effect
    exact effect
  | nil =>
    have idle : ¬ run.captures.isCapturing = true := by simp [CaptureStack.isCapturing, hc]
    have role := Statement.classify_role env.config.indicators run.macros.contains line.text
    rw [route, if_neg idle, classify] at h
    split at h
    · cases h
    · rename_i statement meaning
      rw [meaning] at role
      exact .executed hc (role ▸ execute_action h)

end LineTemplate.Run
