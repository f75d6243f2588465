import LineTemplate.Proofs.Blocks.Outline
import LineTemplate.Proofs.Lines.Faults

/-!
# Mismatches

A mismatch is a fault that is about blocks: one of them is not closed, or is closed or continued
without being open. To leave a cursor where none is selected is not counted, because selections are
not blocks. A line that is possible in the outline of a run does not end it with a mismatch
(`route_mild`).
-/

namespace LineTemplate

def Fault.Mismatch : Fault → Prop
  | .unmatched block => block ≠ .closeWithoutCursor
  | _ => False

def Stop.Mismatch : Stop → Prop
  | .fault cause _ => cause.fault.Mismatch
  | .exhausted => False

theorem mismatch_structural (fault : Fault) (h : fault.Mismatch) : fault.Structural := by
  cases fault <;> trivial

/-- A step that ends a run with no mismatch. -/
abbrev Mild {α : Type} (x : Except Stop α) : Prop :=
  Avoids Stop.Mismatch x

theorem Mild.unmatched {α : Type} {x : Except Stop α} {block : BlockFault} {location : Location}
    {evaluations : List Evaluation} (h : Mild x)
    (failed : x = .error (.fault ⟨.unmatched block, location⟩ evaluations)) :
    block = .closeWithoutCursor :=
  Decidable.not_not.mp (h _ failed)

namespace Run

variable {env : Environment} {run : Run} {location : Location} {active : Bool}

theorem located_mild {α : Type} {x : Except Fault α} (h : Avoids Fault.Mismatch x) :
    Mild (run.located location x) := by
  cases x with
  | ok a => exact .ok a
  | error fault => exact .error (h fault rfl)

theorem openIf_mild (condition : Text) : Mild (run.openIf env condition location) := by
  unfold openIf
  cases run.conditionals.isActive with
  | true => exact (located_mild (open?_avoids (decide_avoids mismatch_structural condition))).map _
  | false => exact (located_mild (open?_avoids (.ok _))).map _

theorem descend_avoids : Avoids Fault.Mismatch (run.descend env) := by
  unfold descend
  split
  · exact .ok _
  · exact .error not_false

/-- A loader that reports no mismatch. -/
def LoaderAvoids (loader : Loader) : Prop :=
  (∀ path fromKey directories,
    Avoids Fault.Mismatch (loader.resolve path fromKey directories)) ∧
  ∀ key, Avoids Fault.Mismatch (loader.openKey key)

theorem loaderAvoids_ofMemory (files : Bindings Source) : LoaderAvoids (Loader.ofMemory files) :=
  ⟨resolve_avoids mismatch_structural files, openKey_avoids mismatch_structural files⟩

/-! ## Lines that are possible -/

variable {base : List Chain} {s s' : Outline} {line : Line}

theorem Outlined.innermost {last : Bool} {others : List Bool} (h : Outlined base s run)
    (chains : s.chains = last :: others) :
    run.floors.conditionals < run.conditionals.depth ∧
      ∃ chain rest, run.conditionals.chains = chain :: rest ∧ chain.isLast = last := by
  refine ⟨by rw [h.depth, chains, List.length_cons]; omega, ?_⟩
  obtain ⟨own, split, flags⟩ := h.chains
  rw [chains] at flags
  cases own with
  | nil => cases flags
  | cons chain outer => exact ⟨chain, outer ++ base, split, (List.cons.inj flags).1⟩

/-- A source that has a chain open can continue it, unless its last branch has begun. -/
theorem Outlined.continuable {others : List Bool} (h : Outlined base s run)
    (chains : s.chains = false :: others) (outside afterLast : BlockFault) :
    ∃ chain rest, run.conditionals.continuable run.floors.conditionals outside afterLast =
      .ok (chain, rest) := by
  obtain ⟨deep, chain, rest, top, last⟩ := h.innermost chains
  have further : chain.branch ≠ .otherwise := by simpa [Chain.isLast] using last
  refine ⟨chain, rest, ?_⟩
  unfold ConditionalStack.continuable
  rw [if_neg (Nat.not_le.mpr deep), top]
  exact if_neg further

theorem elseIf_mild {others : List Bool} (h : Outlined base s run)
    (chains : s.chains = false :: others) (condition : Text) :
    Mild (run.elseIf env condition location) := by
  obtain ⟨chain, rest, hc⟩ := h.continuable chains .elseIfWithoutIf .elseIfAfterElse
  have continued {verdict : Except Fault Bool} (hv : Avoids Fault.Mismatch verdict) :
      Avoids Fault.Mismatch
        (run.conditionals.elseIf? run.floors.conditionals condition verdict) := by
    rw [ConditionalStack.elseIf?_eq]
    rw [hc]
    dsimp only
    split
    · exact hv.map _
    · exact .ok _
  unfold elseIf
  cases run.conditionals.asks run.floors.conditionals with
  | true => exact (located_mild (continued (decide_avoids mismatch_structural condition))).map _
  | false => exact (located_mild (continued (.ok _))).map _

theorem otherwise_avoids {others : List Bool} (h : Outlined base s run)
    (chains : s.chains = false :: others) :
    Avoids Fault.Mismatch (run.conditionals.otherwise? run.floors.conditionals) := by
  obtain ⟨chain, rest, hc⟩ := h.continuable chains .elseWithoutIf .elseAfterElse
  rw [ConditionalStack.otherwise?_eq]
  rw [hc]
  exact .ok _

theorem close_avoids {last : Bool} {others : List Bool} (h : Outlined base s run)
    (chains : s.chains = last :: others) :
    Avoids Fault.Mismatch (run.conditionals.close? run.floors.conditionals) := by
  obtain ⟨deep, chain, rest, top, -⟩ := h.innermost chains
  rw [ConditionalStack.close?_eq]
  rw [if_neg (Nat.not_le.mpr deep), top]
  exact .ok _

/-- What a statement finds open if it is possible in the outline of a run. -/
theorem direct_mild (h : Outlined base s run) (unskipped : s.skipped = none)
    (loader : LoaderAvoids env.loader) {kind : Directive} {object expression indentation : Text}
    (possible : s.next kind.form = some s') :
    Mild (run.direct env kind object expression indentation active location) := by
  obtain ⟨chains, skipped⟩ := s
  subst unskipped
  cases kind with
  | ifHolds => exact (openIf_mild expression).map _
  | elseIf =>
    match chains with
    | false :: others => exact (elseIf_mild h rfl expression).map _
    | true :: others | [] => cases possible
  | ifSet | ifNotSet | ifDef | ifNotDef => exact (located_mild (openTest_avoids _)).map _
  | otherwise =>
    match chains with
    | false :: others => exact (located_mild ((otherwise_avoids h rfl).map _)).map _
    | true :: others | [] => cases possible
  | endIf =>
    match chains with
    | last :: others => exact (located_mild ((close_avoids h rfl).map _)).map _
    | [] => cases possible
  | define =>
    refine (located_mild ?_).map _
    split
    · exact define_avoids mismatch_structural object expression
    · exact .ok _
  | loop => exact (located_mild (openLoop_avoids mismatch_structural object expression)).map _
  | defineMacro =>
    exact (located_mild (openMacro_avoids mismatch_structural object expression)).map _
  | endLoop | endMacro => cases possible
  | call =>
    dsimp only [direct]
    split
    · exact located_mild
        (call_avoids mismatch_structural descend_avoids object expression indentation)
    · exact .ok _
  | includeFile =>
    dsimp only [direct]
    split
    · exact located_mild
        (includeFile_avoids mismatch_structural descend_avoids loader.1 loader.2 object indentation)
    · exact .ok _

theorem route_mild (h : Outlined base s run) (loader : LoaderAvoids env.loader)
    (possible : s.next (env.config.indicators.form line.text) = some s') :
    Mild (run.route env line) := by
  cases hc : run.captures.captures with
  | cons c rest =>
    rw [route_of_capturing hc]
    exact .ok _
  | nil =>
    have idle : ¬ run.captures.isCapturing = true := by simp [CaptureStack.isCapturing, hc]
    have unskipped := h.uncaptured_iff.mp hc
    have form := Statement.classify_form env.config.indicators run.macros.contains line.text
    rw [route, if_neg idle, classify]
    cases meaning : Statement.classify env.config.indicators run.macros.contains line.text with
    | error e => exact located_mild (.error not_false)
    | ok statement =>
      rw [meaning] at form
      rw [← form] at possible
      obtain ⟨raw, content⟩ := statement
      cases content with
      | literal =>
        dsimp only [execute]
        split
        · exact (located_mild (emit_avoids mismatch_structural raw)).map _
        · exact .ok _
      | cursor op name rest =>
        exact (located_mild (moveCursor_avoids (fun mismatch => mismatch rfl) op _)).map _
      | directive kind object expression => exact direct_mild h unskipped loader possible

end Run

end LineTemplate
