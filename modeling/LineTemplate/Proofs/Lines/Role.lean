import LineTemplate.Block.Capture
import LineTemplate.Line.Statement

/-!
# What lines do to blocks

The role of a line among blocks: it opens, continues or closes a block of some kind, or it does
none of that. The role follows from the directives alone. The macros that happen to be known play
no part in it, because a keyword is never taken for the name of a macro.
-/

namespace LineTemplate

/-- What a line does to which kind of block, if it does anything to a block. -/
abbrev Role := Option (BlockKind × BlockRole)

/-- The role of a line with a given meaning. A query of a cursor opens a conditional chain. -/
def Content.role : Content → Role
  | .directive kind _ _ => kind.description.block
  | .cursor .query _ _ => some (.conditional, .opens)
  | .cursor .. => none
  | .literal => none

def classifiedRole : Except SyntaxFault Statement → Role
  | .ok statement => statement.content.role
  | .error _ => none

/-- The role of a line where no macro is known. -/
def Indicators.role (ind : Indicators) (raw : Text) : Role :=
  classifiedRole (Statement.classify ind (fun _ => false) raw)

namespace Statement

theorem contentOf_role (ind : Indicators) (isMacro : Text → Bool) (raw word argument : Text) :
    classifiedRole ((contentOf ind isMacro word argument).map (⟨raw, ·⟩)) =
      classifiedRole ((contentOf ind (fun _ => false) word argument).map (⟨raw, ·⟩)) := by
  unfold contentOf
  cases ind.cursorOp? word with
  | some mark => rfl
  | none =>
    cases keyword? ind word with
    | none => rfl
    | some found =>
      obtain ⟨keyword, isLong⟩ := found
      cases hk : Directive.ofWord? keyword with
      | some kind => simp only [hk]
      | none =>
        simp only [hk]
        cases hm : !keyword.isEmpty && isMacro keyword <;> cases isLong <;>
          simp [classifiedRole, Except.map, Content.role, Directive.description]

/-- Whichever macros are known, a line has the role that it has without any. -/
theorem classify_role (ind : Indicators) (isMacro : Text → Bool) (raw : Text) :
    classifiedRole (classify ind isMacro raw) = ind.role raw := by
  unfold Indicators.role classify
  by_cases h : raw.trim.isEmpty
  · simp only [h, ite_true]
  · simp only [h, Bool.false_eq_true, ite_false]
    exact contentOf_role ind isMacro raw _ _

theorem contentOf_of_role {ind : Indicators} {word argument : Text} {content : Content}
    (meaning : contentOf ind (fun _ => false) word argument = .ok content)
    (role : content.role ≠ none) (isMacro : Text → Bool) :
    contentOf ind isMacro word argument = .ok content := by
  unfold contentOf at meaning ⊢
  cases hc : ind.cursorOp? word with
  | some mark => simpa only [hc] using meaning
  | none =>
    cases hk : keyword? ind word with
    | none => simpa only [hc, hk] using meaning
    | some found =>
      obtain ⟨keyword, isLong⟩ := found
      cases hd : Directive.ofWord? keyword with
      | some kind => simpa only [hc, hk, hd] using meaning
      | none =>
        -- Without macros, such a word makes the line literal or is a fault.
        simp only [hc, hk, hd, Bool.and_false, Bool.false_eq_true, ite_false] at meaning
        cases isLong with
        | true => cases meaning
        | false =>
          cases meaning
          exact absurd rfl role

/-- The macros that are known play no part in the meaning of a line that has to do with blocks. -/
theorem classify_of_role {ind : Indicators} {raw : Text} {statement : Statement}
    (meaning : classify ind (fun _ => false) raw = .ok statement)
    (role : statement.content.role ≠ none) (isMacro : Text → Bool) :
    classify ind isMacro raw = .ok statement := by
  unfold classify at meaning ⊢
  by_cases h : raw.trim.isEmpty
  · simpa only [h, ite_true] using meaning
  · simp only [h, Bool.false_eq_true, ite_false] at meaning ⊢
    cases hc : contentOf ind (fun _ => false) raw.trim.splitWord.1 raw.trim.splitWord.2 with
    | error e => simp [hc, Except.map] at meaning
    | ok content =>
      rw [hc] at meaning
      cases meaning
      rw [contentOf_of_role hc role isMacro]
      rfl

end Statement

def classifiedDirective? : Except SyntaxFault Statement → Option Directive
  | .ok statement => statement.directive?
  | .error _ => none

theorem Directive.closes?_eq_some_iff {d : Directive} {kind : BlockKind} :
    d.closes? = some kind ↔ d.description.block = some (kind, .closes) := by
  cases d <;> cases kind <;> simp [closes?, description]

theorem Directive.opens?_eq_some_iff {d : Directive} {kind : BlockKind} :
    d.opens? = some kind ↔ d.description.block = some (kind, .opens) := by
  cases d <;> cases kind <;> simp [opens?, description]

theorem bind_closes?_eq_some_iff (result : Except SyntaxFault Statement) (kind : BlockKind) :
    (classifiedDirective? result).bind Directive.closes? = some kind ↔
      classifiedRole result = some (kind, .closes) := by
  match result with
  | .error _ => simp [classifiedDirective?, classifiedRole]
  | .ok ⟨_, .literal⟩ => simp [classifiedDirective?, classifiedRole, Statement.directive?,
      Content.role]
  | .ok ⟨_, .cursor op _ _⟩ =>
    cases op <;> simp [classifiedDirective?, classifiedRole, Statement.directive?, Content.role]
  | .ok ⟨_, .directive d _ _⟩ =>
    simp only [classifiedDirective?, classifiedRole, Statement.directive?, Content.role,
      Option.bind_some]
    exact Directive.closes?_eq_some_iff

/-- A query opens a conditional chain without being a directive, so chains are left out. -/
theorem bind_opens?_eq_some_iff (result : Except SyntaxFault Statement) {kind : BlockKind}
    (captured : kind ≠ .conditional) :
    (classifiedDirective? result).bind Directive.opens? = some kind ↔
      classifiedRole result = some (kind, .opens) := by
  match result with
  | .error _ => simp [classifiedDirective?, classifiedRole]
  | .ok ⟨_, .literal⟩ => simp [classifiedDirective?, classifiedRole, Statement.directive?,
      Content.role]
  | .ok ⟨_, .cursor op _ _⟩ =>
    cases op <;> simp [classifiedDirective?, classifiedRole, Statement.directive?, Content.role,
      captured.symm]
  | .ok ⟨_, .directive d _ _⟩ =>
    simp only [classifiedDirective?, classifiedRole, Statement.directive?, Content.role,
      Option.bind_some]
    exact Directive.opens?_eq_some_iff

theorem CaptureHead.kind_ne_conditional (head : CaptureHead) : head.kind ≠ .conditional := by
  cases head <;> simp [kind]

namespace Capture

def endsAt (c : Capture) (role : Role) : Bool :=
  role = some (c.head.kind, .closes) && c.depth = 0

/-- The block after a line of some role that does not end it. -/
def grow (c : Capture) (line : Line) (role : Role) : Capture :=
  let depth :=
    if role = some (c.head.kind, .closes) then c.depth - 1
    else if role = some (c.head.kind, .opens) then c.depth + 1
    else c.depth
  { c with newestFirst := line :: c.newestFirst, depth }

@[simp] theorem grow_head (c : Capture) (line : Line) (role : Role) :
    (c.grow line role).head = c.head := rfl

@[simp] theorem grow_active (c : Capture) (line : Line) (role : Role) :
    (c.grow line role).active = c.active := rfl

@[simp] theorem grow_newestFirst (c : Capture) (line : Line) (role : Role) :
    (c.grow line role).newestFirst = line :: c.newestFirst := rfl

theorem closedBy_eq_endsAt (c : Capture) (result : Except SyntaxFault Statement) :
    c.closedBy (classifiedDirective? result) = c.endsAt (classifiedRole result) := by
  unfold closedBy endsAt
  rw [decide_eq_decide.mpr (bind_closes?_eq_some_iff result c.head.kind)]

theorem add_eq_grow (c : Capture) (line : Line) (result : Except SyntaxFault Statement) :
    c.add line (classifiedDirective? result) = c.grow line (classifiedRole result) := by
  unfold add grow
  simp only [bind_closes?_eq_some_iff,
    bind_opens?_eq_some_iff result c.head.kind_ne_conditional]

end Capture

end LineTemplate
