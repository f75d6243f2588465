import LineTemplate.Proofs.Blocks.Bodies

/-!
# The structure of templates

What the lines of a template are to its structure, and the grammar of templates that are nested
well: chains with at most one last branch, loops and macros, all of them closed. `Skims` passes over
the bodies of loops and macros, which are not looked into until they are replayed.

`Accepts` reads the grammar from left to right, and remembers of each open chain whether its last
branch has begun (`accepts_iff`).
-/

namespace LineTemplate

/-- The blocks whose bodies are captured. -/
inductive Captured where
  | loop
  | macroBody
  deriving DecidableEq

def Captured.kind : Captured → BlockKind
  | loop => .loop
  | macroBody => .macroBody

theorem Captured.kind_ne_conditional (k : Captured) : k.kind ≠ .conditional := by
  cases k <;> simp [kind]

theorem Captured.kind_inj {k k' : Captured} : k.kind = k'.kind → k = k' := by
  cases k <;> cases k' <;> simp [kind]

/-- What a line is to the structure of a template. -/
inductive Form where
  | plain
  | opener
  | elseIf
  | otherwise
  | endIf
  | starts (k : Captured)
  | stops (k : Captured)
  deriving DecidableEq

def Form.role : Form → Role
  | plain => none
  | opener => some (.conditional, .opens)
  | elseIf | otherwise => some (.conditional, .continues)
  | endIf => some (.conditional, .closes)
  | starts k => some (k.kind, .opens)
  | stops k => some (k.kind, .closes)

def Directive.form : Directive → Form
  | ifHolds | ifSet | ifNotSet | ifDef | ifNotDef => .opener
  | elseIf => .elseIf
  | otherwise => .otherwise
  | endIf => .endIf
  | loop => .starts .loop
  | endLoop => .stops .loop
  | defineMacro => .starts .macroBody
  | endMacro => .stops .macroBody
  | define | call | includeFile => .plain

def Content.form : Content → Form
  | .directive kind _ _ => kind.form
  | .cursor .query _ _ => .opener
  | .cursor .. | .literal => .plain

def classifiedForm : Except SyntaxFault Statement → Form
  | .ok statement => statement.content.form
  | .error _ => .plain

/-- The form of a line where no macro is known. A line that means nothing counts as plain. -/
def Indicators.form (ind : Indicators) (raw : Text) : Form :=
  classifiedForm (Statement.classify ind (fun _ => false) raw)

theorem Content.form_role (content : Content) : content.form.role = content.role := by
  cases content with
  | literal => rfl
  | cursor op _ _ => cases op <;> rfl
  | directive kind _ _ => cases kind <;> rfl

theorem classifiedForm_role (result : Except SyntaxFault Statement) :
    (classifiedForm result).role = classifiedRole result := by
  cases result with
  | ok statement => exact statement.content.form_role
  | error => rfl

theorem Indicators.form_role (ind : Indicators) (raw : Text) : (ind.form raw).role = ind.role raw :=
  classifiedForm_role _

namespace Form

variable {form : Form} {k : Captured}

theorem role_eq_none : form.role = none ↔ form = plain := by
  cases form <;> simp [role]

theorem role_eq_starts : form.role = some (k.kind, .opens) ↔ form = starts k := by
  cases form with
  | starts k' => cases k <;> cases k' <;> simp [role, Captured.kind]
  | _ => cases k <;> simp [role, Captured.kind]

theorem role_eq_stops : form.role = some (k.kind, .closes) ↔ form = stops k := by
  cases form with
  | stops k' => cases k <;> cases k' <;> simp [role, Captured.kind]
  | _ => cases k <;> simp [role, Captured.kind]

theorem role_eq_opener : form.role = some (.conditional, .opens) ↔ form = opener := by
  cases form with
  | starts k => simp [role, k.kind_ne_conditional]
  | _ => simp [role]

theorem role_eq_continues :
    form.role = some (.conditional, .continues) ↔ form = elseIf ∨ form = otherwise := by
  cases form <;> simp [role]

theorem role_eq_endIf : form.role = some (.conditional, .closes) ↔ form = endIf := by
  cases form with
  | stops k => simp [role, k.kind_ne_conditional]
  | _ => simp [role]

end Form

/-- Whichever macros are known, a line has the form that it has without any. -/
theorem Statement.classify_form (ind : Indicators) (isMacro : Text → Bool) (raw : Text) :
    classifiedForm (classify ind isMacro raw) = ind.form raw := by
  by_cases plain : ind.role raw = none
  · rw [Form.role_eq_none.mp ((ind.form_role raw).trans plain)]
    exact Form.role_eq_none.mp
      ((classifiedForm_role _).trans ((classify_role ind isMacro raw).trans plain))
  · unfold Indicators.form
    unfold Indicators.role at plain
    cases meaning : classify ind (fun _ => false) raw with
    | error e => simp [meaning, classifiedRole] at plain
    | ok statement =>
      rw [meaning] at plain
      rw [classify_of_role meaning plain isMacro]

/-! ## The grammar -/

inductive Phrase where
  | block
  /-- What follows on the first body of a chain, up to its end. -/
  | branches

/-- The forms of lines that are nested well. -/
inductive Nested : Phrase → List Form → Prop where
  | nil : Nested .block []
  | plain {rest : List Form} (further : Nested .block rest) : Nested .block (.plain :: rest)
  | chain {body tail rest : List Form} (first : Nested .block body)
      (branches : Nested .branches tail) (further : Nested .block rest) :
    Nested .block (.opener :: (body ++ (tail ++ rest)))
  | captured (k : Captured) {body rest : List Form} (inner : Nested .block body)
      (further : Nested .block rest) : Nested .block (.starts k :: (body ++ .stops k :: rest))
  | ended : Nested .branches [.endIf]
  | elseIf {body tail : List Form} (next : Nested .block body) (branches : Nested .branches tail) :
    Nested .branches (.elseIf :: (body ++ tail))
  | otherwise {body : List Form} (last : Nested .block body) :
    Nested .branches (.otherwise :: (body ++ [.endIf]))

/-- What is left of some forms when the loops and macros among them are passed over, each up to the
end that matches it. -/
inductive Skims : List Form → List Form → Prop where
  | nil : Skims [] []
  | kept {form : Form} {forms rest : List Form} (own : ∀ k, form ≠ .starts k ∧ form ≠ .stops k)
      (further : Skims forms rest) : Skims (form :: forms) (form :: rest)
  | skipped (k : Captured) {body forms rest : List Form}
      (matched : Matched k.kind (body.map Form.role)) (further : Skims forms rest) :
    Skims (.starts k :: (body ++ .stops k :: forms)) rest

/-! ## Reading from left to right -/

/-- The forms close the open chains, and are nested well otherwise. Of each chain it is known
whether its last branch has begun. -/
inductive Accepts : List Bool → List Form → Prop where
  | nil : Accepts [] []
  | plain {chains : List Bool} {rest : List Form} (further : Accepts chains rest) :
    Accepts chains (.plain :: rest)
  | opener {chains : List Bool} {rest : List Form} (further : Accepts (false :: chains) rest) :
    Accepts chains (.opener :: rest)
  | elseIf {chains : List Bool} {rest : List Form} (further : Accepts (false :: chains) rest) :
    Accepts (false :: chains) (.elseIf :: rest)
  | otherwise {chains : List Bool} {rest : List Form} (further : Accepts (true :: chains) rest) :
    Accepts (false :: chains) (.otherwise :: rest)
  | endIf {last : Bool} {chains : List Bool} {rest : List Form} (further : Accepts chains rest) :
    Accepts (last :: chains) (.endIf :: rest)
  | captured (k : Captured) {chains : List Bool} {body rest : List Form}
      (inner : Nested .block body) (further : Accepts chains rest) :
    Accepts chains (.starts k :: (body ++ .stops k :: rest))

namespace Accepts

variable {chains : List Bool} {forms rest : List Form}

/-- The chains that are open before a phrase: a block leaves them as they are, the branches of a
chain close it. -/
def chainsBefore (chains : List Bool) : Phrase → List Bool
  | .block => chains
  | .branches => false :: chains

theorem of_nested {phrase : Phrase} (h : Nested phrase forms) (further : Accepts chains rest) :
    Accepts (chainsBefore chains phrase) (forms ++ rest) := by
  induction h generalizing chains rest with
  | nil => exact further
  | plain _ ih => exact .plain (ih further)
  | chain _ _ _ first branches block =>
    rw [List.cons_append, List.append_assoc, List.append_assoc]
    exact .opener (first (branches (block further)))
  | captured k inner _ _ block =>
    rw [List.cons_append, List.append_assoc, List.cons_append]
    exact .captured k inner (block further)
  | ended => exact .endIf further
  | elseIf _ _ next branches =>
    rw [List.cons_append, List.append_assoc]
    exact .elseIf (next (branches further))
  | otherwise _ last =>
    rw [List.cons_append, List.append_assoc]
    exact .otherwise (last (.endIf further))

/-- What may follow on the body of a branch: after the last one, only the end of the chain. -/
def Ends (last : Bool) (tail : List Form) : Prop :=
  Nested .branches tail ∧ (last = true → tail = [.endIf])

/-- The forms as a block, and what follows on it: for each open chain its end, and a block again. -/
def Splits : List Bool → List Form → Prop
  | [], forms => Nested .block forms
  | last :: chains, forms => ∃ body tail rest, forms = body ++ (tail ++ rest) ∧
    Nested .block body ∧ Ends last tail ∧ Splits chains rest

/-- The forms that close the open chains consist of blocks and the ends of these chains. -/
theorem splits (h : Accepts chains forms) : Splits chains forms := by
  induction h with
  | nil => exact .nil
  | @plain chains rest _ ih =>
    cases chains with
    | nil => exact .plain ih
    | cons last chains =>
      obtain ⟨body, tail, rest, rfl, first, ends, outer⟩ := ih
      exact ⟨.plain :: body, tail, rest, rfl, .plain first, ends, outer⟩
  | @opener chains rest _ ih =>
    -- What follows on the chain continues the block in which the chain stands.
    obtain ⟨body, tail, rest, rfl, first, ⟨branches, -⟩, outer⟩ := ih
    cases chains with
    | nil => exact .chain first branches outer
    | cons last chains =>
      obtain ⟨body', tail', rest, rfl, first', ends, outer⟩ := outer
      refine ⟨.opener :: (body ++ (tail ++ body')), tail', rest, ?_, .chain first branches first',
        ends, outer⟩
      simp only [List.cons_append, List.append_assoc]
  | elseIf _ ih =>
    obtain ⟨body, tail, rest, rfl, next, ⟨branches, -⟩, outer⟩ := ih
    refine ⟨[], .elseIf :: (body ++ tail), rest, ?_, .nil, ⟨.elseIf next branches, nofun⟩, outer⟩
    simp only [List.nil_append, List.cons_append, List.append_assoc]
  | otherwise _ ih =>
    obtain ⟨body, tail, rest, rfl, last, ⟨-, only⟩, outer⟩ := ih
    cases only rfl
    refine ⟨[], .otherwise :: (body ++ [.endIf]), rest, ?_, .nil, ⟨.otherwise last, nofun⟩, outer⟩
    simp only [List.nil_append, List.cons_append, List.append_assoc]
  | endIf _ ih => exact ⟨[], [.endIf], _, rfl, .nil, ⟨.ended, fun _ => rfl⟩, ih⟩
  | @captured k chains inside rest inner _ ih =>
    cases chains with
    | nil => exact .captured k inner ih
    | cons last chains =>
      obtain ⟨body, tail, rest, rfl, first, ends, outer⟩ := ih
      refine ⟨.starts k :: (inside ++ .stops k :: body), tail, rest, ?_, .captured k inner first,
        ends, outer⟩
      simp only [List.cons_append, List.append_assoc]

end Accepts

theorem accepts_iff {forms : List Form} : Accepts [] forms ↔ Nested .block forms := by
  refine ⟨Accepts.splits, fun h => ?_⟩
  have accepts := Accepts.of_nested h .nil
  rwa [List.append_nil] at accepts

/-! ## Bodies -/

namespace Nesting

variable {kind : BlockKind} {inner : Nat} {role : Role} {roles : List Role}

theorem within_other (opens : role ≠ some (kind, .opens)) (closes : role ≠ some (kind, .closes)) :
    within kind inner (role :: roles) = within kind inner roles := by
  have skipped : skip kind inner role = some (kind, inner) := by
    unfold skip
    rw [if_neg closes, if_neg opens]
  simp [within, skipped]

theorem within_opens :
    within kind inner (some (kind, .opens) :: roles) = within kind (inner + 1) roles := by
  simp [within, skip]

theorem within_closes :
    within kind (inner + 1) (some (kind, .closes) :: roles) = within kind inner roles := by
  simp [within, skip]

end Nesting

/-- The directives of loops and macros match in lines that are nested well. -/
theorem Nested.within {phrase : Phrase} {forms : List Form} (h : Nested phrase forms)
    (k : Captured) (inner : Nat) (roles : List Role) :
    Nesting.within k.kind inner (forms.map Form.role ++ roles) =
      Nesting.within k.kind inner roles := by
  have conditional (block : BlockRole) (inner : Nat) (roles : List Role) :
      Nesting.within k.kind inner (some (.conditional, block) :: roles) =
        Nesting.within k.kind inner roles :=
    Nesting.within_other (by simp [k.kind_ne_conditional.symm])
      (by simp [k.kind_ne_conditional.symm])
  induction h generalizing inner roles with
  | nil => rfl
  | plain _ ih =>
    exact (Nesting.within_other (by simp [Form.role]) (by simp [Form.role])).trans (ih inner roles)
  | chain _ _ _ first branches block =>
    simp only [List.map_cons, List.map_append, List.cons_append, List.append_assoc]
    exact (conditional ..).trans ((first ..).trans ((branches ..).trans (block ..)))
  | captured k' _ _ body block =>
    simp only [List.map_cons, List.map_append, List.cons_append, List.append_assoc]
    by_cases same : k' = k
    · subst same
      rw [Form.role, Nesting.within_opens, body, Form.role, Nesting.within_closes, block]
    · have other : k'.kind ≠ k.kind := fun h => same (Captured.kind_inj h)
      rw [Form.role, Nesting.within_other (by simp [other]) (by simp [other]), body, Form.role,
        Nesting.within_other (by simp [other]) (by simp [other]), block]
  | ended => exact conditional ..
  | elseIf _ _ next branches =>
    simp only [List.map_cons, List.map_append, List.cons_append, List.append_assoc]
    exact (conditional ..).trans ((next ..).trans (branches ..))
  | otherwise _ last =>
    simp only [List.map_cons, List.map_append, List.cons_append, List.append_assoc, List.map_nil,
      List.nil_append]
    exact (conditional ..).trans ((last ..).trans (conditional ..))

theorem Nested.matched {phrase : Phrase} {forms : List Form} (h : Nested phrase forms)
    (k : Captured) : Matched k.kind (forms.map Form.role) := by
  have within := h.within k 0 []
  rwa [List.append_nil] at within

end LineTemplate
