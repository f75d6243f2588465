import LineTemplate.Proofs.Lines.Outcome
import LineTemplate.Proofs.Lines.Segments
import LineTemplate.Proofs.Lines.Terminators
import LineTemplate.Proofs.Lines.Trimming
import LineTemplate.Proofs.Options.Validity
import LineTemplate.Proofs.Sources.Reading
import Mathlib

/-!
# Escaped text

A backslash takes the meaning from the mark behind it. If every mark in a text has one, then no line
of the text is a directive, a cursor statement or a call, nothing in it is a reference, and what is
rendered is the text without those backslashes. So every text can be produced.

The marks must not get in the way of each other: all of them start with the one that is escaped, and
that one has no backslash in it.
-/

namespace LineTemplate

open Unicode

namespace Text

/-- The text with a backslash in front of each occurrence of the mark. Where occurrences overlap,
the one that starts first counts. -/
def escape (mark s : Text) : Text :=
  match s with
  | [] => []
  | c :: rest =>
    if mark.isPrefixOf (c :: rest) then '\\' :: mark ++ escape mark (rest.drop (mark.length - 1))
    else c :: escape mark rest
termination_by s.length
decreasing_by all_goals simp only [List.length_drop, List.length_cons]; omega

section

variable {mark s p : Text} {c : Char}

@[simp] theorem escape_nil : escape mark [] = [] := by rw [escape]

theorem escape_mark (nonempty : mark ≠ []) (s : Text) :
    escape mark (mark ++ s) = '\\' :: mark ++ escape mark s := by
  obtain ⟨m, ms, rfl⟩ := List.exists_cons_of_ne_nil nonempty
  have starts : (m :: ms).isPrefixOf (m :: (ms ++ s)) = true := by
    rw [List.isPrefixOf_iff_prefix, ← List.cons_append]
    exact List.prefix_append _ _
  rw [List.cons_append, escape, if_pos starts, List.length_cons, Nat.add_sub_cancel,
    List.drop_left]

theorem escape_char (h : ¬ mark <+: c :: s) : escape mark (c :: s) = c :: escape mark s := by
  rw [escape, if_neg (by rwa [List.isPrefixOf_iff_prefix])]

/-- A text is read from left to right, each occurrence of the mark at once. -/
theorem escape_induction {P : Text → Prop} (nonempty : mark ≠ []) (nil : P [])
    (marked : ∀ s, P s → P (mark ++ s)) (char : ∀ c s, ¬ mark <+: c :: s → P s → P (c :: s))
    (s : Text) : P s := by
  induction h : s.length using Nat.strongRecOn generalizing s with
  | _ n ih =>
    subst h
    cases s with
    | nil => exact nil
    | cons c rest =>
      by_cases starts : mark <+: c :: rest
      · obtain ⟨after, whole⟩ := starts
        have shorter : after.length < (c :: rest).length := by
          have positive := List.length_pos_iff.mpr nonempty
          rw [← whole, List.length_append]
          omega
        rw [← whole]
        exact marked after (ih _ shorter after rfl)
      · exact char c rest starts (ih _ (Nat.lt_succ_self _) rest rfl)

theorem escape_of_not_infix (absent : ¬ mark <:+: s) : escape mark s = s := by
  induction s with
  | nil => exact escape_nil
  | cons c rest ih =>
    have here : ¬ mark <+: c :: rest := fun h => absent h.isInfix
    have later : ¬ mark <:+: rest := fun h => absent (h.trans (List.suffix_cons c rest).isInfix)
    rw [escape_char here, ih later]

/-- Backslashes are all that an escaped text has more than the text. -/
theorem prefix_of_prefix_escape (nonempty : mark ≠ []) (plain : '\\' ∉ p)
    (h : p <+: escape mark s) : p <+: s := by
  induction s using escape_induction nonempty generalizing p with
  | nil => rwa [escape_nil] at h
  | marked s ih =>
    rw [escape_mark nonempty, List.cons_append] at h
    cases p with
    | nil => exact List.nil_prefix
    | cons a p =>
      have first : a = '\\' := (List.cons_prefix_cons.mp h).1
      exact absurd List.mem_cons_self (first ▸ plain)
  | char c s starts ih =>
    rw [escape_char starts] at h
    cases p with
    | nil => exact List.nil_prefix
    | cons a p =>
      obtain ⟨same, further⟩ := List.cons_prefix_cons.mp h
      have tail : p <+: s := ih (fun mem => plain (List.mem_cons_of_mem a mem)) further
      exact List.cons_prefix_cons.mpr ⟨same, tail⟩

theorem mem_escape (nonempty : mark ≠ []) (h : c ∈ escape mark s) : c = '\\' ∨ c ∈ s := by
  induction s using escape_induction nonempty with
  | nil =>
    rw [escape_nil] at h
    exact .inr h
  | marked s ih =>
    rw [escape_mark nonempty, List.cons_append, List.mem_cons, List.mem_append] at h
    rcases h with rfl | inMark | later
    · exact .inl rfl
    · exact .inr (List.mem_append_left _ inMark)
    · exact (ih later).imp_right (List.mem_append_right _)
  | char d s starts ih =>
    rw [escape_char starts, List.mem_cons] at h
    rcases h with rfl | later
    · exact .inr List.mem_cons_self
    · exact (ih later).imp_right (List.mem_cons_of_mem d)

/-- An escaped text does not start with the mark. -/
theorem not_prefix_escape (nonempty : mark ≠ []) (plain : '\\' ∉ mark) (s : Text) :
    ¬ mark <+: escape mark s := by
  intro h
  have starts : mark <+: s := prefix_of_prefix_escape nonempty plain h
  obtain ⟨after, rfl⟩ := starts
  rw [escape_mark nonempty, List.cons_append] at h
  obtain ⟨m, ms, rfl⟩ := List.exists_cons_of_ne_nil nonempty
  have first : m = '\\' := (List.cons_prefix_cons.mp h).1
  exact plain (first ▸ List.mem_cons_self)

/-! ### Lines -/

theorem lines_append (p s : Text) (unbroken : ∀ c ∈ p, isBlank c = false) :
    lines (p ++ s) = p.foldr consHead (lines s) := by
  have absent {c : Char} (blank : isBlank c = true) : c ∉ p := by
    intro mem
    rw [unbroken c mem] at blank
    cases blank
  have uncut : p.getLast? = some '\r' → s.head? ≠ some '\n' := fun last =>
    absurd (List.mem_of_mem_getLast? last) (absent (by decide))
  exact lines_append_feedless (absent (by decide)) uncut

/-- The first line stands at the front of the text. -/
theorem prefix_of_lines {first : Text} {more : List Text} (h : lines s = first :: more) :
    first <+: s := by
  induction s using lines.induct generalizing first more with
  | case1 => cases h
  | case2 rest ih =>
    cases h
    exact List.nil_prefix
  | case3 rest ih =>
    cases h
    exact List.nil_prefix
  | case4 c rest crlf feed ih =>
    rw [lines] at h
    · cases inner : lines rest with
      | nil =>
        rw [inner] at h
        cases h
        exact List.cons_prefix_cons.mpr ⟨rfl, List.nil_prefix⟩
      | cons head tail =>
        rw [inner] at h
        cases h
        exact List.cons_prefix_cons.mpr ⟨rfl, ih inner⟩
    all_goals assumption

theorem escape_blank {c : Char} (blank : isBlank c = true) (nonempty : mark ≠ [])
    (unbroken : ∀ c ∈ mark, isBlank c = false) (s : Text) :
    escape mark (c :: s) = c :: escape mark s := by
  apply escape_char
  intro starts
  obtain ⟨m, ms, rfl⟩ := List.exists_cons_of_ne_nil nonempty
  have first : m = c := (List.cons_prefix_cons.mp starts).1
  have visible : isBlank m = false := unbroken m List.mem_cons_self
  rw [first, blank] at visible
  cases visible

/-- The lines of an escaped text are its lines, escaped. -/
theorem lines_escape (nonempty : mark ≠ []) (unbroken : ∀ c ∈ mark, isBlank c = false) (s : Text) :
    lines (escape mark s) = (lines s).map (escape mark) := by
  induction s using escape_induction nonempty with
  | nil => rw [escape_nil, lines, List.map_nil]
  | marked s ih =>
    have unbroken' : ∀ c ∈ '\\' :: mark, isBlank c = false :=
      List.forall_mem_cons.mpr ⟨by decide, unbroken⟩
    rw [escape_mark nonempty, lines_append _ _ unbroken', lines_append _ _ unbroken, ih]
    cases lines s with
    | nil =>
      have alone : escape mark mark = '\\' :: mark := by
        simpa using escape_mark nonempty []
      rw [List.map_nil, foldr_consHead_nil nonempty, foldr_consHead_nil (List.cons_ne_nil _ _),
        List.map_singleton, alone]
    | cons first more =>
      rw [List.map_cons, foldr_consHead_cons, foldr_consHead_cons, List.map_cons,
        escape_mark nonempty]
  | char c s starts ih =>
    rw [escape_char starts]
    by_cases feed : c = '\n'
    · rw [feed, lines_feed, lines_feed, List.map_cons, ih, escape_nil]
    by_cases terminator : c = '\r' ∧ s.head? = some '\n'
    · obtain ⟨rfl, next⟩ := terminator
      obtain ⟨rest, rfl⟩ := List.head?_eq_some_iff.mp next
      rw [escape_blank (by decide) nonempty unbroken, lines_feed, lines_feed, List.map_cons,
        List.cons.injEq] at ih
      rw [escape_blank (by decide) nonempty unbroken, lines, lines, List.map_cons, ih.2, escape_nil]
    · have unended : c = '\r' → s.head? ≠ some '\n' := fun cr next => terminator ⟨cr, next⟩
      have unended' : c = '\r' → (escape mark s).head? ≠ some '\n' := by
        intro cr next
        obtain ⟨rest, whole⟩ := List.head?_eq_some_iff.mp next
        have front : ['\n'] <+: escape mark s := ⟨rest, whole.symm⟩
        obtain ⟨rest', rfl⟩ := prefix_of_prefix_escape nonempty (by decide) front
        exact unended cr rfl
      rw [lines_cons feed unended, lines_cons feed unended', ih]
      cases inner : lines s with
      | nil =>
        have alone : escape mark [c] = [c] := by
          rw [escape_char fun h => starts (h.trans (List.cons_prefix_cons.mpr
            ⟨rfl, List.nil_prefix⟩)), escape_nil]
        rw [List.map_nil, consHead, List.map_singleton, alone]
      | cons first more =>
        -- The mark would start the text if it started the first line.
        have front : c :: first <+: c :: s :=
          List.cons_prefix_cons.mpr ⟨rfl, prefix_of_lines inner⟩
        rw [List.map_cons, consHead, consHead, List.map_cons,
          escape_char fun h => starts (h.trans front)]

end

end Text

/-! ## Substitution and meaning -/

/-- A backslash is enough to take the meaning from the mark, and no other mark gets in the way. -/
structure Indicators.Escapable (ind : Indicators) : Prop where
  nonempty : ind.mark ≠ []
  unbroken : ∀ c ∈ ind.mark, isBlank c = false
  plain : '\\' ∉ ind.mark
  leads : ∀ option mark, (option, mark) ∈ ind.named → ind.mark <+: mark

section

variable {mark : Text}

theorem Segment.first_escaped (mark : Text) (before : Option Char) (after : Text) :
    first mark before '\\' (mark ++ after) = (escapedMark, after) := by
  have found : Text.stripPrefix? mark (mark ++ after) = some after :=
    Text.stripPrefix?_eq_some_iff.mpr rfl
  rw [first, if_pos rfl, found]

theorem Segment.fillAll_escape (nonempty : mark ≠ []) (plain : '\\' ∉ mark) (strict : Bool)
    (vars : Lookup) (before : Option Char) (s : Text) :
    fillAll mark strict vars (listFrom mark before (Text.escape mark s)) = .ok s := by
  induction s using Text.escape_induction nonempty generalizing before with
  | nil => rw [Text.escape_nil, listFrom, fillAll]
  | marked s ih =>
    rw [Text.escape_mark nonempty, List.cons_append, listFrom, first_escaped, fillAll, ih]
    rfl
  | char c s starts ih =>
    have here : ¬ mark <+: c :: Text.escape mark s := by
      rw [← Text.escape_char starts]
      exact Text.not_prefix_escape nonempty plain (c :: s)
    have next : ¬ mark <+: Text.escape mark s := Text.not_prefix_escape nonempty plain s
    rw [Text.escape_char starts, listFrom, first_char here next, fillAll, ih]
    rfl

/-- To put in the values of variables undoes the escaping, whatever variables there are. -/
theorem substitute_escape (nonempty : mark ≠ []) (plain : '\\' ∉ mark) (strict : Bool)
    (vars : Lookup) (s : Text) : substitute mark strict vars (Text.escape mark s) = .ok s := by
  have used : ¬ mark.isEmpty = true := by rwa [List.isEmpty_iff]
  rw [substitute_eq, Segment.listOf, if_neg used]
  exact Segment.fillAll_escape nonempty plain strict vars none s

theorem Text.trimStart_escape (nonempty : mark ≠ []) (unbroken : ∀ c ∈ mark, isBlank c = false)
    (s : Text) : trimStart (escape mark s) = escape mark (trimStart s) := by
  unfold trimStart
  induction s using escape_induction nonempty with
  | nil => rw [escape_nil, List.dropWhile_nil, escape_nil]
  | marked s ih =>
    obtain ⟨m, ms, rfl⟩ := List.exists_cons_of_ne_nil nonempty
    have visible : ¬ isBlank m = true := by simp [unbroken m List.mem_cons_self]
    have backslash : ¬ isBlank '\\' = true := by decide
    rw [List.cons_append, List.dropWhile_cons_of_neg visible, ← List.cons_append,
      escape_mark nonempty, List.cons_append, List.dropWhile_cons_of_neg backslash]
  | char c s starts ih =>
    rw [escape_char starts]
    by_cases blank : isBlank c = true
    · rw [List.dropWhile_cons_of_pos blank, List.dropWhile_cons_of_pos blank, ih]
    · rw [List.dropWhile_cons_of_neg blank, List.dropWhile_cons_of_neg blank, escape_char starts]

theorem Indicators.mem_of_mem_insertByLength {new mark : Text × CursorOp}
    {marks : List (Text × CursorOp)} (h : mark ∈ insertByLength new marks) :
    mark = new ∨ mark ∈ marks := by
  induction marks with
  | nil => exact List.mem_cons.mp h
  | cons other rest ih =>
    rw [insertByLength] at h
    split at h
    · exact List.mem_cons.mp h
    · rcases List.mem_cons.mp h with rfl | h
      · exact .inr List.mem_cons_self
      · exact (ih h).imp_right (List.mem_cons_of_mem other)

theorem Indicators.mem_of_mem_sorted {mark : Text × CursorOp} {marks : List (Text × CursorOp)}
    (h : mark ∈ marks.foldr insertByLength []) : mark ∈ marks := by
  induction marks with
  | nil => exact h
  | cons new rest ih =>
    rcases mem_of_mem_insertByLength h with rfl | h
    · exact List.mem_cons_self
    · exact List.mem_cons_of_mem new (ih h)

end

namespace Indicators.Escapable

variable {ind : Indicators}

theorem of_validated (valid : ind.validated = .ok ind) (plain : '\\' ∉ ind.mark)
    (leads : ∀ option mark, (option, mark) ∈ ind.named → ind.mark <+: mark) :
    ind.Escapable :=
  have usable := (validated_eq_ok_iff.mp valid).1
  { nonempty := usable.nonempty .short
    unbroken := usable.unbroken .short
    plain
    leads }

/-- A word that does not start with the mark starts with none of the others either. -/
theorem cursorOp?_eq_none (h : ind.Escapable) {word : Text} (starts : ¬ ind.mark <+: word) :
    ind.cursorOp? word = none := by
  rw [cursorOp?, List.findSome?_eq_none_iff]
  rintro ⟨mark, op⟩ mem
  have known : ∃ option, (option, mark) ∈ ind.named := by
    have inList := mem_of_mem_sorted mem
    simp only [cursorMarks, List.mem_cons, Prod.mk.injEq, List.not_mem_nil, or_false] at inList
    simp only [named, List.mem_cons, Prod.mk.injEq, List.not_mem_nil, or_false]
    rcases inList with ⟨rfl, -⟩ | ⟨rfl, -⟩ | ⟨rfl, -⟩ | ⟨rfl, -⟩
    · exact ⟨"cursor_open", by simp⟩
    · exact ⟨"cursor_close", by simp⟩
    · exact ⟨"cursor_query", by simp⟩
    · exact ⟨"cursor_select", by simp⟩
  obtain ⟨option, mem⟩ := known
  have other : ¬ mark <+: word := fun p => starts ((h.leads option mark mem).trans p)
  dsimp only
  rw [Text.stripPrefix?_eq_none_iff.mpr other, Option.map_none]

theorem keyword?_eq_none (h : ind.Escapable) {word : Text} (starts : ¬ ind.mark <+: word) :
    Statement.keyword? ind word = none := by
  have known : ("meta_command_indicator", ind.longMark) ∈ ind.named :=
    List.mem_cons_of_mem _ List.mem_cons_self
  have long : ¬ ind.longMark <+: word := fun p => starts ((h.leads _ _ known).trans p)
  rw [Statement.keyword?, Text.stripPrefix?_eq_none_iff.mpr long,
    Text.stripPrefix?_eq_none_iff.mpr starts]
  rfl

/-- An escaped line is literal text, whatever macros are known. -/
theorem classify_escape (h : ind.Escapable) (isMacro : Text → Bool) (line : Text) :
    Statement.classify ind isMacro (Text.escape ind.mark line) =
      .ok ⟨Text.escape ind.mark line, .literal⟩ := by
  have word : ¬ ind.mark <+: (Text.escape ind.mark line).trim.splitWord.1 := by
    intro starts
    have front : (Text.escape ind.mark line).trim.splitWord.1 <+:
        Text.escape ind.mark line.trimStart := by
      rw [← Text.trimStart_escape h.nonempty h.unbroken]
      exact (List.takeWhile_prefix _).trans (Text.trimEnd_prefix _)
    exact Text.not_prefix_escape h.nonempty h.plain _ (starts.trans front)
  unfold Statement.classify
  by_cases empty : (Text.escape ind.mark line).trim.isEmpty = true
  · rw [if_pos empty]
  · rw [if_neg empty]
    dsimp only
    rw [Statement.contentOf, h.cursorOp?_eq_none word]
    dsimp only
    rw [h.keyword?_eq_none word]
    rfl

end Indicators.Escapable

/-! ## Rendering -/

/-- A source that supplies some lines, escaped. -/
def Source.escaped (mark : Text) (lines : List Text) : Source :=
  lines.map fun line => .ok (Text.escape mark line)

namespace Run

variable {env : Environment} {loops deeper : Run → Visit → Outcome}

/-- Literal text in live text is put out, and nothing else happens. -/
theorem route_literal {run : Run} {raw text : Text} (uncaptured : run.captures.isCapturing = false)
    (live : run.conditionals.isActive = true)
    (meaning : run.classify env raw = .ok ⟨raw, .literal⟩)
    (value : run.substitute env raw = .ok text) (location : Location) :
    run.route env ⟨raw, location⟩ = .ok ({ run with
      cursors := run.cursors.emit (if text.isEmpty then [] else run.margin ++ text) }, .none) := by
  rw [route, if_neg (by simp [uncaptured]), meaning]
  dsimp only
  rw [execute]
  dsimp only
  rw [if_pos live, emit, value]
  rfl

theorem process_escape (run : Run) (h : env.config.indicators.Escapable)
    (uncaptured : run.captures.isCapturing = false) (live : run.conditionals.isActive = true)
    (unindented : run.margin = []) (line : Text) (location : Location) :
    process env loops deeper run ⟨Text.escape env.config.indicators.mark line, location⟩ =
      .ok { run with cursors := run.cursors.emit line } := by
  have value : run.substitute env (Text.escape env.config.indicators.mark line) = .ok line :=
    substitute_escape h.nonempty h.plain _ _ line
  have meaning : run.classify env (Text.escape env.config.indicators.mark line) =
      .ok ⟨Text.escape env.config.indicators.mark line, .literal⟩ :=
    h.classify_escape run.macros.contains line
  have same : (if line.isEmpty then [] else run.margin ++ line) = line := by
    rw [unindented]
    cases line <;> rfl
  rw [process, route_literal uncaptured live meaning value, same]
  rfl

/-- What is left of a file is put out line by line. -/
theorem readFile_escape (run : Run) (h : env.config.indicators.Escapable) {path : Text}
    {n bound : Nat} {frames : List FileFrame} (origin : Location) (lines : List Text)
    (uncaptured : run.captures.isCapturing = false) (live : run.conditionals.isActive = true)
    (unindented : run.margin = []) (enough : lines.length < bound)
    (files : run.files =
      ⟨⟨path, Source.escaped env.config.indicators.mark lines, n⟩ :: frames⟩) :
    readFile (process env loops deeper) origin bound run =
      .ok { run with
        cursors := lines.foldl CursorDirectory.emit run.cursors
        files := ⟨⟨path, [], n + lines.length⟩ :: frames⟩ } := by
  induction lines generalizing run n bound with
  | nil =>
    obtain ⟨bound, rfl⟩ := Nat.exists_eq_add_of_lt enough
    have same : run.files = ⟨⟨path, [], n⟩ :: frames⟩ := files
    rw [readFile_nil same, List.length_nil, Nat.add_zero, List.foldl_nil, ← same]
  | cons line lines ih =>
    obtain ⟨bound, rfl⟩ := Nat.exists_eq_add_of_lt enough
    let rest : FileStack :=
      ⟨⟨path, Source.escaped env.config.indicators.mark lines, n + 1⟩ :: frames⟩
    have processed : process env loops deeper { run with files := rest }
        ⟨Text.escape env.config.indicators.mark line, ⟨path, n + 1⟩⟩ =
          .ok { run with cursors := run.cursors.emit line, files := rest } :=
      process_escape { run with files := rest } h uncaptured live unindented line _
    have shorter : lines.length < (line :: lines).length + bound := by
      rw [List.length_cons]
      omega
    rw [readFile_cons files processed,
      ih { run with cursors := run.cursors.emit line, files := rest } uncaptured live unindented
        shorter rfl,
      List.foldl_cons, List.length_cons, Nat.add_assoc, Nat.add_comm 1]

end Run

/-! ## Whole texts -/

theorem CursorDirectory.foldl_emit (lines : List Text) (written : List Piece) :
    lines.foldl emit { main := ⟨written⟩ } =
      { main := ⟨(lines.map Piece.line).reverse ++ written⟩ } := by
  induction lines generalizing written with
  | nil => rfl
  | cons line lines ih =>
    rw [List.foldl_cons, List.map_cons, List.reverse_cons, List.append_assoc]
    exact ih (.line line :: written)

/-- Lines that are put out without a cursor are the lines of the document. -/
theorem CursorDirectory.render_emitted (lines : List Text) :
    (lines.foldl emit {}).render = { lines, cursors := [] } := by
  have emitted := foldl_emit lines []
  have pieces : (⟨(lines.map Piece.line).reverse ++ []⟩ : Buffer).pieces = lines.map .line := by
    rw [Buffer.pieces, List.append_nil, List.reverse_reverse]
  have spliced : splice 0 [] (lines.map .line) = lines := by
    rw [splice, List.flatMap_map]
    exact List.flatMap_singleton' lines
  change (lines.foldl emit { main := ⟨[]⟩ }).render = _
  rw [emitted, render]
  dsimp only
  rw [pieces, ownLines, spliced]
  rfl

theorem Run.visitBelow_escape {env : Environment} (h : env.config.indicators.Escapable)
    (settings : Settings) (levels : Nat) (path : Text) (lines : List Text) (origin : Location) :
    visitBelow env (levels + 1) { settings }
        (.file { key := path, source := Source.escaped env.config.indicators.mark lines
                 margin := [], origin }) =
      .ok { settings, cursors := lines.foldl CursorDirectory.emit {} } := by
  let source := Source.escaped env.config.indicators.mark lines
  let begun : Run := { settings, files := ⟨[{ path, unread := source }]⟩ }
  have enough : lines.length < source.length + 1 := by
    have same : source.length = lines.length := List.length_map ..
    omega
  have read : readFile (stepWithin env levels source.length) origin (source.length + 1) begun =
      .ok { begun with
        cursors := lines.foldl CursorDirectory.emit {}
        files := ⟨[⟨path, [], 0 + lines.length⟩]⟩ } :=
    readFile_escape begun h origin lines rfl rfl rfl enough rfl
  change (readFile (stepWithin env levels source.length) origin (source.length + 1) begun >>=
    fun finished => finish { settings } finished
      (.file { key := path, source, margin := [], origin })) = _
  rw [read, Outcome.ok_bind, CursorDirectory.foldl_emit lines []]
  rfl

namespace Engine

/-- Escaped text passes through: it is rendered, whatever the options, the settings and the files
are, and what comes out are the lines of the text. Where a text does not mention the mark there is
nothing to escape. -/
theorem escaped_text_passes (engine : Engine) (name text : Text)
    (valid : engine.env.config.indicators.validated = .ok engine.env.config.indicators)
    (plain : '\\' ∉ engine.env.config.indicators.mark)
    (leads : ∀ option mark, (option, mark) ∈ engine.env.config.indicators.named →
      engine.env.config.indicators.mark <+: mark) :
    engine.renderText name (Text.escape engine.env.config.indicators.mark text) =
        .ok { document := { lines := text.lines, cursors := [] }, evaluations := [] } ∧
      (¬ engine.env.config.indicators.mark <:+: text → engine.renderText name text =
        .ok { document := { lines := text.lines, cursors := [] }, evaluations := [] }) := by
  have h : engine.env.config.indicators.Escapable := .of_validated valid plain leads
  have source : Source.ofText (Text.escape engine.env.config.indicators.mark text) =
      Source.escaped engine.env.config.indicators.mark text.lines := by
    rw [Source.ofText, Text.lines_escape h.nonempty h.unbroken, List.map_map]
    rfl
  have passes : engine.renderText name (Text.escape engine.env.config.indicators.mark text) =
      .ok { document := { lines := text.lines, cursors := [] }, evaluations := [] } := by
    have visited := Run.visitBelow_escape h engine.settings engine.env.config.maxDepth name
      text.lines ⟨name, 0⟩
    rw [renderText, source, renderSource, visited, Outcome.map_ok, CursorDirectory.render_emitted]
    rfl
  refine ⟨passes, fun absent => ?_⟩
  rwa [Text.escape_of_not_infix absent] at passes

/-- Marks of which the first one can overlap with itself. -/
def doubled : Indicators where
  mark := "@@".toList
  longMark := "@@#".toList
  cursorOpen := "@@(".toList
  cursorClose := "@@)".toList
  cursorQuery := "@@?".toList
  cursorSelect := "@@:".toList

def doubledEngine : Engine where
  env :=
    { config := { indicators := doubled, strict := true }, tables := fun _ => none
      loader := Loader.ofMemory ⟨[]⟩, evaluator := evaluateCondition }

/-- Three marks in a row, one behind a backslash, and a line that would be a directive. -/
theorem escaped_text_passes_overlapping :
    doubled.validated = .ok doubled ∧ '\\' ∉ doubled.mark ∧
      (∀ option mark, (option, mark) ∈ doubled.named → doubled.mark <+: mark) ∧
      Text.escape doubled.mark "@@@x \\@@y\r\n\n @@#END_IF".toList =
        "\\@@@x \\\\@@y\r\n\n \\@@#END_IF".toList ∧
      doubledEngine.renderText ['t'] "\\@@@x \\\\@@y\r\n\n \\@@#END_IF".toList =
        .ok
          { document :=
              { lines := ["@@@x \\@@y".toList, [], " @@#END_IF".toList], cursors := [] }
            evaluations := [] } := by
  have valid : doubled.validated = .ok doubled := by cbv
  have plain : '\\' ∉ doubled.mark := by decide
  have leads : ∀ option mark, (option, mark) ∈ doubled.named → doubled.mark <+: mark := by
    have all : ∀ entry ∈ doubled.named, doubled.mark <+: entry.2 := by decide
    exact fun option mark mem => all (option, mark) mem
  have escaped : Text.escape doubled.mark "@@@x \\@@y\r\n\n @@#END_IF".toList =
      "\\@@@x \\\\@@y\r\n\n \\@@#END_IF".toList := by cbv
  have lines : Text.lines "@@@x \\@@y\r\n\n @@#END_IF".toList =
      ["@@@x \\@@y".toList, [], " @@#END_IF".toList] := by cbv
  have passes := (escaped_text_passes doubledEngine ['t'] "@@@x \\@@y\r\n\n @@#END_IF".toList
    valid plain leads).1
  rw [lines] at passes
  exact ⟨valid, plain, leads, escaped, escaped ▸ passes⟩

end Engine

end LineTemplate
