import LineTemplate.Proofs.Lines.Terminators

/-!
# Sources of bytes

A file supplies bytes, which are cut behind each line feed and read as UTF-8 piece by piece. No
character is cut by this, because the byte of a line feed is part of no other character. So the
bytes of a text supply the lines that the text has, and bytes that are no text supply lines up to
the first piece that is none.
-/

namespace LineTemplate

/-! ## UTF-8 -/

namespace Text

variable {s : Text} {c : Char} {bytes chunk after : List UInt8}

/-- The bytes that spell a text in UTF-8. -/
def utf8 (s : Text) : List UInt8 :=
  s.str.toUTF8.data.toList

theorem utf8_eq (s : Text) : s.utf8 = s.flatMap String.utf8EncodeChar :=
  List.toList_data_toByteArray

theorem utf8_append (s t : Text) : utf8 (s ++ t) = s.utf8 ++ t.utf8 := by
  rw [utf8_eq, utf8_eq, utf8_eq, List.flatMap_append]

theorem utf8_feed : utf8 ['\n'] = [10] := by
  decide

theorem utf8_ne_nil (nonempty : s ≠ []) : s.utf8 ≠ [] := by
  obtain ⟨c, rest, rfl⟩ := List.exists_cons_of_ne_nil nonempty
  rw [utf8_eq, List.flatMap_cons]
  exact List.append_ne_nil_of_left_ne_nil String.utf8EncodeChar_ne_nil _

/-- Only a line feed is spelled with the byte of a line feed. -/
theorem eq_feed_of_mem_utf8EncodeChar (h : 10 ∈ String.utf8EncodeChar c) : c = '\n' := by
  have code : c.toNat = 10 := by
    rw [String.utf8EncodeChar] at h
    split at h
    · rename_i ascii
      have byte := congrArg UInt8.toNat (List.mem_singleton.mp h)
      simp only [UInt8.toNat_ofNat', Char.toNat_val] at byte ascii
      change 10 = _ at byte
      omega
    -- All bytes of longer spellings are above those of ASCII.
    · exfalso
      split at h
      · simp [← UInt8.toNat_inj] at h
        omega
      · split at h <;> (simp [← UInt8.toNat_inj] at h; omega)
  rw [← Char.ofNat_toNat c, code]

theorem feed_mem_utf8_iff : 10 ∈ s.utf8 ↔ '\n' ∈ s := by
  rw [utf8_eq, List.mem_flatMap]
  constructor
  · rintro ⟨c, mem, byte⟩
    exact eq_feed_of_mem_utf8EncodeChar byte ▸ mem
  · exact fun mem => ⟨'\n', mem, by decide⟩

theorem getLast?_of_utf8 (h : s.utf8 = chunk ++ [10]) : s.getLast? = some '\n' := by
  cases last : s.getLast? with
  | none =>
    rw [List.getLast?_eq_none_iff.mp last] at h
    exact absurd h.symm (List.append_ne_nil_of_right_ne_nil _ (List.cons_ne_nil _ _))
  | some c =>
    obtain ⟨before, rfl⟩ := List.getLast?_eq_some_iff.mp last
    have single : utf8 [c] = String.utf8EncodeChar c := by
      rw [utf8_eq, List.flatMap_singleton]
    have ending := congrArg List.getLast? h
    rw [utf8_append, single, List.getLast?_append_of_ne_nil _ String.utf8EncodeChar_ne_nil,
      List.getLast?_concat] at ending
    rw [eq_feed_of_mem_utf8EncodeChar (List.mem_of_mem_getLast? ending)]

/-- Bytes are read as the text that they spell. -/
theorem ofUtf8?_eq_some_iff : ofUtf8? bytes = some s ↔ s.utf8 = bytes := by
  rw [ofUtf8?, String.fromUTF8?]
  constructor
  · intro h
    split at h
    · cases h
      rw [utf8, str, String.ofList_toList]
      rfl
    · cases h
  · rintro rfl
    have valid : (⟨s.utf8.toArray⟩ : ByteArray).IsValidUTF8 := s.str.isValidUTF8
    rw [dif_pos valid]
    exact congrArg some String.toList_ofList

/-! ## Pieces of bytes -/

/-- The bytes up to a line feed, and it too, or all bytes if there is none. -/
inductive FirstPiece : (chunk after : List UInt8) → Prop where
  | ended {body after : List UInt8} (feedless : 10 ∉ body) : FirstPiece (body ++ [10]) after
  | unended {chunk : List UInt8} (nonempty : chunk ≠ []) (feedless : 10 ∉ chunk) :
      FirstPiece chunk []

theorem byteChunks_cons {b : UInt8} (other : b ≠ 10)
    {chunks : List (List UInt8)} (h : byteChunks bytes = chunk :: chunks) :
    byteChunks (b :: bytes) = (b :: chunk) :: chunks := by
  rw [byteChunks, if_neg other, h]

theorem byteChunks_append (h : FirstPiece chunk after) :
    byteChunks (chunk ++ after) = chunk :: byteChunks after := by
  cases h with
  | @ended body after feedless =>
    induction body with
    | nil => rw [List.nil_append, List.singleton_append, byteChunks, if_pos rfl]
    | cons b body ih =>
      obtain ⟨here, later⟩ := not_or.mp (mt List.mem_cons.mpr feedless)
      exact byteChunks_cons (Ne.symm here) (ih later)
  | unended nonempty feedless =>
    rw [List.append_nil]
    induction chunk with
    | nil => exact absurd rfl nonempty
    | cons b chunk ih =>
      obtain ⟨here, later⟩ := not_or.mp (mt List.mem_cons.mpr feedless)
      cases chunk with
      | nil => simp [byteChunks, Ne.symm here]
      | cons d chunk => exact byteChunks_cons (Ne.symm here) (ih (List.cons_ne_nil d chunk) later)

theorem firstPiece_feed (feedless : '\n' ∉ s) (after : List UInt8) :
    FirstPiece (utf8 (s ++ ['\n'])) after := by
  rw [utf8_append, utf8_feed]
  exact .ended (mt feed_mem_utf8_iff.mp feedless)

theorem firstPiece_unended (nonempty : s ≠ []) (feedless : '\n' ∉ s) : FirstPiece s.utf8 [] :=
  .unended (utf8_ne_nil nonempty) (mt feed_mem_utf8_iff.mp feedless)

end Text

namespace Source

open Text (FirstPiece)

variable {s : Text} {lines : List Text} {bytes chunk after : List UInt8}

theorem ofBytes_append (h : FirstPiece s.utf8 after) :
    ofBytes (s.utf8 ++ after) = .ok s.chomp :: ofBytes after := by
  have read : Text.ofUtf8? s.utf8 = some s := Text.ofUtf8?_eq_some_iff.mpr rfl
  rw [ofBytes, Text.byteChunks_append h, List.map_cons, Text.lineOfChunk?, read]
  rfl

theorem ofBytes_append_invalid (h : FirstPiece chunk after) (invalid : ∀ s : Text, s.utf8 ≠ chunk) :
    ofBytes (chunk ++ after) = .error .invalidUtf8 :: ofBytes after := by
  have unread : Text.ofUtf8? chunk = none := by
    rw [Option.eq_none_iff_forall_ne_some]
    exact fun s => mt Text.ofUtf8?_eq_some_iff.mp (invalid s)
  rw [ofBytes, Text.byteChunks_append h, List.map_cons, Text.lineOfChunk?, unread]
  rfl

/-- The bytes of a text supply its lines, and what comes behind them is read on its own. -/
theorem ofBytes_utf8_append (h : s.HasLines lines)
    (ended : bytes = [] ∨ ∀ c ∈ s.getLast?, c = '\n') :
    ofBytes (s.utf8 ++ bytes) = lines.map .ok ++ ofBytes bytes := by
  -- What ends the text ends what is left of it after a line.
  have later {t u : Text} (ended : bytes = [] ∨ ∀ c ∈ (t ++ u).getLast?, c = '\n') :
      bytes = [] ∨ ∀ c ∈ u.getLast?, c = '\n' := by
    refine ended.imp_right fun all c mem => all c ?_
    rw [List.getLast?_append, Option.mem_def.mp mem]
    rfl
  induction h with
  | nil => rfl
  | @unended s nonempty feedless =>
    have behind : bytes = [] := by
      refine ended.resolve_right fun all => feedless ?_
      have last := List.getLast?_eq_getLast_of_ne_nil nonempty
      exact all _ last ▸ List.getLast_mem nonempty
    rw [behind, ofBytes_append (Text.firstPiece_unended nonempty feedless),
      Text.chomp_feedless feedless]
    rfl
  | @feed s t lines feedless kept _ ih =>
    have line : s ++ '\n' :: t = (s ++ ['\n']) ++ t := by simp
    rw [line] at ended ⊢
    rw [Text.utf8_append, List.append_assoc, ofBytes_append (Text.firstPiece_feed feedless _),
      Text.chomp_feed kept, ih (later ended)]
    rfl
  | @carriage s t lines feedless _ ih =>
    have line : s ++ '\r' :: '\n' :: t = ((s ++ ['\r']) ++ ['\n']) ++ t := by simp
    have feedless' : '\n' ∉ s ++ ['\r'] := by simpa using feedless
    have chomped : ((s ++ ['\r']) ++ ['\n']).chomp = s := by
      rw [List.append_assoc]
      exact Text.chomp_carriage s
    rw [line] at ended ⊢
    rw [Text.utf8_append, List.append_assoc, ofBytes_append (Text.firstPiece_feed feedless' _),
      chomped, ih (later ended)]
    rfl

theorem ofBytes_utf8 (h : s.HasLines lines) : ofBytes s.utf8 = lines.map .ok := by
  have nothing : ([] : List UInt8) = [] := rfl
  have whole := ofBytes_utf8_append h (.inl nothing)
  rwa [List.append_nil, show ofBytes [] = [] from rfl, List.append_nil] at whole

theorem ofText_eq (h : s.HasLines lines) : ofText s = lines.map .ok := by
  rw [ofText, Text.hasLines_iff.mp h]

/-- Bytes that are no text: lines of text, and then the first piece that spells no text. -/
structure Breaks (bytes : List UInt8) (before : Text) (chunk after : List UInt8) : Prop where
  whole : bytes = before.utf8 ++ (chunk ++ after)
  ended : ∀ c ∈ before.getLast?, c = '\n'
  piece : FirstPiece chunk after
  invalid : ∀ s : Text, s.utf8 ≠ chunk

theorem Breaks.prepend {before : Text} (h : Breaks bytes before chunk after)
    (ended : s.getLast? = some '\n') : Breaks (s.utf8 ++ bytes) (s ++ before) chunk after where
  whole := by rw [h.whole, Text.utf8_append, List.append_assoc]
  ended c mem := by
    rw [List.getLast?_append, ended] at mem
    cases last : before.getLast? with
    | none =>
      rw [last] at mem
      exact (Option.some.inj mem).symm
    | some d =>
      rw [last] at mem
      exact Option.some.inj mem ▸ h.ended d last
  piece := h.piece
  invalid := h.invalid

theorem breaks_first (h : FirstPiece chunk after) (invalid : ∀ s : Text, s.utf8 ≠ chunk) :
    Breaks (chunk ++ after) [] chunk after where
  whole := rfl
  ended := nofun
  piece := h
  invalid := invalid

/-- Bytes spell a text, or there is a first piece that spells none. -/
theorem spelled_or_breaks (bytes : List UInt8) :
    (∃ s : Text, s.utf8 = bytes) ∨ ∃ before chunk after, Breaks bytes before chunk after := by
  induction bytes using marked_induction (10 : UInt8) with
  | nil => exact .inl ⟨[], rfl⟩
  | unended chunk nonempty feedless =>
    by_cases spelled : ∃ s : Text, s.utf8 = chunk
    · exact .inl spelled
    · have breaks := breaks_first (.unended nonempty feedless) (not_exists.mp spelled)
      rw [List.append_nil] at breaks
      exact .inr ⟨_, _, _, breaks⟩
  | ended body rest feedless ih =>
    have whole : body ++ 10 :: rest = (body ++ [10]) ++ rest := by simp
    rw [whole]
    by_cases spelled : ∃ s : Text, s.utf8 = body ++ [10]
    · obtain ⟨s, spells⟩ := spelled
      rw [← spells]
      rcases ih with ⟨t, rfl⟩ | ⟨before, chunk, after, breaks⟩
      · exact .inl ⟨s ++ t, Text.utf8_append s t⟩
      · exact .inr ⟨_, _, _, breaks.prepend (Text.getLast?_of_utf8 spells)⟩
    · exact .inr ⟨_, _, _, breaks_first (.ended feedless) (not_exists.mp spelled)⟩

/-- Where bytes break, they supply the lines before it, then a fault, and then what the bytes behind
it supply. -/
theorem Breaks.ofBytes_eq {before : Text} (h : Breaks bytes before chunk after)
    (lines_before : before.HasLines lines) :
    ofBytes bytes = lines.map .ok ++ .error .invalidUtf8 :: ofBytes after := by
  rw [h.whole, ofBytes_utf8_append lines_before (.inr h.ended),
    ofBytes_append_invalid h.piece h.invalid]

end Source

/-! ## Reading a file -/

namespace FileStack

variable {path : Text} {outer : List FileFrame} {lines : List Text} {rest : Source} {number n : Nat}

/-- A file of which nothing has been read yet. -/
def opened (path : Text) (source : Source) (outer : List FileFrame) : FileStack :=
  ⟨{ path, unread := source } :: outer⟩

/-- The answers when the next line is asked for again and again. -/
def replies (s : FileStack) : Nat → Option (Except Fault Line)
  | 0 => s.next.1
  | n + 1 => s.next.2.replies n

/-- The answers of a file with some lines: each line with its number, and then nothing for ever. -/
def numbered (path : Text) (lines : List Text) (n : Nat) : Option (Except Fault Line) :=
  lines[n]?.map fun text => .ok ⟨text, ⟨path, n + 1⟩⟩

theorem replies_nil : replies ⟨⟨path, [], number⟩ :: outer⟩ n = none := by
  induction n with
  | zero => rfl
  | succ n ih => exact ih

theorem replies_line (text : Text) :
    replies ⟨⟨path, .ok text :: rest, number⟩ :: outer⟩ (n + 1) =
      replies ⟨⟨path, rest, number + 1⟩ :: outer⟩ n :=
  rfl

theorem replies_of_line {text : Text} (h : lines[n]? = some text) :
    replies ⟨⟨path, lines.map .ok ++ rest, number⟩ :: outer⟩ n =
      some (.ok ⟨text, ⟨path, number + n + 1⟩⟩) := by
  induction lines generalizing number n with
  | nil => cases h
  | cons line lines ih =>
    rw [List.map_cons, List.cons_append]
    cases n with
    | zero =>
      cases h
      rfl
    | succ n =>
      rw [List.getElem?_cons_succ] at h
      rw [replies_line, ih h, Nat.add_right_comm number 1, Nat.add_assoc number n]

/-- When its lines have been read, what is behind them is read. -/
theorem replies_behind (lines : List Text) (rest : Source) (number n : Nat) :
    replies ⟨⟨path, lines.map .ok ++ rest, number⟩ :: outer⟩ (lines.length + n) =
      replies ⟨⟨path, rest, number + lines.length⟩ :: outer⟩ n := by
  induction lines generalizing number with
  | nil => rw [List.length_nil, Nat.zero_add]; rfl
  | cons line lines ih =>
    rw [List.length_cons, Nat.add_right_comm, List.map_cons, List.cons_append, replies_line, ih,
      Nat.add_assoc, Nat.add_comm 1]

theorem numbered_of_line {text : Text} (h : lines[n]? = some text) :
    numbered path lines n = some (.ok ⟨text, ⟨path, n + 1⟩⟩) := by
  rw [numbered, h, Option.map_some]

theorem replies_front (h : n < lines.length) :
    (opened path (lines.map .ok ++ rest) outer).replies n = numbered path lines n := by
  have here := List.getElem?_eq_getElem h
  rw [opened, replies_of_line here, numbered_of_line here, Nat.zero_add]

theorem replies_lines (path : Text) (lines : List Text) (outer : List FileFrame) :
    (opened path (lines.map .ok) outer).replies = numbered path lines := by
  have whole : (lines.map .ok : Source) = lines.map .ok ++ [] := (List.append_nil _).symm
  rw [whole]
  funext n
  rcases Nat.lt_or_ge n lines.length with here | behind
  · exact replies_front here
  · obtain ⟨k, rfl⟩ := Nat.exists_eq_add_of_le behind
    have ended : lines[lines.length + k]? = none := List.getElem?_eq_none behind
    rw [opened, replies_behind, replies_nil, numbered, ended, Option.map_none]

/-- The bytes of a text are read as the text is: line by line, and when there are no more, nothing
more comes. Bytes that are no text are read as lines up to the first piece that is no text, and
there reading fails. -/
theorem bytes_read_as_text (path : Text) (outer : List FileFrame) :
    (∀ text : Text, ∃ lines, text.HasLines lines ∧
      (opened path (.ofText text) outer).replies = numbered path lines ∧
      (opened path (.ofBytes text.utf8) outer).replies = numbered path lines) ∧
    ∀ bytes : List UInt8,
      ((∃ text : Text, text.utf8 = bytes) ∨
        ∃ before chunk after, Source.Breaks bytes before chunk after) ∧
      ∀ before chunk after, Source.Breaks bytes before chunk after →
        ∃ lines, before.HasLines lines ∧
          (∀ n < lines.length,
            (opened path (.ofBytes bytes) outer).replies n = numbered path lines n) ∧
          (opened path (.ofBytes bytes) outer).replies lines.length =
            some (.error (.unreadable path .invalidUtf8)) := by
  refine ⟨fun text => ?_, fun bytes => ⟨Source.spelled_or_breaks bytes, ?_⟩⟩
  · have has := text.hasLines_lines
    refine ⟨text.lines, has, ?_, ?_⟩
    · rw [Source.ofText_eq has, replies_lines]
    · rw [Source.ofBytes_utf8 has, replies_lines]
  · intro before chunk after breaks
    have has := before.hasLines_lines
    refine ⟨before.lines, has, fun n front => ?_, ?_⟩
    · rw [breaks.ofBytes_eq has, replies_front front]
    · rw [breaks.ofBytes_eq has, opened, ← Nat.add_zero before.lines.length, replies_behind]
      rfl

/-- Two bytes that would be the start of a character, if they were not on two lines. -/
theorem bytes_read_as_text_cut :
    Source.Breaks [0x61, 0x0D, 0x0A, 0xC3, 0x0A, 0xA4] "a\r\n".toList [0xC3, 0x0A] [0xA4] ∧
      (opened ['t'] (.ofBytes [0x61, 0x0D, 0x0A, 0xC3, 0x0A, 0xA4]) []).replies 0 =
        some (.ok ⟨['a'], ⟨['t'], 1⟩⟩) ∧
      (opened ['t'] (.ofBytes [0x61, 0x0D, 0x0A, 0xC3, 0x0A, 0xA4]) []).replies 1 =
        some (.error (.unreadable ['t'] .invalidUtf8)) := by
  have unread : Text.ofUtf8? [0xC3, 0x0A] = none := by decide
  have last : "a\r\n".toList.getLast? = some '\n' := by decide
  have feedless : 10 ∉ [(0xC3 : UInt8)] := by decide
  have breaks :
      Source.Breaks [0x61, 0x0D, 0x0A, 0xC3, 0x0A, 0xA4] "a\r\n".toList [0xC3, 0x0A] [0xA4] :=
    { whole := by decide
      ended := fun c mem => Option.some.inj (mem.symm.trans last)
      piece := .ended feedless
      invalid := fun s spells => by
        rw [Text.ofUtf8?_eq_some_iff.mpr spells] at unread
        cases unread }
  obtain ⟨lines, has, front, fails⟩ := ((bytes_read_as_text ['t'] []).2 _).2 _ _ _ breaks
  have one : lines = [['a']] := by
    rw [← Text.hasLines_iff.mp has]
    decide
  subst one
  exact ⟨breaks, front 0 (by decide), fails⟩

end FileStack

end LineTemplate
