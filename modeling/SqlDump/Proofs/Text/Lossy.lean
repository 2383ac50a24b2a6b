import SqlDump.Proofs.Text.Pending

/-!
# Decoding lossily

The decoder gives the one text that stands for the bytes.  It replaces where no
character starts, and what it replaces there is the longest start of a character
or a single byte.
-/

namespace SqlDump

namespace Utf8

namespace Decoder

/-! ## What was replaced -/

theorem intact_begin {decoder : Decoder} (broken : decoder.intact = false) (byte : UInt8) :
    (decoder.begin byte).intact = false := by
  rw [begin]
  split
  · exact broken
  · split
    · exact broken
    · rfl

theorem intact_feed {decoder : Decoder} (broken : decoder.intact = false) (byte : UInt8) :
    (decoder.feed byte).intact = false := by
  rw [feed]
  split
  · exact intact_begin broken byte
  · split
    · simp only
      split
      · exact broken
      · exact broken
    · exact intact_begin rfl byte

theorem intact_run {decoder : Decoder} (broken : decoder.intact = false) (bytes : List UInt8) :
    (decoder.run bytes).intact = false := by
  induction bytes generalizing decoder with
  | nil => exact broken
  | cons byte bytes ih => exact ih (intact_feed broken byte)

/-- In the bytes of a character nothing is replaced. -/
theorem not_isStart_of_broken {part : List UInt8} (broken : (start.run part).intact = false) :
    ¬ IsStart part := by
  rintro ⟨c, rest, whole⟩
  have read : start.run (String.utf8EncodeChar c) = ⟨none, [c], true⟩ :=
    run_utf8EncodeChar [] true c
  have later := intact_run broken rest
  rw [← run_append, whole, read] at later
  cases later

/-- Behind the bytes of a character the character is written. -/
theorem not_prefix_of_unwritten {part : List UInt8} (unwritten : (start.run part).written = [])
    (c : Char) : ¬ String.utf8EncodeChar c <+: part := by
  rintro ⟨rest, rfl⟩
  have read : start.run (String.utf8EncodeChar c) = ⟨none, [c], true⟩ :=
    run_utf8EncodeChar [] true c
  have later := run_after ⟨none, [c], true⟩ start rest
  rw [after_start rfl] at later
  rw [run_append, read, later] at unwritten
  exact List.append_ne_nil_of_right_ne_nil _ (List.cons_ne_nil c []) unwritten

end Decoder

/-! ## Where no character starts -/

variable {part rest : List UInt8} {byte : UInt8} {pending : Pending}

theorem isSubpart_of_stuck (proper : part ≠ []) (start : IsStart part ∨ part.length = 1)
    (incomplete : ∀ c : Char, ¬ String.utf8EncodeChar c <+: part)
    (stuck : ∀ byte behind, rest = byte :: behind → ¬ IsStart (part ++ [byte])) :
    IsSubpart part rest := by
  have within : ∀ longer, longer <+: part ++ rest → IsStart longer → longer <+: part := by
    intro longer front isStart
    rcases List.prefix_or_prefix_of_prefix front (List.prefix_append part rest) with
      inside | ⟨more, rfl⟩
    · exact inside
    · cases more with
      | nil => exact ⟨[], by rw [List.append_nil, List.append_nil]⟩
      | cons byte more =>
          obtain ⟨behind, rfl⟩ := (List.prefix_append_right_inj part).mp front
          have further : part ++ [byte] <+: part ++ byte :: more := ⟨more, by simp⟩
          exact absurd (isStart.of_prefix further) (stuck byte _ rfl)
  refine ⟨proper, fun c front => ?_, start, fun longer front isStart => ?_⟩
  · exact incomplete c (within _ front ⟨c, List.prefix_rfl⟩)
  · exact (within longer front isStart).length_le

structure IsRead (part : List UInt8) (pending : Pending) : Prop where
  behind : pending.IsBehind part
  read : Decoder.start.run part = ⟨some pending, [], true⟩

theorem decodeLossy_utf8EncodeChar_append (c : Char) (rest : List UInt8) :
    decodeLossy (String.utf8EncodeChar c ++ rest) = c :: decodeLossy rest := by
  have read : Decoder.start.run (String.utf8EncodeChar c) = ⟨none, [c], true⟩ :=
    Decoder.run_utf8EncodeChar [] true c
  rw [decodeLossy, Decoder.run_append, read]
  exact Decoder.text_finish_run rfl rest

/-! ## First bytes -/

theorem utf8EncodeChar_of_lt (short : byte < 0x80) :
    String.utf8EncodeChar (Char.ofNat byte.toNat) = [byte] := by
  have small : byte.toNat < 0x80 := UInt8.lt_iff_toNat_lt.mp short
  have value : (Char.ofNat byte.toNat).val.toNat = byte.toNat :=
    toNat_val_ofNat (Or.inl (by omega))
  simp only [String.utf8EncodeChar, value]
  rw [if_pos (by omega), UInt8.ofNat_toNat]

theorem isRead_of_announced? (announced : announced? byte = some pending) :
    IsRead [byte] pending :=
  ⟨Pending.isBehind_of_announced? announced, Decoder.begin_of_announced announced⟩

/-! ## The start of bytes -/

/-- What the decoder makes of the start of bytes: it reads a character or it
replaces a part, and what is behind is decoded by itself. -/
inductive Begins : List UInt8 → Prop where
  | char (c : Char) (rest : List UInt8) : Begins (String.utf8EncodeChar c ++ rest)
  | subpart {part rest : List UInt8} (isSubpart : IsSubpart part rest)
      (text : decodeLossy (part ++ rest) = replacement :: decodeLossy rest) :
      Begins (part ++ rest)

theorem isSubpart_of_stray (stray : ¬ IsStart [byte]) : IsSubpart [byte] rest := by
  refine isSubpart_of_stuck (List.cons_ne_nil byte []) (Or.inr rfl) (fun c front => stray ?_)
    (fun next _ _ start => stray (start.of_prefix (List.prefix_append [byte] [next])))
  have proper : 1 ≤ (String.utf8EncodeChar c).length := by
    rw [String.length_utf8EncodeChar]
    exact Char.utf8Size_pos c
  have whole : String.utf8EncodeChar c = [byte] := front.eq_of_length_le proper
  exact ⟨c, whole ▸ List.prefix_rfl⟩

theorem begins_of_stray (long : ¬ byte < 0x80) (unannounced : announced? byte = none) :
    Begins ([byte] ++ rest) := by
  have read : Decoder.start.run [byte] = ⟨none, [replacement], false⟩ := by
    simp only [Decoder.run, List.foldl_cons, List.foldl_nil, Decoder.feed, Decoder.start,
      Decoder.begin, if_neg long, unannounced, Decoder.replace]
  have stray : ¬ IsStart [byte] := Decoder.not_isStart_of_broken (by rw [read])
  refine .subpart (isSubpart_of_stray stray) ?_
  rw [decodeLossy, Decoder.run_append, read]
  exact Decoder.text_finish_run rfl rest

/-- A byte out of range is read again behind a replacement. -/
theorem feed_of_outside (outside : ¬ (pending.low ≤ byte ∧ byte ≤ pending.high)) :
    Decoder.feed ⟨some pending, [], true⟩ byte =
      Decoder.feed ⟨none, [replacement], false⟩ byte := by
  simp only [Decoder.feed, if_neg outside]
  rfl

/-- A byte out of range, or the end, makes what is pending a replacement. -/
theorem begins_of_outside (isRead : IsRead part pending)
    (outside : ∀ byte behind, rest = byte :: behind →
      ¬ (pending.low ≤ byte ∧ byte ≤ pending.high)) :
    Begins (part ++ rest) := by
  refine .subpart ?_ ?_
  · refine isSubpart_of_stuck ?_ (Or.inl isRead.behind.isStart) ?_ fun byte behind same => ?_
    · rintro rfl
      cases isRead.read
    · exact Decoder.not_prefix_of_unwritten (by rw [isRead.read])
    · apply Decoder.not_isStart_of_broken
      have single : Decoder.run ⟨some pending, [], true⟩ [byte] =
          Decoder.feed ⟨some pending, [], true⟩ byte := rfl
      rw [Decoder.run_append, isRead.read, single, feed_of_outside (outside byte behind same)]
      exact Decoder.intact_feed rfl byte
  · rw [decodeLossy, Decoder.run_append, isRead.read]
    cases rest with
    | nil => rfl
    | cons byte behind =>
        have same := congrArg (Decoder.run · behind) (feed_of_outside (outside byte behind rfl))
        exact (congrArg (fun decoder => decoder.finish.text) same).trans
          (Decoder.text_finish_run rfl (byte :: behind))

/-- A byte in range completes a character or leaves others owed. -/
theorem isRead_or_complete (isRead : IsRead part pending) (above : pending.low ≤ byte)
    (below : byte ≤ pending.high) :
    (∃ c : Char, String.utf8EncodeChar c = part ++ [byte]) ∨
      ∃ next : Pending, IsRead (part ++ [byte]) next := by
  obtain ⟨bits, owed, low, high⟩ := pending
  cases owed with
  | zero => exact Or.inl ⟨_, isRead.behind.complete above below⟩
  | succ owed =>
      refine Or.inr ⟨_, isRead.behind.further above below, ?_⟩
      rw [Decoder.run_append, isRead.read]
      simp only [Decoder.run, List.foldl_cons, List.foldl_nil, Decoder.feed,
        if_pos (And.intro above below)]

/-- From within a character reading goes on up to its end or to a replacement. -/
theorem begins_of_isRead (isRead : IsRead part pending) (bytes : List UInt8) :
    Begins (part ++ bytes) := by
  -- the byte that goes on with the character moves over to what is pending
  induction bytes generalizing part pending with
  | nil => exact begins_of_outside isRead (by simp)
  | cons byte bytes ih =>
      by_cases inside : pending.low ≤ byte ∧ byte ≤ pending.high
      · rw [List.append_cons]
        rcases isRead_or_complete isRead inside.1 inside.2 with ⟨c, form⟩ | ⟨next, further⟩
        · rw [← form]
          exact .char c bytes
        · exact ih further
      · refine begins_of_outside isRead ?_
        rintro _ _ same
        obtain ⟨rfl, _⟩ := List.cons.inj same
        exact inside

theorem begins_cons (byte : UInt8) (bytes : List UInt8) : Begins ([byte] ++ bytes) := by
  by_cases short : byte < 0x80
  · rw [← utf8EncodeChar_of_lt short]
    exact .char _ bytes
  · cases announced : announced? byte with
    | none => exact begins_of_stray short announced
    | some pending => exact begins_of_isRead (isRead_of_announced? announced) bytes

/-! ## The text that stands for bytes -/

theorem lossy_decodeLossy (bytes : List UInt8) : Lossy bytes (decodeLossy bytes) := by
  cases bytes with
  | nil => exact .nil
  | cons byte behind =>
      generalize whole : byte :: behind = bytes
      have begins : Begins bytes := whole ▸ begins_cons byte behind
      cases begins with
      | char c rest =>
          rw [decodeLossy_utf8EncodeChar_append]
          exact .char c (lossy_decodeLossy rest)
      | subpart isSubpart text =>
          rw [text]
          exact .subpart isSubpart (lossy_decodeLossy _)
termination_by bytes.length
decreasing_by
  · have proper := Char.utf8Size_pos c
    have total := congrArg List.length whole
    rw [List.length_append, String.length_utf8EncodeChar] at total
    omega
  · have proper := List.length_pos_iff.mpr isSubpart.proper
    have total := congrArg List.length whole
    rw [List.length_append] at total
    omega

/-- No other part than the one that is replaced could be. -/
theorem IsSubpart.length_le {other behind : List UInt8} (isSubpart : IsSubpart part rest)
    (another : IsSubpart other behind) (same : part ++ rest = other ++ behind) :
    part.length ≤ other.length := by
  rcases isSubpart.start with start | single
  · exact another.longest part (same ▸ List.prefix_append part rest) start
  · rw [single]
    exact List.length_pos_iff.mpr another.proper

/-- What is replaced leaves the bytes behind it to be decoded by themselves. -/
theorem decodeLossy_append_of_isSubpart (isSubpart : IsSubpart part rest) :
    decodeLossy (part ++ rest) = replacement :: decodeLossy rest := by
  obtain ⟨byte, more, rfl⟩ := List.exists_cons_of_ne_nil isSubpart.proper
  have begins : Begins (byte :: more ++ rest) := begins_cons byte (more ++ rest)
  generalize whole : byte :: more ++ rest = bytes at begins
  cases begins with
  | char c behind =>
      have front : String.utf8EncodeChar c <+: byte :: more ++ rest :=
        whole ▸ List.prefix_append _ behind
      exact absurd front (isSubpart.broken c)
  | @subpart other behind another text =>
      have long := another.length_le isSubpart whole.symm
      have short := isSubpart.length_le another whole
      obtain ⟨_, same⟩ := List.append_inj whole (Nat.le_antisymm short long)
      rw [text, same]

/-- The text that stands for bytes is the one that the decoder gives. -/
theorem lossy_iff {bytes : List UInt8} {text : Text} :
    Lossy bytes text ↔ text = decodeLossy bytes := by
  constructor
  · intro lossy
    induction lossy with
    | nil => rfl
    | char c lossy ih => rw [decodeLossy_utf8EncodeChar_append, ih]
    | subpart isSubpart lossy ih => rw [decodeLossy_append_of_isSubpart isSubpart, ih]
  · rintro rfl
    exact lossy_decodeLossy bytes

/-- A character broken by a newline is one replacement; of a longer form than
needed, each byte is one. -/
example : decodeLossy [0xE2, 0x82, 0x0A, 0xC0, 0x80] =
    [replacement, '\n', replacement, replacement] := by decide

end Utf8

end SqlDump
