import SqlDump.Text.Utf8

/-!
# Decoding bytes

The decoder reads the UTF-8 form of a text back as the text.  A newline byte
always ends the character before it, so that bytes may be decoded line by line,
and no other byte is read as a line break.
-/

namespace SqlDump

namespace Utf8

/-! ## What may be pending -/

namespace Pending

/-- The next byte belongs to no character by itself, and what is read with it
is behind the newline. -/
def IsLate (pending : Pending) : Prop :=
  0x80 ≤ pending.low.toNat ∧ 0x0A < pending.bits * 64 + (pending.low.toNat - 0x80)

end Pending

theorem toNat_sub_of_le {byte least : UInt8} (le : least.toNat ≤ byte.toNat) :
    (byte - least).toNat = byte.toNat - least.toNat :=
  UInt8.toNat_sub_of_le byte least (UInt8.le_iff_toNat_le.mpr le)

theorem isLate_of_pos {bits : Nat} (positive : 0 < bits) (owed : Nat) (high : UInt8) :
    Pending.IsLate ⟨bits, owed, 0x80, high⟩ := by
  have least : (0x80 : UInt8).toNat = 0x80 := rfl
  refine ⟨Nat.le_of_eq least.symm, ?_⟩
  simp only [least]
  omega

/-- A first byte announces bits above those of a single byte. -/
theorem isLate_of_announced? {byte : UInt8} {pending : Pending}
    (announced : announced? byte = some pending) : pending.IsLate := by
  have bits (least : UInt8) (below : least.toNat < byte.toNat) : 0 < (byte - least).toNat := by
    rw [toNat_sub_of_le (Nat.le_of_lt below)]
    exact Nat.sub_pos_of_lt below
  simp only [announced?, UInt8.lt_iff_toNat_lt, UInt8.le_iff_toNat_le, ← UInt8.toNat_inj,
    UInt8.reduceToNat] at announced
  split at announced
  · cases announced
  split at announced
  · cases announced
    exact isLate_of_pos (bits 0xC0 (by simp only [UInt8.reduceToNat]; omega)) 0 0xBF
  split at announced
  · cases announced
    exact ⟨by decide, by decide⟩
  split at announced
  · cases announced
    exact isLate_of_pos (by decide) 1 0x9F
  split at announced
  · cases announced
    exact isLate_of_pos (bits 0xE0 (by simp only [UInt8.reduceToNat]; omega)) 1 0xBF
  split at announced
  · cases announced
    exact ⟨by decide, by decide⟩
  split at announced
  · cases announced
    exact isLate_of_pos (bits 0xF0 (by simp only [UInt8.reduceToNat]; omega)) 2 0xBF
  split at announced
  · cases announced
    exact isLate_of_pos (by decide) 2 0x8F
  · cases announced

namespace Decoder

def IsLate (decoder : Decoder) : Prop :=
  ∀ pending, decoder.pending? = some pending → pending.IsLate

theorem isLate_of_pending?_eq_none {decoder : Decoder} (complete : decoder.pending? = none) :
    decoder.IsLate := by
  intro pending found
  rw [complete] at found
  cases found

theorem isLate_begin (decoder : Decoder) (byte : UInt8) :
    (decoder.begin byte).IsLate := by
  rw [begin]
  split
  · exact isLate_of_pending?_eq_none rfl
  · split
    · next pending announced =>
        intro other same
        cases same
        exact isLate_of_announced? announced
    · exact isLate_of_pending?_eq_none rfl

theorem isLate_feed {decoder : Decoder} (late : decoder.IsLate) (byte : UInt8) :
    (decoder.feed byte).IsLate := by
  rw [feed]
  split
  · exact isLate_begin decoder byte
  · next pending found =>
      have lateBits := (late pending found).2
      split
      · next inside =>
          simp only
          split
          · exact isLate_of_pending?_eq_none rfl
          · intro other same
            cases same
            have least := UInt8.le_iff_toNat_le.mp inside.1
            have value : (byte - 0x80).toNat = byte.toNat - 0x80 :=
              toNat_sub_of_le (Nat.le_trans (late pending found).1 least)
            apply isLate_of_pos
            omega
      · exact isLate_begin decoder.replace byte

theorem isLate_run {decoder : Decoder} (late : decoder.IsLate) (bytes : List UInt8) :
    (decoder.run bytes).IsLate := by
  induction bytes generalizing decoder with
  | nil => exact late
  | cons byte bytes ih => exact ih (isLate_feed late byte)

theorem isLate_start : start.IsLate :=
  isLate_of_pending?_eq_none rfl

/-! ## Newlines -/

/-- A newline completes nothing: it is read by itself. -/
theorem feed_newline {decoder : Decoder} (late : decoder.IsLate) :
    decoder.feed 0x0A = decoder.finish.put '\n' := by
  rw [feed, finish]
  cases found : decoder.pending? with
  | none => rfl
  | some pending =>
      have behind : ¬(pending.low ≤ 0x0A ∧ (0x0A : UInt8) ≤ pending.high) := by
        rintro ⟨early, -⟩
        have least := UInt8.le_iff_toNat_le.mp early
        have proper := (late pending found).1
        simp only [UInt8.reduceToNat] at least
        omega
      simp only [if_neg behind]
      rfl

theorem ofNat_eq_newline {n : Nat} (same : Char.ofNat n = '\n') : n = 0x0A := by
  by_cases valid : n.isValidChar
  · rw [Char.ofNat, dif_pos valid] at same
    exact congrArg Char.toNat same
  · rw [Char.ofNat, dif_neg valid] at same
    cases same

theorem notMem_written_begin {decoder : Decoder} {byte : UInt8} (other : byte ≠ 0x0A)
    (unbroken : '\n' ∉ decoder.written) : '\n' ∉ (decoder.begin byte).written := by
  rw [begin]
  split
  · rw [put, List.mem_cons, not_or]
    refine ⟨fun same => other ?_, unbroken⟩
    exact UInt8.toNat_inj.mp (ofNat_eq_newline same.symm)
  · split
    · exact unbroken
    · rw [replace, List.mem_cons, not_or]
      exact ⟨by decide, unbroken⟩

theorem notMem_written_replace {decoder : Decoder} (unbroken : '\n' ∉ decoder.written) :
    '\n' ∉ decoder.replace.written := by
  rw [replace, List.mem_cons, not_or]
  exact ⟨by decide, unbroken⟩

theorem notMem_written_feed {decoder : Decoder} {byte : UInt8} (late : decoder.IsLate)
    (other : byte ≠ 0x0A) (unbroken : '\n' ∉ decoder.written) :
    '\n' ∉ (decoder.feed byte).written := by
  rw [feed]
  split
  · exact notMem_written_begin other unbroken
  · next pending found =>
      obtain ⟨proper, behind⟩ := late pending found
      split
      · next inside =>
          have least := UInt8.le_iff_toNat_le.mp inside.1
          have value : (byte - 0x80).toNat = byte.toNat - 0x80 :=
            toNat_sub_of_le (Nat.le_trans proper least)
          simp only
          split
          · rw [put, List.mem_cons, not_or]
            refine ⟨fun same => ?_, unbroken⟩
            have bits := ofNat_eq_newline same.symm
            omega
          · exact unbroken
      · exact notMem_written_begin other (notMem_written_replace unbroken)

theorem notMem_written_run {decoder : Decoder} {bytes : List UInt8} (late : decoder.IsLate)
    (others : (0x0A : UInt8) ∉ bytes) (unbroken : '\n' ∉ decoder.written) :
    '\n' ∉ (decoder.run bytes).written := by
  induction bytes generalizing decoder with
  | nil => exact unbroken
  | cons byte bytes ih =>
      rw [List.mem_cons, not_or] at others
      exact ih (isLate_feed late byte) others.2
        (notMem_written_feed late (Ne.symm others.1) unbroken)

/-! ## What was read before -/

def after (earlier decoder : Decoder) : Decoder :=
  ⟨decoder.pending?, decoder.written ++ earlier.written, decoder.intact && earlier.intact⟩

theorem begin_after (earlier decoder : Decoder) (byte : UInt8) :
    (after earlier decoder).begin byte = after earlier (decoder.begin byte) := by
  simp only [begin]
  split
  · rfl
  · split <;> rfl

theorem feed_after (earlier decoder : Decoder) (byte : UInt8) :
    (after earlier decoder).feed byte = after earlier (decoder.feed byte) := by
  obtain ⟨pending?, written, intact⟩ := decoder
  cases pending? with
  | none => exact begin_after earlier ⟨none, written, intact⟩ byte
  | some pending =>
      simp only [feed, after]
      split
      · cases pending.owed <;> rfl
      · exact begin_after earlier (replace ⟨some pending, written, intact⟩) byte

theorem run_after (earlier decoder : Decoder) (bytes : List UInt8) :
    (after earlier decoder).run bytes = after earlier (decoder.run bytes) := by
  induction bytes generalizing decoder with
  | nil => rfl
  | cons byte bytes ih =>
      rw [run, List.foldl_cons, feed_after]
      exact ih (decoder.feed byte)

theorem finish_after (earlier decoder : Decoder) :
    (after earlier decoder).finish = after earlier decoder.finish := by
  obtain ⟨pending?, written, intact⟩ := decoder
  cases pending? <;> rfl

theorem text_after (earlier decoder : Decoder) :
    (after earlier decoder).text = earlier.text ++ decoder.text :=
  List.reverse_append

theorem after_start {decoder : Decoder} (complete : decoder.pending? = none) :
    after decoder start = decoder := by
  obtain ⟨pending?, written, intact⟩ := decoder
  cases complete
  rfl

theorem text_put (decoder : Decoder) (c : Char) : (decoder.put c).text = decoder.text ++ [c] :=
  List.reverse_cons

/-- From between two characters, the rest is read as from the start. -/
theorem text_finish_run {decoder : Decoder} (complete : decoder.pending? = none)
    (bytes : List UInt8) :
    (decoder.run bytes).finish.text = decoder.text ++ decodeLossy bytes := by
  have same := run_after decoder start bytes
  rw [after_start complete] at same
  rw [same, finish_after, text_after]
  rfl

end Decoder

/-! ## Reading a character back -/

theorem toNat_raised (base : UInt8) {n : Nat} (small : n + base.toNat < 0x100) :
    (UInt8.ofNat (n + base.toNat)).toNat = n + base.toNat :=
  UInt8.toNat_ofNat_of_lt' small

theorem toNat_raised_sub (base : UInt8) {n : Nat} (small : n + base.toNat < 0x100) :
    (UInt8.ofNat (n + base.toNat) - base).toNat = n := by
  have value := toNat_raised base small
  rw [toNat_sub_of_le, value]
  · exact Nat.add_sub_cancel n base.toNat
  · rw [value]
    exact Nat.le_add_left base.toNat n

namespace Decoder

theorem feed_of_inside {written : List Char} {intact : Bool} {bits owed n : Nat}
    {low high : UInt8} (small : n < 0x40) (least : low.toNat ≤ n + 0x80)
    (most : n + 0x80 ≤ high.toNat) :
    feed ⟨some ⟨bits, owed, low, high⟩, written, intact⟩ (UInt8.ofNat (n + 0x80)) =
      match owed with
      | 0 => ⟨none, Char.ofNat (bits * 64 + n) :: written, intact⟩
      | others + 1 => ⟨some ⟨bits * 64 + n, others, 0x80, 0xBF⟩, written, intact⟩ := by
  have fits : n + (0x80 : UInt8).toNat < 0x100 := by
    simp only [UInt8.reduceToNat]
    omega
  have value : (UInt8.ofNat (n + 0x80)).toNat = n + 0x80 := toNat_raised 0x80 fits
  have inside : low ≤ UInt8.ofNat (n + 0x80) ∧ UInt8.ofNat (n + 0x80) ≤ high := by
    rw [UInt8.le_iff_toNat_le, UInt8.le_iff_toNat_le, value]
    exact ⟨least, most⟩
  have added : (UInt8.ofNat (n + 0x80) - 0x80).toNat = n := toNat_raised_sub 0x80 fits
  simp only [feed, if_pos inside, added]
  cases owed <;> rfl

theorem begin_of_announced {written : List Char} {intact : Bool} {byte : UInt8} {pending : Pending}
    (announced : announced? byte = some pending) :
    feed ⟨none, written, intact⟩ byte = ⟨some pending, written, intact⟩ := by
  have long : ¬byte < 0x80 := by
    intro short
    rw [UInt8.lt_iff_toNat_lt] at short
    rw [announced?, if_pos] at announced
    · cases announced
    · rw [UInt8.lt_iff_toNat_lt]
      exact Nat.lt_trans short (by decide)
  simp only [feed, begin, if_neg long, announced]

end Decoder

theorem announced?_of_two {n : Nat} (least : 2 ≤ n) (most : n < 0x20) :
    announced? (UInt8.ofNat (n + 0xC0)) = some ⟨n, 0, 0x80, 0xBF⟩ := by
  have fits : n + (0xC0 : UInt8).toNat < 0x100 := by
    simp only [UInt8.reduceToNat]
    omega
  have value : (UInt8.ofNat (n + 0xC0)).toNat = n + 0xC0 := toNat_raised 0xC0 fits
  have bits : (UInt8.ofNat (n + 0xC0) - 0xC0).toNat = n := toNat_raised_sub 0xC0 fits
  rw [announced?, if_neg, if_pos, bits]
  · rw [UInt8.le_iff_toNat_le, value]
    simp only [UInt8.reduceToNat]
    omega
  · rw [UInt8.lt_iff_toNat_lt, value]
    simp only [UInt8.reduceToNat]
    omega

/-- The first of three bytes, when the second one keeps off what two bytes hold
and off what is no character. -/
theorem announced?_of_three {n second : Nat} (most : n < 0x10) (small : second < 0x40)
    (least : n = 0 → 0x20 ≤ second) (character : n = 0x0D → second < 0x20) :
    ∃ low high, announced? (UInt8.ofNat (n + 0xE0)) = some ⟨n, 1, low, high⟩ ∧
      low.toNat ≤ second + 0x80 ∧ second + 0x80 ≤ high.toNat := by
  have fits : n + (0xE0 : UInt8).toNat < 0x100 := by
    simp only [UInt8.reduceToNat]
    omega
  have value : (UInt8.ofNat (n + 0xE0)).toNat = n + 0xE0 := toNat_raised 0xE0 fits
  have bits : (UInt8.ofNat (n + 0xE0) - 0xE0).toNat = n := toNat_raised_sub 0xE0 fits
  by_cases first : n = 0
  · subst first
    refine ⟨0xA0, 0xBF, by decide, ?_, ?_⟩ <;> simp only [UInt8.reduceToNat] <;> omega
  · by_cases surrogate : n = 0x0D
    · subst surrogate
      refine ⟨0x80, 0x9F, by decide, ?_, ?_⟩ <;> simp only [UInt8.reduceToNat] <;> omega
    · refine ⟨0x80, 0xBF, ?_, ?_, ?_⟩
      · simp only [announced?, UInt8.lt_iff_toNat_lt, UInt8.le_iff_toNat_le, ← UInt8.toNat_inj,
          UInt8.reduceToNat, value]
        rw [if_neg (by omega), if_neg (by omega), if_neg (by omega), if_neg (by omega),
          if_pos (by omega), bits]
      · simp only [UInt8.reduceToNat]
        omega
      · simp only [UInt8.reduceToNat]
        omega

/-- The first of four bytes, when the second one keeps off what three bytes
hold and off what is behind the last character. -/
theorem announced?_of_four {n second : Nat} (most : n ≤ 4) (small : second < 0x40)
    (least : n = 0 → 0x10 ≤ second) (character : n = 4 → second < 0x10) :
    ∃ low high, announced? (UInt8.ofNat (n + 0xF0)) = some ⟨n, 2, low, high⟩ ∧
      low.toNat ≤ second + 0x80 ∧ second + 0x80 ≤ high.toNat := by
  have fits : n + (0xF0 : UInt8).toNat < 0x100 := by
    simp only [UInt8.reduceToNat]
    omega
  have value : (UInt8.ofNat (n + 0xF0)).toNat = n + 0xF0 := toNat_raised 0xF0 fits
  have bits : (UInt8.ofNat (n + 0xF0) - 0xF0).toNat = n := toNat_raised_sub 0xF0 fits
  by_cases first : n = 0
  · subst first
    refine ⟨0x90, 0xBF, by decide, ?_, ?_⟩ <;> simp only [UInt8.reduceToNat] <;> omega
  · by_cases last : n = 4
    · subst last
      refine ⟨0x80, 0x8F, by decide, ?_, ?_⟩ <;> simp only [UInt8.reduceToNat] <;> omega
    · refine ⟨0x80, 0xBF, ?_, ?_, ?_⟩
      · simp only [announced?, UInt8.lt_iff_toNat_lt, UInt8.le_iff_toNat_le, ← UInt8.toNat_inj,
          UInt8.reduceToNat, value]
        rw [if_neg (by omega), if_neg (by omega), if_neg (by omega), if_neg (by omega),
          if_neg (by omega), if_neg (by omega), if_pos (by omega), bits]
      · simp only [UInt8.reduceToNat]
        omega
      · simp only [UInt8.reduceToNat]
        omega

namespace Decoder

theorem run_utf8EncodeChar (written : List Char) (intact : Bool) (c : Char) :
    run ⟨none, written, intact⟩ (String.utf8EncodeChar c) = ⟨none, c :: written, intact⟩ := by
  have whole : Char.ofNat c.val.toNat = c := Char.ofNat_toNat c
  have valid : c.val.toNat < 0xD800 ∨ (0xDFFF < c.val.toNat ∧ c.val.toNat < 0x110000) := c.valid
  have tail (n : Nat) : (0x80 : UInt8).toNat ≤ n % 0x40 + 0x80 ∧
      n % 0x40 + 0x80 ≤ (0xBF : UInt8).toNat := by
    simp only [UInt8.reduceToNat]
    omega
  rw [String.utf8EncodeChar]
  generalize c.val.toNat = v at whole valid
  split
  · next one =>
      have value : (UInt8.ofNat v).toNat = v :=
        UInt8.toNat_ofNat_of_lt' (Nat.lt_of_le_of_lt one (by decide))
      have short : UInt8.ofNat v < 0x80 := by
        rw [UInt8.lt_iff_toNat_lt, value]
        exact Nat.lt_succ_of_le one
      simp only [run, List.foldl_cons, List.foldl_nil, feed, begin, if_pos short, put, value, whole]
  · split
    · have announced : announced? (UInt8.ofNat (v / 64 % 0x20 + 0xC0)) =
          some ⟨v / 64 % 0x20, 0, 0x80, 0xBF⟩ := announced?_of_two (by omega) (by omega)
      have joined : v / 64 % 0x20 * 64 + v % 0x40 = v := by omega
      simp only [run, List.foldl_cons, List.foldl_nil]
      rw [begin_of_announced announced, feed_of_inside (by omega) (tail v).1 (tail v).2, joined,
        whole]
    · split
      · obtain ⟨low, high, announced, least, most⟩ :
            ∃ low high, announced? (UInt8.ofNat (v / 4096 % 0x10 + 0xE0)) =
              some ⟨v / 4096 % 0x10, 1, low, high⟩ ∧
              low.toNat ≤ v / 64 % 0x40 + 0x80 ∧ v / 64 % 0x40 + 0x80 ≤ high.toNat :=
          announced?_of_three (by omega) (by omega) (by omega) (by omega)
        have joined : (v / 4096 % 0x10 * 64 + v / 64 % 0x40) * 64 + v % 0x40 = v := by omega
        simp only [run, List.foldl_cons, List.foldl_nil]
        rw [begin_of_announced announced, feed_of_inside (by omega) least most,
          feed_of_inside (by omega) (tail v).1 (tail v).2, joined, whole]
      · obtain ⟨low, high, announced, least, most⟩ :
            ∃ low high, announced? (UInt8.ofNat (v / 262144 % 0x08 + 0xF0)) =
              some ⟨v / 262144 % 0x08, 2, low, high⟩ ∧
              low.toNat ≤ v / 4096 % 0x40 + 0x80 ∧ v / 4096 % 0x40 + 0x80 ≤ high.toNat :=
          announced?_of_four (by omega) (by omega) (by omega) (by omega)
        have joined : ((v / 262144 % 0x08 * 64 + v / 4096 % 0x40) * 64 + v / 64 % 0x40) * 64 +
            v % 0x40 = v := by omega
        simp only [run, List.foldl_cons, List.foldl_nil]
        rw [begin_of_announced announced, feed_of_inside (by omega) least most,
          feed_of_inside (by omega) (tail (v / 64)).1 (tail (v / 64)).2,
          feed_of_inside (by omega) (tail v).1 (tail v).2, joined, whole]

end Decoder

theorem decodeLossy_bytes (text : Text) : decodeLossy text.bytes = text := by
  have read (earlier : List Char) :
      Decoder.run ⟨none, earlier, true⟩ text.bytes = ⟨none, text.reverse ++ earlier, true⟩ := by
    induction text generalizing earlier with
    | nil => rfl
    | cons c rest ih =>
        rw [Text.bytes_cons, Decoder.run_append, Decoder.run_utf8EncodeChar, ih]
        simp
  rw [decodeLossy, Decoder.start, read]
  simp [Decoder.finish, Decoder.text]

/-- A newline separates what is decoded on its two sides. -/
theorem decodeLossy_append_newline (body rest : List UInt8) :
    decodeLossy (body ++ 0x0A :: rest) = decodeLossy body ++ '\n' :: decodeLossy rest := by
  have late := Decoder.isLate_run Decoder.isLate_start body
  have read : Decoder.start.run (body ++ 0x0A :: rest) =
      ((Decoder.start.run body).finish.put '\n').run rest := by
    rw [Decoder.run_append, ← Decoder.feed_newline late]
    rfl
  rw [decodeLossy, read, Decoder.text_finish_run rfl, Decoder.text_put, List.append_assoc]
  rfl

theorem newline_notMem_decodeLossy {bytes : List UInt8} (others : (0x0A : UInt8) ∉ bytes) :
    '\n' ∉ decodeLossy bytes := by
  have unbroken : '\n' ∉ (Decoder.start.run bytes).written :=
    Decoder.notMem_written_run Decoder.isLate_start others List.not_mem_nil
  rw [decodeLossy, Decoder.text, List.mem_reverse, Decoder.finish]
  split
  · exact unbroken
  · exact Decoder.notMem_written_replace unbroken

end Utf8

end SqlDump
