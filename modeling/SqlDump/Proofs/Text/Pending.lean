import SqlDump.Proofs.Text.Decoding

/-!
# Pending characters

What the decoder has pending is the start of a character: the bits so far and
any next byte in range, with any bytes behind it, are the UTF-8 form of one.
So a byte in range goes on with a character, and the last one completes it.
-/

namespace SqlDump

namespace Utf8

def upperBits : Nat → Nat → Nat
  | 0, v => v
  | groups + 1, v => upperBits groups v / 64

/-- The bytes of the lowest groups of six bits, one group more than are owed. -/
def lowGroups : Nat → Nat → List UInt8
  | 0, v => [UInt8.ofNat (v % 64 + 0x80)]
  | owed + 1, v => UInt8.ofNat (upperBits (owed + 1) v % 64 + 0x80) :: lowGroups owed v

theorem exists_upperBits (groups bits : Nat) : ∃ v : Nat, upperBits groups v = bits := by
  induction groups generalizing bits with
  | zero => exact ⟨bits, rfl⟩
  | succ groups ih =>
      obtain ⟨v, upper⟩ := ih (bits * 64)
      exact ⟨v, by rw [upperBits, upper, Nat.mul_div_cancel bits (by decide)]⟩

/-- What is pending after the bytes of `part`.  Any value with the bits that have
been read and with its next group in range is a character that starts so. -/
structure Pending.IsBehind (pending : Pending) (part : List UInt8) : Prop where
  least : 0x80 ≤ pending.low.toNat
  ordered : pending.low.toNat ≤ pending.high.toNat
  most : pending.high.toNat ≤ 0xBF
  form : ∀ v : Nat, upperBits (pending.owed + 1) v = pending.bits →
    pending.low.toNat ≤ upperBits pending.owed v % 64 + 0x80 →
    upperBits pending.owed v % 64 + 0x80 ≤ pending.high.toNat →
    String.utf8EncodeChar (Char.ofNat v) = part ++ lowGroups pending.owed v

theorem toNat_val_ofNat {v : Nat} (valid : v.isValidChar) : (Char.ofNat v).val.toNat = v := by
  rw [Char.ofNat, dif_pos valid]
  rfl

theorem ofNat_raised_sub (base byte : UInt8) (le : base.toNat ≤ byte.toNat) :
    UInt8.ofNat (byte.toNat - base.toNat + base.toNat) = byte := by
  rw [Nat.sub_add_cancel le]
  exact UInt8.ofNat_toNat

/-! ## The forms of characters -/

theorem encode_of_two {v : Nat} (least : 0x80 ≤ v) (most : v < 0x800) :
    String.utf8EncodeChar (Char.ofNat v) = UInt8.ofNat (v / 64 + 0xC0) :: lowGroups 0 v := by
  have value : (Char.ofNat v).val.toNat = v := toNat_val_ofNat (Or.inl (by omega))
  have group : v / 64 % 0x20 = v / 64 := by omega
  simp only [String.utf8EncodeChar, value, lowGroups]
  rw [if_neg (by omega), if_pos (by omega), group]

theorem encode_of_three {v : Nat} (least : 0x800 ≤ v) (most : v < 0x10000)
    (character : v < 0xD800 ∨ 0xDFFF < v) :
    String.utf8EncodeChar (Char.ofNat v) = UInt8.ofNat (v / 4096 + 0xE0) :: lowGroups 1 v := by
  have value : (Char.ofNat v).val.toNat = v :=
    toNat_val_ofNat (character.imp id fun behind => ⟨behind, by omega⟩)
  have group : v / 4096 % 0x10 = v / 4096 := by omega
  simp only [String.utf8EncodeChar, value, lowGroups, upperBits]
  rw [if_neg (by omega), if_neg (by omega), if_pos (by omega), group]

theorem encode_of_four {v : Nat} (least : 0x10000 ≤ v) (most : v < 0x110000) :
    String.utf8EncodeChar (Char.ofNat v) = UInt8.ofNat (v / 262144 + 0xF0) :: lowGroups 2 v := by
  have value : (Char.ofNat v).val.toNat = v := toNat_val_ofNat (Or.inr ⟨by omega, most⟩)
  have group : v / 262144 % 0x08 = v / 262144 := by omega
  simp only [String.utf8EncodeChar, value, lowGroups, upperBits, Nat.div_div_eq_div_mul,
    Nat.reduceMul]
  rw [if_neg (by omega), if_neg (by omega), if_neg (by omega), group]

namespace Pending

/-! ## First bytes -/

theorem isBehind_of_two {byte : UInt8} (first : 0xC2 ≤ byte.toNat) (last : byte.toNat ≤ 0xDF) :
    IsBehind ⟨byte.toNat - 0xC0, 0, 0x80, 0xBF⟩ [byte] where
  least := Nat.le_refl 0x80
  ordered := (by decide : 0x80 ≤ 0xBF)
  most := Nat.le_refl 0xBF
  form v bits _ _ := by
    simp only [upperBits] at bits
    have raised : UInt8.ofNat (v / 64 + 0xC0) = byte := by
      rw [bits]
      exact ofNat_raised_sub 0xC0 byte (Nat.le_trans (by decide) first)
    rw [encode_of_two (by omega) (by omega), raised]
    rfl

/-- The second byte of three keeps off what two bytes hold and off what is no
character. -/
theorem isBehind_of_three {byte low high : UInt8} (first : 0xE0 ≤ byte.toNat)
    (last : byte.toNat ≤ 0xEF) (least : 0x80 ≤ low.toNat) (ordered : low.toNat ≤ high.toNat)
    (most : high.toNat ≤ 0xBF) (proper : byte.toNat = 0xE0 → 0xA0 ≤ low.toNat)
    (character : byte.toNat = 0xED → high.toNat ≤ 0x9F) :
    IsBehind ⟨byte.toNat - 0xE0, 1, low, high⟩ [byte] where
  least := least
  ordered := ordered
  most := most
  form v bits above below := by
    simp only [upperBits, Nat.div_div_eq_div_mul, Nat.reduceMul] at bits above below
    have raised : UInt8.ofNat (v / 4096 + 0xE0) = byte := by
      rw [bits]
      exact ofNat_raised_sub 0xE0 byte first
    rw [encode_of_three (by omega) (by omega) (by omega), raised]
    rfl

/-- The second byte of four keeps off what three bytes hold and off what is behind
the last character. -/
theorem isBehind_of_four {byte low high : UInt8} (first : 0xF0 ≤ byte.toNat)
    (last : byte.toNat ≤ 0xF4) (least : 0x80 ≤ low.toNat) (ordered : low.toNat ≤ high.toNat)
    (most : high.toNat ≤ 0xBF) (proper : byte.toNat = 0xF0 → 0x90 ≤ low.toNat)
    (character : byte.toNat = 0xF4 → high.toNat ≤ 0x8F) :
    IsBehind ⟨byte.toNat - 0xF0, 2, low, high⟩ [byte] where
  least := least
  ordered := ordered
  most := most
  form v bits above below := by
    simp only [upperBits, Nat.div_div_eq_div_mul, Nat.reduceMul] at bits above below
    have raised : UInt8.ofNat (v / 262144 + 0xF0) = byte := by
      rw [bits]
      exact ofNat_raised_sub 0xF0 byte first
    rw [encode_of_four (by omega) (by omega), raised]
    rfl

theorem isBehind_of_announced? {byte : UInt8} {pending : Pending}
    (announced : announced? byte = some pending) : pending.IsBehind [byte] := by
  have bits (least : UInt8) (le : least.toNat ≤ byte.toNat) :
      (byte - least).toNat = byte.toNat - least.toNat := toNat_sub_of_le le
  simp only [announced?, UInt8.lt_iff_toNat_lt, UInt8.le_iff_toNat_le, ← UInt8.toNat_inj,
    UInt8.reduceToNat] at announced
  split at announced
  · cases announced
  split at announced
  · cases announced
    rw [bits 0xC0 (by simp only [UInt8.reduceToNat]; omega)]
    exact isBehind_of_two (by omega) (by omega)
  split at announced
  · next same =>
      cases announced
      have three := @isBehind_of_three byte 0xA0 0xBF (by omega) (by omega)
        (by decide) (by decide) (by decide) (fun _ => by decide) (by omega)
      rwa [same] at three
  split at announced
  · next same =>
      cases announced
      have three := @isBehind_of_three byte 0x80 0x9F (by omega) (by omega)
        (by decide) (by decide) (by decide) (by omega) (fun _ => by decide)
      rwa [same] at three
  split at announced
  · cases announced
    rw [bits 0xE0 (by simp only [UInt8.reduceToNat]; omega)]
    exact isBehind_of_three (by omega) (by omega) (by decide) (by decide) (by decide) (by omega)
      (by omega)
  split at announced
  · next same =>
      cases announced
      have four := @isBehind_of_four byte 0x90 0xBF (by omega) (by omega)
        (by decide) (by decide) (by decide) (fun _ => by decide) (by omega)
      rwa [same] at four
  split at announced
  · cases announced
    rw [bits 0xF0 (by simp only [UInt8.reduceToNat]; omega)]
    exact isBehind_of_four (by omega) (by omega) (by decide) (by decide) (by decide) (by omega)
      (by omega)
  split at announced
  · next same =>
      cases announced
      have four := @isBehind_of_four byte 0x80 0x8F (by omega) (by omega)
        (by decide) (by decide) (by decide) (by omega) (fun _ => by decide)
      rwa [same] at four
  · cases announced

/-! ## Further bytes -/

variable {bits owed : Nat} {low high byte : UInt8} {part : List UInt8}

theorem exists_group_of_inside (behind : IsBehind ⟨bits, owed, low, high⟩ part) (above : low ≤ byte)
    (below : byte ≤ high) :
    ∃ n < 64, (byte - 0x80).toNat = n ∧ low.toNat ≤ n + 0x80 ∧ n + 0x80 ≤ high.toNat ∧
      UInt8.ofNat (n + 0x80) = byte := by
  have least : 0x80 ≤ low.toNat := behind.least
  have most : high.toNat ≤ 0xBF := behind.most
  have aboveNat := UInt8.le_iff_toNat_le.mp above
  have belowNat := UInt8.le_iff_toNat_le.mp below
  have enough : 0x80 ≤ byte.toNat := Nat.le_trans least aboveNat
  exact ⟨byte.toNat - 0x80, by omega, toNat_sub_of_le enough, by omega, by omega,
    ofNat_raised_sub 0x80 byte enough⟩

theorem IsBehind.further (behind : IsBehind ⟨bits, owed + 1, low, high⟩ part) (above : low ≤ byte)
    (below : byte ≤ high) :
    IsBehind ⟨bits * 64 + (byte - 0x80).toNat, owed, 0x80, 0xBF⟩ (part ++ [byte]) where
  least := Nat.le_refl 0x80
  ordered := (by decide : 0x80 ≤ 0xBF)
  most := Nat.le_refl 0xBF
  form v read _ _ := by
    obtain ⟨n, small, carried, atLeast, atMost, same⟩ := exists_group_of_inside behind above below
    simp only [carried] at read
    have upper : upperBits (owed + 1 + 1) v = bits := by
      rw [upperBits, read]
      omega
    have group : upperBits (owed + 1) v % 64 = n := by
      rw [read]
      omega
    have whole := behind.form v upper (by rwa [group]) (by rwa [group])
    rw [whole, lowGroups, group, same, List.append_assoc]
    rfl

theorem IsBehind.complete (behind : IsBehind ⟨bits, 0, low, high⟩ part) (above : low ≤ byte)
    (below : byte ≤ high) :
    String.utf8EncodeChar (Char.ofNat (bits * 64 + (byte - 0x80).toNat)) = part ++ [byte] := by
  obtain ⟨n, small, carried, atLeast, atMost, same⟩ := exists_group_of_inside behind above below
  have upper : (bits * 64 + n) / 64 = bits := by omega
  have last : (bits * 64 + n) % 64 = n := by omega
  have whole := behind.form (bits * 64 + n) upper (last.symm ▸ atLeast) (last.symm ▸ atMost)
  rw [carried, whole, lowGroups, last, same]

theorem IsBehind.isStart {pending : Pending} (behind : pending.IsBehind part) : IsStart part := by
  obtain ⟨bits, owed, low, high⟩ := pending
  -- the least next byte, and any bits behind it, give a character
  have inside := UInt8.le_iff_toNat_le.mpr behind.ordered
  obtain ⟨n, small, _, atLeast, atMost, _⟩ :=
    exists_group_of_inside behind (UInt8.le_refl low) inside
  obtain ⟨v, read⟩ := exists_upperBits owed (bits * 64 + n)
  have upper : upperBits (owed + 1) v = bits := by
    rw [upperBits, read]
    omega
  have group : upperBits owed v % 64 = n := by
    rw [read]
    omega
  have whole := behind.form v upper (by rwa [group]) (by rwa [group])
  exact ⟨_, whole ▸ List.prefix_append part _⟩

end Pending

end Utf8

end SqlDump
