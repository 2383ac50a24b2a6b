import SqlDump.Proofs.Text.Pending

/-!
# The order of texts

The UTF-8 forms of two characters differ first in a byte that is smaller for the
smaller character.  So texts stand by code point in the order in which their bytes
stand.
-/

namespace SqlDump

namespace Utf8

variable {v w : Nat}

theorem ofNat_lt_ofNat {m n : Nat} (lt : m < n) (byte : n < 256) :
    UInt8.ofNat m < UInt8.ofNat n := by
  rw [UInt8.lt_iff_toNat_lt, UInt8.toNat_ofNat_of_lt' (Nat.lt_trans lt byte),
    UInt8.toNat_ofNat_of_lt' byte]
  exact lt

theorem upperBits_le_upperBits (groups : Nat) (le : v ≤ w) :
    upperBits groups v ≤ upperBits groups w := by
  induction groups with
  | zero => exact le
  | succ groups ih => exact Nat.div_le_div_right ih

/-- Values that agree above their lowest groups stand in the order of the bytes of
these. -/
theorem lowGroups_append_lt {owed : Nat} (before : v < w)
    (upper : upperBits (owed + 1) v = upperBits (owed + 1) w) (first second : List UInt8) :
    lowGroups owed v ++ first < lowGroups owed w ++ second := by
  induction owed with
  | zero =>
      have upper : v / 64 = w / 64 := upper
      exact List.cons_lt_cons_iff.mpr (Or.inl (ofNat_lt_ofNat (by omega) (by omega)))
  | succ owed ih =>
      have above : upperBits (owed + 1) v / 64 = upperBits (owed + 1) w / 64 := upper
      rcases Nat.eq_or_lt_of_le (upperBits_le_upperBits (owed + 1) (Nat.le_of_lt before)) with
        same | less
      · rw [lowGroups, lowGroups, same]
        exact List.cons_lt_cons_iff.mpr (Or.inr ⟨rfl, ih same⟩)
      · exact List.cons_lt_cons_iff.mpr (Or.inl (ofNat_lt_ofNat (by omega) (by omega)))

/-- The forms of a character: the value of the first byte and the bytes behind it. -/
inductive Form (v : Nat) : Nat → List UInt8 → Prop where
  | one (most : v < 0x80) : Form v v []
  | two (least : 0x80 ≤ v) (most : v < 0x800) : Form v (v / 64 + 0xC0) (lowGroups 0 v)
  | three (least : 0x800 ≤ v) (most : v < 0x10000) : Form v (v / 4096 + 0xE0) (lowGroups 1 v)
  | four (least : 0x10000 ≤ v) (most : v < 0x110000) :
      Form v (v / 262144 + 0xF0) (lowGroups 2 v)

theorem Form.lt {lead : Nat} {rest : List UInt8} (form : Form v lead rest) : lead < 256 := by
  cases form <;> omega

theorem exists_form (c : Char) :
    ∃ (lead : Nat) (rest : List UInt8), Form c.toNat lead rest ∧
      String.utf8EncodeChar c = UInt8.ofNat lead :: rest := by
  have valid : c.toNat < 0xD800 ∨ 0xDFFF < c.toNat ∧ c.toNat < 0x110000 := c.valid
  by_cases one : c.toNat < 0x80
  · refine ⟨_, _, .one one, ?_⟩
    have most : c.val.toNat ≤ 0x7F := Nat.le_of_lt_succ one
    simp only [String.utf8EncodeChar]
    rw [if_pos most]
    rfl
  · by_cases two : c.toNat < 0x800
    · have encoded := encode_of_two (Nat.not_lt.mp one) two
      rw [Char.ofNat_toNat] at encoded
      exact ⟨_, _, .two (Nat.not_lt.mp one) two, encoded⟩
    · by_cases three : c.toNat < 0x10000
      · have encoded := encode_of_three (Nat.not_lt.mp two) three (valid.imp id And.left)
        rw [Char.ofNat_toNat] at encoded
        exact ⟨_, _, .three (Nat.not_lt.mp two) three, encoded⟩
      · have most : c.toNat < 0x110000 := by omega
        have encoded := encode_of_four (Nat.not_lt.mp three) most
        rw [Char.ofNat_toNat] at encoded
        exact ⟨_, _, .four (Nat.not_lt.mp three) most, encoded⟩

/-- The first byte is smaller for the smaller character; or it is the same, and the
bytes behind it stand in the order of the characters. -/
theorem Form.lt_or_eq {lead other : Nat} {rest behind : List UInt8} (form : Form v lead rest)
    (formOther : Form w other behind) (before : v < w) :
    lead < other ∨ lead = other ∧ ∀ first second, rest ++ first < behind ++ second := by
  -- The longer form has the greater first byte; forms of one length are compared by
  -- the bits of the first byte, and then by the groups behind it.
  have compare (owed radix mark : Nat)
      (upper : ∀ value, upperBits (owed + 1) value = value / radix) :
      v / radix + mark < w / radix + mark ∨ v / radix + mark = w / radix + mark ∧
        ∀ first second, lowGroups owed v ++ first < lowGroups owed w ++ second := by
    rcases Nat.eq_or_lt_of_le (upperBits_le_upperBits (owed + 1) (Nat.le_of_lt before)) with
      same | less
    · exact Or.inr ⟨by rw [← upper, same, upper], lowGroups_append_lt before same⟩
    · rw [upper, upper] at less
      exact Or.inl (Nat.add_lt_add_right less mark)
  cases form with
  | one =>
      cases formOther with
      | one => exact Or.inl before
      | _ => exact Or.inl (by omega)
  | two =>
      cases formOther with
      | one => omega
      | two => exact compare 0 64 0xC0 fun _ => rfl
      | _ => exact Or.inl (by omega)
  | three =>
      cases formOther with
      | three => exact compare 1 4096 0xE0 fun value => Nat.div_div_eq_div_mul value 64 64
      | four => exact Or.inl (by omega)
      | _ => omega
  | four =>
      cases formOther with
      | four =>
          refine compare 2 262144 0xF0 fun value => ?_
          simp only [upperBits, Nat.div_div_eq_div_mul]
      | _ => omega

theorem encode_append_lt {a b : Char} (before : a.toNat < b.toNat) (first second : List UInt8) :
    String.utf8EncodeChar a ++ first < String.utf8EncodeChar b ++ second := by
  obtain ⟨lead, rest, form, encoded⟩ := exists_form a
  obtain ⟨other, behind, formOther, encodedOther⟩ := exists_form b
  rw [encoded, encodedOther]
  refine List.cons_lt_cons_iff.mpr ?_
  rcases form.lt_or_eq formOther before with less | ⟨rfl, later⟩
  · exact Or.inl (ofNat_lt_ofNat less formOther.lt)
  · exact Or.inr ⟨rfl, later first second⟩

end Utf8

namespace Text

theorem le_trans {first second third : Text} (front : le first second = true)
    (behind : le second third = true) : le first third = true := by
  induction first generalizing second third with
  | nil => rfl
  | cons a first ih =>
      cases second with
      | nil => cases front
      | cons b second =>
          cases third with
          | nil => cases behind
          | cons c third =>
              simp only [le, Bool.or_eq_true, Bool.and_eq_true, decide_eq_true_eq] at front behind ⊢
              rcases front with before | ⟨rfl, front⟩
              · rcases behind with after | ⟨rfl, _⟩
                · exact Or.inl (Nat.lt_trans before after)
                · exact Or.inl before
              · rcases behind with after | ⟨rfl, behind⟩
                · exact Or.inl after
                · exact Or.inr ⟨rfl, ih front behind⟩

/-- Of two different texts the one in front by code point is in front by its bytes. -/
theorem bytes_lt_bytes {first second : Text} (le : le first second = true)
    (ne : first ≠ second) : bytes first < bytes second := by
  induction first generalizing second with
  | nil =>
      cases second with
      | nil => exact absurd rfl ne
      | cons b second =>
          obtain ⟨lead, rest, _, encoded⟩ := Utf8.exists_form b
          rw [bytes_cons, encoded]
          exact List.nil_lt_cons _ _
  | cons a first ih =>
      cases second with
      | nil => cases le
      | cons b second =>
          rw [bytes_cons, bytes_cons]
          simp only [Text.le, Bool.or_eq_true, Bool.and_eq_true, decide_eq_true_eq] at le
          rcases le with before | ⟨rfl, later⟩
          · exact Utf8.encode_append_lt before _ _
          · exact List.append_left_lt (ih later fun same => ne (congrArg (a :: ·) same))

end Text

end SqlDump
