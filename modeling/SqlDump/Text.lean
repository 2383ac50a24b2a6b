/-!
# Text

A text is a list of characters.  Offsets into a text are counted in bytes of
its UTF-8 form; `byteSize` is that measure and `bytes` is the form itself.
A slice is given by two offsets, and exists only if both lie between two characters,
or at an end of the text.
-/

namespace SqlDump

abbrev Text := List Char

namespace Text

def bytes (text : Text) : List UInt8 :=
  text.flatMap String.utf8EncodeChar

def byteSize : Text → Nat
  | [] => 0
  | c :: rest => c.utf8Size + byteSize rest

/-- Whether the first of two texts is not behind the second, by code point. -/
def le : Text → Text → Bool
  | [], _ => true
  | _ :: _, [] => false
  | a :: first, b :: second => a.toNat < b.toNat || (a = b && le first second)

theorem bytes_cons (c : Char) (text : Text) :
    bytes (c :: text) = String.utf8EncodeChar c ++ bytes text := by
  simp [bytes]

theorem bytes_append (first second : Text) :
    bytes (first ++ second) = bytes first ++ bytes second := by
  simp [bytes]

theorem byteSize_cons (c : Char) (text : Text) :
    byteSize (c :: text) = c.utf8Size + byteSize text := rfl

theorem byteSize_append (first second : Text) :
    byteSize (first ++ second) = byteSize first + byteSize second := by
  induction first with
  | nil => simp [byteSize]
  | cons c rest ih =>
      rw [List.cons_append, byteSize_cons, byteSize_cons, ih, Nat.add_assoc]

theorem le_total (first second : Text) : (le first second || le second first) = true := by
  induction first generalizing second with
  | nil => rfl
  | cons a first ih =>
      cases second with
      | nil => rfl
      | cons b second =>
          have tail := ih second
          by_cases same : a = b
          · subst same
            simpa [le] using tail
          · have differ : a.toNat ≠ b.toNat := fun eq => same (Char.toNat_inj.mp eq)
            simp only [le, same, Ne.symm same, decide_false, Bool.false_and, Bool.or_false,
              Bool.or_eq_true, decide_eq_true_eq]
            omega

def ofNat (n : Nat) : Text :=
  Nat.toDigits 10 n

/-! ## Slices -/

def dropBytes? (count : Nat) : Text → Option Text
  | [] => if count = 0 then some [] else none
  | c :: rest =>
      if count = 0 then some (c :: rest)
      else if c.utf8Size ≤ count then dropBytes? (count - c.utf8Size) rest
      else none

def takeBytes? (count : Nat) : Text → Option Text
  | [] => if count = 0 then some [] else none
  | c :: rest =>
      if count = 0 then some []
      else if c.utf8Size ≤ count then (takeBytes? (count - c.utf8Size) rest).map (c :: ·)
      else none

def slice? (start stop : Nat) (text : Text) : Option Text :=
  if start ≤ stop then (dropBytes? start text).bind (takeBytes? (stop - start)) else none

theorem takeBytes?_append (first second : Text) :
    takeBytes? first.byteSize (first ++ second) = some first := by
  induction first with
  | nil => cases second <;> simp [takeBytes?, byteSize]
  | cons c rest ih =>
      have := Char.utf8Size_pos c
      rw [List.cons_append, byteSize_cons, takeBytes?, if_neg (by omega), if_pos (by omega),
        Nat.add_sub_cancel_left, ih, Option.map_some]

end Text

end SqlDump
