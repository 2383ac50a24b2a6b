import SqlDump.Text

/-!
# Blank characters

The blank characters are the twenty-five of the Unicode property
`White_Space`.  Trimming removes the blanks at one end or at both ends of a
text and nothing else.
-/

namespace SqlDump

namespace Text

def blankRanges : List (Nat × Nat) :=
  [(0x09, 0x0D), (0x20, 0x20), (0x85, 0x85), (0xA0, 0xA0), (0x1680, 0x1680),
   (0x2000, 0x200A), (0x2028, 0x2029), (0x202F, 0x202F), (0x205F, 0x205F),
   (0x3000, 0x3000)]

def isBlank (c : Char) : Bool :=
  blankRanges.any fun (low, high) => low ≤ c.toNat && c.toNat ≤ high

def trimStart (text : Text) : Text :=
  text.dropWhile isBlank

def trimEnd (text : Text) : Text :=
  (text.reverse.dropWhile isBlank).reverse

def trim (text : Text) : Text :=
  trimEnd (trimStart text)

def isAllBlank (text : Text) : Bool :=
  text.all isBlank

theorem takeWhile_append_trimStart (text : Text) :
    text.takeWhile isBlank ++ trimStart text = text :=
  List.takeWhile_append_dropWhile

theorem trimEnd_append_blanks (text : Text) :
    ∃ blanks : Text, blanks.isAllBlank = true ∧ trimEnd text ++ blanks = text := by
  refine ⟨(text.reverse.takeWhile isBlank).reverse, ?_, ?_⟩
  · simp [isAllBlank]
  · rw [trimEnd, ← List.reverse_append, List.takeWhile_append_dropWhile,
      List.reverse_reverse]

theorem isBlank_of_trimStart_eq_cons {text rest : Text} {c : Char}
    (start : trimStart text = c :: rest) : isBlank c = false := by
  induction text with
  | nil => simp [trimStart] at start
  | cons d tail ih =>
      by_cases blank : isBlank d = true
      · exact ih (by simpa [trimStart, List.dropWhile_cons, blank] using start)
      · simp only [trimStart, List.dropWhile_cons, blank] at start
        simp only [Bool.false_eq_true, if_false, List.cons.injEq] at start
        simpa [start.1] using blank

end Text

end SqlDump
