import SqlDump.Text.Blank

/-!
# Trimming

Trimming splits a text into a run of blanks, a core without blanks at its
ends, and another run of blanks.  The core is all that trimming sees: blanks
added at an end change nothing, and a core is its own trimmed form.
-/

namespace SqlDump

namespace Text

theorem isAllBlank_nil : isAllBlank [] = true := rfl

theorem isAllBlank_append (first second : Text) :
    isAllBlank (first ++ second) = (isAllBlank first && isAllBlank second) :=
  List.all_append

theorem trimStart_append_of_isAllBlank {blanks : Text} (blank : blanks.isAllBlank = true)
    (text : Text) : trimStart (blanks ++ text) = trimStart text :=
  List.dropWhile_append_of_pos (List.all_eq_true.mp blank)

theorem trimEnd_append_of_isAllBlank {blanks : Text} (blank : blanks.isAllBlank = true)
    (text : Text) : trimEnd (text ++ blanks) = trimEnd text := by
  have reversed : ∀ c ∈ blanks.reverse, isBlank c = true := by
    intro c member
    exact List.all_eq_true.mp blank c (List.mem_reverse.mp member)
  rw [trimEnd, List.reverse_append, List.dropWhile_append_of_pos reversed]
  rfl

theorem trimEnd_concat {c : Char} (solid : isBlank c = false) (text : Text) :
    trimEnd (text ++ [c]) = text ++ [c] := by
  simp [trimEnd, solid]

theorem trimStart_cons {c : Char} (solid : isBlank c = false) (text : Text) :
    trimStart (c :: text) = c :: text := by
  simp [trimStart, solid]

theorem trimStart_of_isAllBlank {text : Text} (blank : text.isAllBlank = true) :
    trimStart text = [] := by
  have removed := trimStart_append_of_isAllBlank blank []
  rwa [List.append_nil] at removed

theorem trimEnd_of_isAllBlank {text : Text} (blank : text.isAllBlank = true) :
    trimEnd text = [] :=
  trimEnd_append_of_isAllBlank blank []

theorem trimEnd_cases (text : Text) :
    trimEnd text = [] ∨ ∃ (rest : Text) (c : Char), isBlank c = false ∧
      trimEnd text = rest ++ [c] := by
  cases kept : text.reverse.dropWhile isBlank with
  | nil => exact Or.inl (by rw [trimEnd, kept, List.reverse_nil])
  | cons c rest =>
      have solid : isBlank c = false := isBlank_of_trimStart_eq_cons kept
      exact Or.inr ⟨rest.reverse, c, solid, by rw [trimEnd, kept, List.reverse_cons]⟩

theorem trimEnd_trimEnd (text : Text) : trimEnd (trimEnd text) = trimEnd text := by
  rcases trimEnd_cases text with empty | ⟨rest, c, solid, same⟩
  · rw [empty, trimEnd_of_isAllBlank isAllBlank_nil]
  · rw [same, trimEnd_concat solid]

/-- Trimming the end does not bring a blank to the start. -/
theorem trimStart_trimEnd_trimStart (text : Text) :
    trimStart (trimEnd (trimStart text)) = trimEnd (trimStart text) := by
  cases started : trimStart text with
  | nil => rfl
  | cons c rest =>
      have solid : isBlank c = false := isBlank_of_trimStart_eq_cons started
      obtain ⟨blanks, _, joined⟩ := trimEnd_append_blanks (c :: rest)
      cases kept : trimEnd (c :: rest) with
      | nil => rfl
      | cons d tail =>
          rw [kept, List.cons_append, List.cons.injEq] at joined
          rw [joined.1]
          exact trimStart_cons solid tail

theorem trim_trim (text : Text) : trim (trim text) = trim text := by
  rw [trim, trim, trimStart_trimEnd_trimStart, trimEnd_trimEnd]

theorem exists_blanks_trim (text : Text) :
    ∃ front back : Text, front.isAllBlank = true ∧ back.isAllBlank = true ∧
      text = front ++ trim text ++ back := by
  obtain ⟨back, backBlank, joined⟩ := trimEnd_append_blanks (trimStart text)
  refine ⟨text.takeWhile isBlank, back, ?_, backBlank, ?_⟩
  · exact List.all_takeWhile
  · rw [List.append_assoc, trim, joined, takeWhile_append_trimStart]

theorem trim_append_of_isAllBlank {blanks : Text} (blank : blanks.isAllBlank = true)
    (text : Text) : trim (blanks ++ text) = trim text := by
  rw [trim, trim, trimStart_append_of_isAllBlank blank]

theorem trim_eq_nil_iff (text : Text) : trim text = [] ↔ text.isAllBlank = true := by
  constructor
  · intro empty
    obtain ⟨front, back, frontBlank, backBlank, joined⟩ := exists_blanks_trim text
    rw [joined, empty, List.append_nil, isAllBlank_append, frontBlank, backBlank]
    rfl
  · intro blank
    rw [trim, trimStart_of_isAllBlank blank]
    rfl

end Text

end SqlDump
