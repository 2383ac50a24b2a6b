import SqlDump.Gatherer
import SqlDump.Proofs.Text.Lines
import SqlDump.Proofs.Text.Occurrences

/-!
# Gathering by segments

After every line the gatherer searches all the text it holds.  No terminator
lies across a line break, so it finds one exactly if the line itself holds one,
and what it gathers are the statements of the segments of the lines.
-/

namespace SqlDump

namespace Text

def IsLineStart (text : Text) : Prop :=
  text = [] ∨ ∃ body : Text, text = body ++ ['\n']

theorem IsLineStart.append {first second : Text} (front : first.IsLineStart)
    (back : second.IsLineStart) : IsLineStart (first ++ second) := by
  rcases back with rfl | ⟨body, rfl⟩
  · rwa [List.append_nil]
  · exact Or.inr ⟨first ++ body, (List.append_assoc _ _ _).symm⟩

theorem mem_dropLast_cons {line text : Text} {lines : List Text} :
    text ∈ (line :: lines).dropLast ↔ lines ≠ [] ∧ (text = line ∨ text ∈ lines.dropLast) := by
  cases lines <;> simp

/-- A terminator in lines and what follows them lies in one of both. -/
theorem contains_terminator_append {lines : Text} (start : lines.IsLineStart) (text : Text) :
    contains Insert.terminator (lines ++ text) =
      (contains Insert.terminator lines || contains Insert.terminator text) := by
  have outside : '\n' ∉ Insert.terminator := by decide
  have absent : contains Insert.terminator [] = false := rfl
  rcases start with rfl | ⟨body, rfl⟩
  · rw [List.nil_append, absent, Bool.false_or]
  · rw [List.append_assoc, List.singleton_append, contains_append_cons outside,
      contains_append_cons outside, absent, Bool.or_false]

end Text

theorem Input.isLineStart_of_mem_dropLast {input : Input} {line : Text}
    (found : line ∈ input.lines.dropLast) : line.IsLineStart := by
  obtain ⟨bytes, fault?⟩ := input
  induction bytes using Text.lineInduction newline with
  | last body unbroken =>
      rw [lines_of_notMem unbroken] at found
      split at found
      · cases found
      · cases found
  | line body rest unbroken ih =>
      rw [lines_append_newline unbroken, Text.mem_dropLast_cons] at found
      rcases found.2 with rfl | later
      · exact Or.inr ⟨_, rfl⟩
      · exact ih later

namespace Segments

theorem statements_cons_of_ends {line : Text} (ended : ends line = true) (lines : List Text) :
    statements (line :: lines) =
      (line.trimEnd :: (statements lines).1, (statements lines).2) := by
  simp [statements, of, divide, ended, statement]

/-- A line that ends no segment may be joined to the next one. -/
theorem statements_join {first second : Text} (opened : ends first = false)
    (same : ends (first ++ second) = ends second) (lines : List Text) :
    statements (first :: second :: lines) = statements ((first ++ second) :: lines) := by
  simp only [statements, of, divide, opened, same]
  cases divide ends lines with
  | mk segments rest =>
      cases ended : ends second with
      | true => simp [statement]
      | false => cases segments <;> simp [statement]

theorem statements_nil_cons (lines : List Text) : statements ([] :: lines) = statements lines := by
  cases lines with
  | nil => rfl
  | cons line lines => exact statements_join rfl rfl lines

end Segments

namespace Gatherer

/-- What a gatherer may hold in front of some lines: no terminator, and of the
text that is held and the lines only the last may lack its line break. -/
structure IsHeld (held : Text) (lines : List Text) : Prop where
  opened : Segments.ends held = false
  starts : ∀ line ∈ (held :: lines).dropLast, Text.IsLineStart line

section Held

variable {held line : Text} {lines : List Text}

theorem isHeld_nil_lines (input : Input) : IsHeld [] input.lines := by
  refine ⟨rfl, fun line member => ?_⟩
  rcases (Text.mem_dropLast_cons.mp member).2 with rfl | later
  · exact Or.inl rfl
  · exact Input.isLineStart_of_mem_dropLast later

/-- A line completes what is held exactly if it holds a terminator itself. -/
theorem IsHeld.ends_append (isHeld : IsHeld held (line :: lines)) :
    Segments.ends (held ++ line) = Segments.ends line := by
  have heldStart : held.IsLineStart :=
    isHeld.starts held (Text.mem_dropLast_cons.mpr ⟨List.cons_ne_nil _ _, Or.inl rfl⟩)
  rw [Segments.ends, Text.contains_terminator_append heldStart, ← Segments.ends, isHeld.opened,
    Bool.false_or, Segments.ends]

theorem IsHeld.feed_of_ends (isHeld : IsHeld held (line :: lines))
    (ended : Segments.ends line = true) :
    feed ⟨held⟩ line = (some (held ++ line).trimEnd, empty) :=
  if_pos (isHeld.ends_append.trans ended)

theorem IsHeld.feed_of_not_ends (isHeld : IsHeld held (line :: lines))
    (opened : Segments.ends line = false) : feed ⟨held⟩ line = (none, ⟨held ++ line⟩) := by
  have absent := isHeld.ends_append.trans opened
  rw [Segments.ends] at absent
  simp [feed, absent]

theorem IsHeld.of_cons (isHeld : IsHeld held (line :: lines)) {next : Text}
    (opened : Segments.ends next = false) (kept : line.IsLineStart → next.IsLineStart) :
    IsHeld next lines := by
  have others : ∀ other ∈ (line :: lines).dropLast, Text.IsLineStart other :=
    fun other member =>
      isHeld.starts other (Text.mem_dropLast_cons.mpr ⟨List.cons_ne_nil _ _, Or.inr member⟩)
  refine ⟨opened, fun other member => ?_⟩
  obtain ⟨proper, rfl | later⟩ := Text.mem_dropLast_cons.mp member
  · exact kept (others line (Text.mem_dropLast_cons.mpr ⟨proper, Or.inl rfl⟩))
  · exact others other (Text.mem_dropLast_cons.mpr ⟨proper, Or.inr later⟩)

theorem IsHeld.afresh (isHeld : IsHeld held (line :: lines)) : IsHeld [] lines :=
  isHeld.of_cons rfl fun _ => Or.inl rfl

theorem IsHeld.longer (isHeld : IsHeld held (line :: lines))
    (opened : Segments.ends line = false) : IsHeld (held ++ line) lines :=
  isHeld.of_cons (isHeld.ends_append.trans opened)
    (isHeld.starts held (Text.mem_dropLast_cons.mpr ⟨List.cons_ne_nil _ _, Or.inl rfl⟩)).append

end Held

/-- The text that a gatherer holds counts like a line in front of the others. -/
theorem feedAll_eq_segments {held : Text} {lines : List Text} (isHeld : IsHeld held lines) :
    ((feedAll ⟨held⟩ lines).1.filterMap id, (feedAll ⟨held⟩ lines).2.held) =
      Segments.statements (held :: lines) := by
  induction lines generalizing held with
  | nil => simp [feedAll, Segments.statements, Segments.of, Segments.divide, isHeld.opened]
  | cons line lines ih =>
      rw [Segments.statements_join isHeld.opened isHeld.ends_append]
      cases ended : Segments.ends line with
      | true =>
          have gathered := ih isHeld.afresh
          rw [Segments.statements_nil_cons] at gathered
          rw [Segments.statements_cons_of_ends (isHeld.ends_append.trans ended), ← gathered,
            feedAll, isHeld.feed_of_ends ended]
          rfl
      | false =>
          rw [← ih (isHeld.longer ended), feedAll, isHeld.feed_of_not_ends ended]
          rfl

/-- A statement comes out behind just those lines that hold a terminator. -/
theorem map_isSome_feedAll {held : Text} {lines : List Text} (isHeld : IsHeld held lines) :
    (feedAll ⟨held⟩ lines).1.map Option.isSome = lines.map Segments.ends := by
  induction lines generalizing held with
  | nil => rfl
  | cons line lines ih =>
      cases ended : Segments.ends line with
      | true =>
          rw [feedAll, isHeld.feed_of_ends ended, List.map_cons, List.map_cons, ended,
            ← ih isHeld.afresh]
          rfl
      | false =>
          rw [feedAll, isHeld.feed_of_not_ends ended, List.map_cons, List.map_cons, ended,
            ← ih (isHeld.longer ended)]
          rfl

/-- What is gathered from the lines of an input are the statements of their
segments, and what is left is the text behind the last segment. -/
theorem statements_eq_segments (input : Input) :
    statements input.lines =
      ((Segments.statements input.lines).1, ⟨(Segments.statements input.lines).2⟩) := by
  have gathered := feedAll_eq_segments (isHeld_nil_lines input)
  rw [Segments.statements_nil_cons] at gathered
  rw [← gathered]
  rfl

end Gatherer

end SqlDump
