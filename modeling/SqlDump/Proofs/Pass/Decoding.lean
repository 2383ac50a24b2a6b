import Mathlib.Data.List.Forall2
import SqlDump.Pass
import SqlDump.Proofs.Text.Lines
import SqlDump.Proofs.Text.Lossy

/-!
# Passes over bytes that are no text

A pass decodes each line by itself.  A newline ends whatever is pending, so the
lines are those of the text that stands for all the bytes, and bytes that belong
to no character never move the end of a line or of a statement.
-/

namespace SqlDump

namespace Utf8

theorem decodeLossy_eq_nil_iff {bytes : List UInt8} : decodeLossy bytes = [] ↔ bytes = [] := by
  constructor
  · intro empty
    have lossy := lossy_decodeLossy bytes
    rw [empty] at lossy
    cases lossy
    rfl
  · rintro rfl
    rfl

end Utf8

namespace Text

theorem bytes_eq_nil_iff {text : Text} : text.bytes = [] ↔ text = [] := by
  rw [← Utf8.decodeLossy_eq_nil_iff, Utf8.decodeLossy_bytes]

theorem lines_of_notMem {body : Text} (unbroken : '\n' ∉ body) :
    lines body = if body = [] then [] else [body] := by
  rw [lines, Input.lines_of_notMem (newline_notMem_bytes unbroken), Utf8.decodeLossy_bytes]
  simp only [bytes_eq_nil_iff, Option.isSome_none, Bool.false_eq_true, or_false]

theorem flatten_lines (text : Text) : text.lines.flatten = text := by
  induction text using lineInduction '\n' with
  | last body unbroken =>
      rw [lines_of_notMem unbroken]
      split
      · next empty => rw [empty, List.flatten_nil]
      · rw [List.flatten_singleton]
  | line body rest unbroken ih =>
      rw [lines_append_newline unbroken, List.flatten_cons, ih, List.append_assoc,
        List.singleton_append]

end Text

/-- The lines that are decoded one by one are the lines of the decoded whole. -/
theorem Input.lines_eq_lines_decodeLossy (bytes : List UInt8) :
    Input.lines ⟨bytes, none⟩ = Text.lines (Utf8.decodeLossy bytes) := by
  induction bytes using Text.lineInduction newline with
  | last body unbroken =>
      rw [Text.lines_of_notMem (Utf8.newline_notMem_decodeLossy unbroken),
        lines_of_notMem unbroken]
      simp only [Utf8.decodeLossy_eq_nil_iff, Option.isSome_none, Bool.false_eq_true, or_false]
  | line body rest unbroken ih =>
      rw [newline, Utf8.decodeLossy_append_newline,
        Text.lines_append_newline (Utf8.newline_notMem_decodeLossy unbroken), ← ih]
      exact lines_append_newline unbroken rest none

namespace Cleaner

/-- A pass sees of its input the lines and the fault. -/
theorem run_congr (cleaner : Cleaner) {input other : Input} (sameLines : input.lines = other.lines)
    (sameFault : input.fault? = other.fault?) (channels : Channels) :
    cleaner.run input channels = cleaner.run other channels := by
  have samePlan : cleaner.plan input = cleaner.plan other := by
    rw [plan, plan, sameLines, sameFault]
  rw [run_eq, run_eq, samePlan, sameLines]

/-- A pass over bytes is a pass over the text that stands for them.  Exactly one
text does.  Its lines stand for the lines of the bytes one by one and make it up,
so the same statements are gathered from both.  The pass over its UTF-8 form
leaves the same channels, does the same actions and comes to the same result. -/
theorem run_lossy (cleaner : Cleaner) (bytes : List UInt8) (channels : Channels) :
    ∃ text : Text,
      (∀ other : Text, Utf8.Lossy bytes other ↔ other = text) ∧
      List.Forall₂ Utf8.Lossy (Input.lineBytes ⟨bytes, none⟩) text.lines ∧
      text.lines.flatten = text ∧
      Gatherer.statements (Input.lines ⟨bytes, none⟩) = Gatherer.statements text.lines ∧
      cleaner.run ⟨bytes, none⟩ channels = cleaner.run ⟨text.bytes, none⟩ channels := by
  have sameLines := Input.lines_eq_lines_decodeLossy bytes
  refine ⟨Utf8.decodeLossy bytes, fun other => Utf8.lossy_iff, ?_, Text.flatten_lines _,
    congrArg Gatherer.statements sameLines, run_congr cleaner sameLines rfl channels⟩
  rw [← sameLines, Input.lines, List.forall₂_map_right_iff, List.forall₂_same]
  exact fun line _ => Utf8.lossy_decodeLossy line

end Cleaner

end SqlDump
