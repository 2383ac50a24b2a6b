import SqlDump.Input
import SqlDump.Proofs.Text.Decoding

/-!
# Lines

A line of an input is a text without line breaks, with one line break behind it
unless the input ends there.  The lines of two texts that meet at a line break
are the lines of the first and then the lines of the second.
-/

namespace SqlDump

/-! ## Lines of bytes -/

namespace Input

theorem cutFrom_of_notMem {body : List UInt8} (unbroken : newline ∉ body) (begun : List UInt8) :
    cutFrom begun body = ([], begun.reverse ++ body) := by
  induction body generalizing begun with
  | nil => rw [cutFrom, List.append_nil]
  | cons byte body ih =>
      rw [List.mem_cons, not_or] at unbroken
      rw [cutFrom, if_neg (Ne.symm unbroken.1), ih unbroken.2, List.reverse_cons,
        List.append_assoc, List.singleton_append]

theorem cutFrom_append_newline {body : List UInt8} (unbroken : newline ∉ body)
    (begun rest : List UInt8) :
    cutFrom begun (body ++ newline :: rest) =
      ((begun.reverse ++ body ++ [newline]) :: (cut rest).1, (cut rest).2) := by
  induction body generalizing begun with
  | nil => simp [cutFrom, cut]
  | cons byte body ih =>
      rw [List.mem_cons, not_or] at unbroken
      rw [List.cons_append, cutFrom, if_neg (Ne.symm unbroken.1), ih unbroken.2,
        List.reverse_cons, List.append_assoc begun.reverse, List.singleton_append]

theorem lineBytes_append_newline {body : List UInt8} (unbroken : newline ∉ body)
    (rest : List UInt8) (fault? : Option Fault) :
    lineBytes ⟨body ++ newline :: rest, fault?⟩ =
      (body ++ [newline]) :: lineBytes ⟨rest, fault?⟩ := by
  have divided : cut (body ++ newline :: rest) =
      ((body ++ [newline]) :: (cut rest).1, (cut rest).2) :=
    cutFrom_append_newline unbroken [] rest
  by_cases complete : (cut rest).2 = [] ∨ fault?.isSome
  · simp only [lineBytes, divided, if_pos complete]
  · simp only [lineBytes, divided, if_neg complete, List.cons_append]

/-- Bytes without a newline are one line, or none if reading fails behind them. -/
theorem lineBytes_of_notMem {body : List UInt8} (unbroken : newline ∉ body)
    (fault? : Option Fault) :
    lineBytes ⟨body, fault?⟩ = if body = [] ∨ fault?.isSome then [] else [body] := by
  simp only [lineBytes, cut, cutFrom_of_notMem unbroken, List.reverse_nil, List.nil_append]

theorem lines_append_newline {body : List UInt8} (unbroken : newline ∉ body)
    (rest : List UInt8) (fault? : Option Fault) :
    lines ⟨body ++ newline :: rest, fault?⟩ =
      (Utf8.decodeLossy body ++ ['\n']) :: lines ⟨rest, fault?⟩ := by
  rw [lines, lineBytes_append_newline unbroken, List.map_cons, ← lines]
  congr 1
  exact Utf8.decodeLossy_append_newline body []

theorem lines_of_notMem {body : List UInt8} (unbroken : newline ∉ body) (fault? : Option Fault) :
    lines ⟨body, fault?⟩ =
      if body = [] ∨ fault?.isSome then [] else [Utf8.decodeLossy body] := by
  rw [lines, lineBytes_of_notMem unbroken]
  split <;> rfl

end Input

namespace Text

/-- Texts are built from a last line by putting lines in front. -/
theorem lineInduction {α : Type} (ends : α) {motive : List α → Prop}
    (last : ∀ body, ends ∉ body → motive body)
    (line : ∀ body rest, ends ∉ body → motive rest → motive (body ++ ends :: rest))
    (items : List α) : motive items := by
  by_cases broken : ends ∈ items
  · obtain ⟨body, rest, same, unbroken⟩ := List.eq_append_cons_of_mem broken
    have shorter : rest.length < items.length := by
      rw [same, List.length_append, List.length_cons]
      omega
    rw [same]
    exact line body rest unbroken (lineInduction ends last line rest)
  · exact last items broken
termination_by items.length

/-- A text without line breaks, and one line break behind it or none. -/
def IsLine (line : Text) : Prop :=
  ∃ body : Text, '\n' ∉ body ∧ (line = body ∨ line = body ++ ['\n'])

end Text

theorem Input.isLine_of_mem_lines {input : Input} {line : Text} (found : line ∈ input.lines) :
    line.IsLine := by
  obtain ⟨bytes, fault?⟩ := input
  induction bytes using Text.lineInduction newline with
  | last body unbroken =>
      rw [lines_of_notMem unbroken] at found
      split at found
      · cases found
      · rw [List.mem_singleton] at found
        exact ⟨Utf8.decodeLossy body, Utf8.newline_notMem_decodeLossy unbroken, Or.inl found⟩
  | line body rest unbroken ih =>
      rw [lines_append_newline unbroken, List.mem_cons] at found
      rcases found with first | later
      · exact ⟨Utf8.decodeLossy body, Utf8.newline_notMem_decodeLossy unbroken, Or.inr first⟩
      · exact ih later

/-- The input without its fault: all its bytes, or the complete lines in front of
the fault. -/
def Input.readable (input : Input) : Input :=
  ⟨if input.fault?.isSome then (cut input.bytes).1.flatten else input.bytes, none⟩

/-- A fault takes away no more than the line in which it is met. -/
theorem Input.lines_readable (input : Input) : input.readable.lines = input.lines := by
  obtain ⟨bytes, fault?⟩ := input
  cases fault? with
  | none => rfl
  | some fault =>
      change lines ⟨(cut bytes).1.flatten, none⟩ = lines ⟨bytes, some fault⟩
      induction bytes using Text.lineInduction newline with
      | last body unbroken =>
          rw [lines_of_notMem unbroken, cut, cutFrom_of_notMem unbroken]
          simp [lines, lineBytes, cut, cutFrom]
      | line body rest unbroken ih =>
          have divided : (cut (body ++ newline :: rest)).1.flatten =
              body ++ newline :: (cut rest).1.flatten := by
            rw [cut, cutFrom_append_newline unbroken]
            simp
          rw [divided, lines_append_newline unbroken, ih, lines_append_newline unbroken]

/-! ## Lines of texts -/

namespace Text

def lines (text : Text) : List Text :=
  Input.lines ⟨text.bytes, none⟩

theorem newline_notMem_bytes {body : Text} (unbroken : '\n' ∉ body) :
    Input.newline ∉ body.bytes := by
  intro broken
  obtain ⟨before, behind, same⟩ := List.append_of_mem broken
  have read := Utf8.decodeLossy_bytes body
  rw [same, Input.newline, Utf8.decodeLossy_append_newline] at read
  apply unbroken
  rw [← read]
  exact List.mem_append_right _ List.mem_cons_self

theorem lines_append_newline {body : Text} (unbroken : '\n' ∉ body) (rest : Text) :
    lines (body ++ '\n' :: rest) = (body ++ ['\n']) :: lines rest := by
  have broken : bytes (body ++ '\n' :: rest) = body.bytes ++ Input.newline :: bytes rest := by
    rw [bytes_append, bytes_cons]
    rfl
  rw [lines, broken, Input.lines_append_newline (newline_notMem_bytes unbroken),
    Utf8.decodeLossy_bytes]
  rfl

theorem lines_nil : lines [] = [] := rfl

/-- Two texts that meet at a line break share no line. -/
theorem lines_append (first second : Text) :
    lines (first ++ '\n' :: second) = lines (first ++ ['\n']) ++ lines second := by
  induction first using lineInduction '\n' with
  | last body unbroken =>
      rw [lines_append_newline unbroken, lines_append_newline unbroken, lines_nil]
      rfl
  | line body rest unbroken ih =>
      rw [List.append_assoc, List.cons_append, lines_append_newline unbroken, ih,
        List.append_assoc, List.cons_append, lines_append_newline unbroken, List.cons_append]

end Text

end SqlDump
