import SqlDump.Proofs.ValueList.Reading

/-!
# Closing parentheses

A text that closes all it opens may stand between two parentheses: the second
one closes the first, and no earlier one does.  What follows an open
parenthesis inside such a text does not close all it opens itself.  A value
list that can be read is such a text.
-/

namespace SqlDump

namespace Scan

/-- A group around a text that closes all it opens is not closed before the
parenthesis behind the text. -/
theorem behindClose?_deeper_one {scan : Scan} {text : Text}
    (closed : scan.run text = some clear) (rest : Text) :
    (scan.deeper 1).behindClose? (text ++ ')' :: rest) = some rest := by
  induction text generalizing scan with
  | nil =>
      cases closed
      rfl
  | cons c tail ih =>
      rw [run] at closed
      cases stepped : scan.step c with
      | none => rw [stepped] at closed; cases closed
      | some next =>
          rw [stepped] at closed
          rw [List.cons_append, behindClose?, step_deeper stepped 1]
          exact (if_neg next.deeper_one_ne_clear).trans (ih closed)

theorem behindClose?_group {text : Text} (closed : clear.run text = some clear) (rest : Text) :
    clear.behindClose? ('(' :: (text ++ ')' :: rest)) = some rest :=
  behindClose?_deeper_one closed rest

theorem run_append_close {text : Text} (closed : clear.run text = some clear) (rest : Text) :
    clear.run (text ++ ')' :: rest) = none := by
  rw [run_append, closed]
  rfl

/-- Each quote opens or closes a literal, whatever is open. -/
theorem inLiteral_of_step {scan next : Scan} {c : Char} (stepped : scan.step c = some next) :
    next.inLiteral = (scan.inLiteral ^^ decide (c = '\'')) := by
  unfold step at stepped
  by_cases quote : c = '\''
  · rw [if_pos quote] at stepped
    cases stepped
    simp [quote]
  · rw [if_neg quote] at stepped
    grind

/-- Two scans of one text that differ in whether a literal is open in front of it
differ in that behind it, too. -/
theorem inLiteral_of_run {first second firstLast secondLast : Scan} {text : Text}
    (ran : first.run text = some firstLast) (ranToo : second.run text = some secondLast) :
    (firstLast.inLiteral ^^ secondLast.inLiteral) = (first.inLiteral ^^ second.inLiteral) := by
  induction text generalizing first second with
  | nil =>
      cases ran
      cases ranToo
      rfl
  | cons c tail ih =>
      rw [run] at ran ranToo
      cases stepped : first.step c with
      | none => rw [stepped] at ran; cases ran
      | some next =>
          cases steppedToo : second.step c with
          | none => rw [steppedToo] at ranToo; cases ranToo
          | some nextToo =>
              rw [stepped] at ran
              rw [steppedToo] at ranToo
              rw [ih ran ranToo, inLiteral_of_step stepped, inLiteral_of_step steppedToo]
              cases first.inLiteral <;> cases second.inLiteral <;>
                cases decide (c = '\'') <;> rfl

/-- What follows an open parenthesis in a text that closes all it opens either
closes that parenthesis, too, or ends a literal that it does not open. -/
theorem run_ne_clear_behind_open {front back : Text}
    (closed : clear.run (front ++ '(' :: back) = some clear) : clear.run back ≠ some clear := by
  intro closedBack
  rw [run_append] at closed
  cases ran : clear.run front with
  | none => rw [ran] at closed; cases closed
  | some middle =>
      rw [ran, Option.bind_some] at closed
      obtain ⟨inLiteral, depth⟩ := middle
      cases inLiteral with
      | true =>
          have ranBack : run ⟨true, depth⟩ back = some clear := by
            simpa [run, step] using closed
          cases inLiteral_of_run ranBack closedBack
      | false =>
          have ranBack : run ⟨false, depth + 1⟩ back = some clear := by
            simpa [run, step] using closed
          have deep : (clear.deeper (depth + 1)).run back = some ⟨false, 0 + (depth + 1)⟩ :=
            run_deeper closedBack (depth + 1)
          rw [deeper, clear, Nat.zero_add, ranBack] at deep
          cases deep

end Scan

namespace ValueList

open Scan (clear)

theorem run_of_read {text : Text} {values : List Value} (found : read text = .ok values) :
    clear.run text = some clear := by
  rw [read_eq_ok_iff, Scan.read?] at found
  split at found
  · next blank => exact Scan.run_of_undivided? (Scan.undivided?_of_isAllBlank blank clear)
  · split at found
    · next balanced => exact of_decide_eq_true balanced
    · cases found

end ValueList

end SqlDump
