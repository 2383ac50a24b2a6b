import SqlDump.Proofs.ValueList.Undivided

/-!
# Where the readers stop

What a reader of a value list takes is undivided: literals and groups are
taken up to where they close, a field up to where nothing more can be taken.
A reader that stops early stands in front of something that never closes, and
then the scan does not close it either.
-/

namespace SqlDump

namespace ValueList

open Scan (clear)

theorem undivided?_of_close? {text rest : Text} (closed : Literal.close? text = some rest)
    (depth : Nat) :
    ∃ taken : Text, text = taken ++ rest ∧
      Scan.undivided? ⟨true, depth⟩ taken = some ⟨false, depth⟩ := by
  fun_induction Literal.close? text with
  | case1 => cases closed
  | case2 tail ih =>
      obtain ⟨taken, joined, passed⟩ := ih closed
      refine ⟨'\'' :: '\'' :: taken, by rw [joined]; rfl, ?_⟩
      simpa [Scan.undivided?, Scan.step] using passed
  | case3 tail notPair =>
      have same : tail = rest := Option.some.inj closed
      exact ⟨['\''], by rw [same]; rfl, by simp [Scan.undivided?, Scan.step]⟩
  | case4 c tail notPair notQuote ih =>
      obtain ⟨taken, joined, passed⟩ := ih closed
      have other : c ≠ '\'' := notQuote
      refine ⟨c :: taken, by rw [joined]; rfl, ?_⟩
      simpa [Scan.undivided?, Scan.step, other, clear] using passed

theorem run_of_close?_eq_none {text : Text} (unclosed : Literal.close? text = none)
    (depth : Nat) : Scan.run ⟨true, depth⟩ text = some ⟨true, depth⟩ := by
  fun_induction Literal.close? text with
  | case1 => rfl
  | case2 tail ih => simpa [Scan.run, Scan.step] using ih unclosed
  | case3 tail notPair => cases unclosed
  | case4 c tail notPair notQuote ih =>
      have other : c ≠ '\'' := notQuote
      simpa [Scan.run, Scan.step, other] using ih unclosed

/-- A text that starts with a literal or a group that never closes. -/
def IsBlocked (text : Text) : Prop :=
  (∃ inner, text = '\'' :: inner ∧ Literal.close? inner = none) ∨
    (∃ inner, text = '(' :: inner ∧ ∀ after, (groupEnd inner).val ≠ ')' :: after)

/-- Inside a group, reading stops at the end of the text, at the parenthesis
that ends the group, or in front of something that never closes.  What it
takes closes all it opens. -/
theorem groupEnd_stop (text : Text) :
    ∃ taken : Text, text = taken ++ (groupEnd text).val ∧ clear.run taken = some clear ∧
      ((groupEnd text).val = [] ∨ (∃ after, (groupEnd text).val = ')' :: after) ∨
        IsBlocked (groupEnd text).val) := by
  induction text using WellFounded.induction (measure List.length).wf with
  | h text ih =>
      cases text with
      | nil => exact ⟨[], by rw [groupEnd_nil]; rfl, rfl, Or.inl groupEnd_nil⟩
      | cons c inner =>
          by_cases quote : c = '\''
          · subst quote
            cases closed : Literal.close? inner with
            | none =>
                rw [groupEnd_open_literal closed]
                exact ⟨[], rfl, rfl, Or.inr (Or.inr (Or.inl ⟨inner, rfl, closed⟩))⟩
            | some after =>
                have shorter := Literal.length_lt_of_close? closed
                obtain ⟨literal, literalJoined, literalPassed⟩ := undivided?_of_close? closed 0
                obtain ⟨taken, joined, ran, stop⟩ := ih after (Nat.lt_succ_of_lt shorter)
                rw [groupEnd_literal closed]
                refine ⟨'\'' :: (literal ++ taken), ?_, ?_, stop⟩
                · rw [literalJoined, List.cons_append, List.append_assoc, ← joined]
                · exact (Scan.run_append_of_undivided? literalPassed taken).trans ran
          · by_cases paren : c = '('
            · subst paren
              obtain ⟨group, groupJoined, groupRan, _⟩ := ih inner (Nat.lt_succ_self _)
              by_cases ended : ∃ after, (groupEnd inner).val = ')' :: after
              · obtain ⟨after, ended⟩ := ended
                have shorter := length_lt_of_val_eq ended
                obtain ⟨taken, joined, ran, stop⟩ := ih after (Nat.lt_succ_of_lt shorter)
                rw [groupEnd_group ended]
                refine ⟨'(' :: (group ++ ')' :: taken), ?_, ?_, stop⟩
                · rw [groupJoined, ended, List.cons_append, List.append_assoc, List.cons_append,
                    ← joined]
                · have inside : (clear.deeper 1).run group = some (clear.deeper 1) :=
                    Scan.run_deeper groupRan 1
                  change (clear.deeper 1).run (group ++ ')' :: taken) = some clear
                  rw [Scan.run_append, inside, Option.bind_some]
                  exact ran
              · have unclosed : ∀ after, (groupEnd inner).val ≠ ')' :: after :=
                  fun after same => ended ⟨after, same⟩
                rw [groupEnd_open_group unclosed]
                exact ⟨[], rfl, rfl, Or.inr (Or.inr (Or.inr ⟨inner, rfl, unclosed⟩))⟩
            · by_cases close : c = ')'
              · subst close
                rw [groupEnd_close]
                exact ⟨[], rfl, rfl, Or.inr (Or.inl ⟨inner, rfl⟩)⟩
              · obtain ⟨taken, joined, ran, stop⟩ := ih inner (Nat.lt_succ_self _)
                rw [groupEnd_other quote paren close]
                refine ⟨c :: taken, by rw [List.cons_append, ← joined], ?_, stop⟩
                simpa [Scan.run, Scan.step, quote, paren, close, clear] using ran

/-- What follows a parenthesis that is never closed closes no more groups than it
opens. -/
theorem exists_run_of_unclosed {inner : Text}
    (unclosed : ∀ after, (groupEnd inner).val ≠ ')' :: after) :
    ∃ last : Scan, clear.run inner = some last := by
  induction inner using WellFounded.induction (measure List.length).wf with
  | h inner ih =>
      obtain ⟨taken, joined, ran, stop⟩ := groupEnd_stop inner
      have whole : clear.run inner = clear.run (groupEnd inner).val := by
        rw [joined, Scan.run_append, ran, Option.bind_some, ← joined]
      rcases stop with ended | ⟨after, ended⟩ | ⟨tail, blocked, open_⟩ | ⟨tail, blocked, open_⟩
      · exact ⟨clear, by rw [whole, ended]; rfl⟩
      · exact absurd ended (unclosed after)
      · refine ⟨⟨true, 0⟩, ?_⟩
        rw [whole, blocked]
        exact run_of_close?_eq_none open_ 0
      · obtain ⟨last, lastRan⟩ := ih tail (length_lt_of_val_eq blocked) open_
        refine ⟨last.deeper 1, ?_⟩
        rw [whole, blocked]
        exact Scan.run_deeper lastRan 1

/-- What never closes for the reader is still open for the scan at the end. -/
theorem run_ne_clear_of_isBlocked {text : Text} (blocked : IsBlocked text) :
    clear.run text ≠ some clear := by
  rcases blocked with ⟨inner, rfl, unclosed⟩ | ⟨inner, rfl, unclosed⟩
  · have ran : clear.run ('\'' :: inner) = some ⟨true, 0⟩ := run_of_close?_eq_none unclosed 0
    rw [ran]
    intro same
    cases same
  · obtain ⟨last, ran⟩ := exists_run_of_unclosed unclosed
    have whole : clear.run ('(' :: inner) = some (last.deeper 1) := Scan.run_deeper ran 1
    rw [whole]
    intro same
    exact last.deeper_one_ne_clear (Option.some.inj same)

end ValueList

end SqlDump
