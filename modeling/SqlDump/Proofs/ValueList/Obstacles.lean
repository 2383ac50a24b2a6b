import SqlDump.Proofs.ValueList.Borders
import SqlDump.Proofs.ValueList.Closing

/-!
# What a misread value list is blamed on

Where reading a value list stops, everything in front is read and what follows is
an obstacle.  Which kind of obstacle it is can be told from the scan of the whole
text: the scan does not get through, or leaves a group open, or leaves only a
literal open.
-/

namespace SqlDump

namespace Literal

theorem quotesPaired_of_close?_eq_none {text : Text} (unclosed : close? text = none) :
    Scan.quotesPaired text = true := by
  fun_induction close? text with
  | case1 => rfl
  | case2 tail ih => simpa [Scan.quotesPaired] using ih unclosed
  | case3 tail notPair => cases unclosed
  | case4 c tail notPair notQuote ih =>
      have other : c ≠ '\'' := notQuote
      simpa [Scan.quotesPaired, other] using ih unclosed

theorem not_quotesPaired_of_head?_ne {text : Text} (other : text.head? ≠ some '\'') :
    Scan.quotesPaired ('\'' :: text) = false := by
  cases text with
  | nil => rfl
  | cons c text =>
      have notQuote : c ≠ '\'' := fun quote => other (congrArg some quote)
      simp [Scan.quotesPaired, notQuote]

end Literal

namespace ValueList

open Scan (clear)

/-- Where reading fails, what stands in front can be read, and reading stops there. -/
theorem exists_front_of_read_eq_error {text : Text} {misread : Misread}
    (failed : read text = .error misread) :
    ∃ (front : Text) (c : Char) (rest : Text) (values : List Value),
      text = front ++ c :: rest ∧ misread = ⟨front.byteSize, obstacle c⟩ ∧
      clear.run front = some clear ∧ read front = .ok values ∧ IsEnd (c :: rest) ∧
      IsApart front (c :: rest) := by
  rw [read] at failed
  split at failed
  · cases failed
  · obtain ⟨front, joined, ran, _, stop⟩ := fields_stop text
    have apart := isApart_fields joined
    split at failed
    · cases failed
    · next raws c rest parts =>
        rw [parts] at joined stop apart
        obtain ⟨values, found⟩ : ∃ values, Scan.read? front = some values := by
          rw [Scan.read?, Scan.balanced, ran]
          split
          · exact ⟨_, rfl⟩
          · exact ⟨_, rfl⟩
        refine ⟨front, c, rest, values, joined, ?_, ran, read_eq_ok_iff.mpr found, stop, apart⟩
        rw [← Except.error.inj failed, joined, Text.byteSize_append, Nat.add_sub_cancel]

/-- Two places of one character in a text are the same if neither lies behind the
other. -/
theorem eq_of_not_behind {text front other rest others : Text} {c : Char}
    (joined : text = front ++ c :: rest) (joinedToo : text = other ++ c :: others)
    (notBehind : ∀ part, part <+: rest → other ≠ front ++ c :: part)
    (notInFront : ∀ part, part <+: others → front ≠ other ++ c :: part) : other = front := by
  rcases List.append_eq_append_iff.mp (joined.symm.trans joinedToo) with
    ⟨part, longer, left⟩ | ⟨part, longer, left⟩
  · cases part with
    | nil => exact longer.trans (List.append_nil front)
    | cons d part =>
        obtain ⟨rfl, rfl⟩ := List.cons.inj left
        exact absurd longer (notBehind part (List.prefix_append _ _))
  · cases part with
    | nil => exact (longer.trans (List.append_nil other)).symm
    | cons d part =>
        obtain ⟨rfl, rfl⟩ := List.cons.inj left
        exact absurd longer (notInFront part (List.prefix_append _ _))

theorem IsStray.not_behind {text front rest other others part : Text}
    (stray : IsStray text front rest) (also : IsStray text other others) :
    other ≠ front ++ ')' :: part := by
  rintro rfl
  cases (Scan.run_append_close stray.closed part).symm.trans also.closed

theorem IsStray.unique {text front rest other others : Text} (stray : IsStray text front rest)
    (also : IsStray text other others) : other = front :=
  eq_of_not_behind stray.joined also.joined (fun _ _ => stray.not_behind also)
    (fun _ _ => also.not_behind stray)

theorem isUnclosed_of_unclosed {front inner : Text} (ran : clear.run front = some clear)
    (unclosed : ∀ after, (groupEnd inner).val ≠ ')' :: after) :
    IsUnclosed (front ++ '(' :: inner) front inner where
  joined := rfl
  closed := ran
  stays := by
    rintro part ⟨others, rfl⟩
    obtain ⟨last, whole⟩ := exists_run_of_unclosed unclosed
    rw [Scan.run_append] at whole
    obtain ⟨scan, partRan, _⟩ := Option.bind_eq_some_iff.mp whole
    refine ⟨scan.deeper 1, ?_, Nat.succ_pos _⟩
    rw [Scan.run_append, ran, Option.bind_some]
    exact Scan.run_deeper partRan 1

theorem IsUnclosed.run {text front inner : Text} (unclosed : IsUnclosed text front inner) :
    ∃ scan : Scan, clear.run text = some scan ∧ 0 < scan.depth := by
  rw [unclosed.joined]
  exact unclosed.stays inner (List.prefix_refl inner)

/-- Behind an unclosed group nothing is closed, so no other one is outermost. -/
theorem IsUnclosed.not_behind {text front inner other others part : Text}
    (unclosed : IsUnclosed text front inner) (also : IsUnclosed text other others)
    (inside : part <+: inner) : other ≠ front ++ '(' :: part := by
  rintro rfl
  obtain ⟨scan, ran, deep⟩ := unclosed.stays part inside
  rw [also.closed] at ran
  cases ran
  exact Nat.lt_irrefl 0 deep

theorem IsUnclosed.unique {text front inner other others : Text}
    (unclosed : IsUnclosed text front inner) (also : IsUnclosed text other others) :
    other = front :=
  eq_of_not_behind unclosed.joined also.joined (fun _ => unclosed.not_behind also)
    (fun _ => also.not_behind unclosed)

theorem isUnterminated_of_close?_eq_none {front inner : Text} (ran : clear.run front = some clear)
    (apart : IsApart front ('\'' :: inner)) (unclosed : Literal.close? inner = none) :
    IsUnterminated (front ++ '\'' :: inner) front inner where
  joined := rfl
  closed := ran
  apart := fun quote => apart quote rfl
  paired := Literal.quotesPaired_of_close?_eq_none unclosed

/-- An open literal in which quotes come in pairs only stays open: it is open in
front of everything but the second quote of a pair. -/
theorem run_of_quotesPaired {part rest : Text}
    (paired : Scan.quotesPaired (part ++ rest) = true) (apart : IsApart part rest)
    (depth : Nat) : Scan.run ⟨true, depth⟩ part = some ⟨true, depth⟩ := by
  fun_induction Scan.quotesPaired part with
  | case1 => rfl
  | case2 part ih =>
      have opened : Scan.run ⟨true, depth⟩ ('\'' :: '\'' :: part) =
          Scan.run ⟨true, depth⟩ part := by
        simp [Scan.run, Scan.step]
      rw [opened]
      refine ih (by simpa [Scan.quotesPaired] using paired) ?_
      cases part with
      | nil => exact isApart_of_getLast?_ne (by decide) rest
      | cons c part => exact apart.of_cons.of_cons
  | case3 part alone =>
      have next : (part ++ rest).head? ≠ some '\'' := by
        cases part with
        | nil => exact apart rfl
        | cons c part =>
            intro quote
            cases Option.some.inj quote
            exact alone part rfl
      cases (Literal.not_quotesPaired_of_head?_ne next).symm.trans paired
  | case4 c part notPair notQuote ih =>
      have other : c ≠ '\'' := notQuote
      have opened : Scan.run ⟨true, depth⟩ (c :: part) = Scan.run ⟨true, depth⟩ part := by
        simp [Scan.run, Scan.step, other]
      rw [opened]
      refine ih (by simpa [Scan.quotesPaired, other] using paired) ?_
      cases part with
      | nil => exact isApart_of_getLast?_ne (by decide) rest
      | cons d part => exact apart.of_cons

theorem IsUnterminated.run {text front inner : Text}
    (unterminated : IsUnterminated text front inner) : clear.run text = some ⟨true, 0⟩ := by
  have paired := unterminated.paired
  rw [← List.append_nil inner] at paired
  rw [unterminated.joined, Scan.run_append, unterminated.closed, Option.bind_some]
  exact run_of_quotesPaired paired (fun _ => by simp) 0

theorem IsUnterminated.not_behind {text front inner other others part : Text}
    (unterminated : IsUnterminated text front inner) (also : IsUnterminated text other others)
    (inside : part <+: inner) : other ≠ front ++ '\'' :: part := by
  rintro rfl
  obtain ⟨rest, rfl⟩ := inside
  have apart : part.getLast? ≠ some '\'' := by
    intro quote
    apply also.apart
    rw [List.getLast?_append, List.getLast?_cons, quote]
    rfl
  have still : clear.run (front ++ '\'' :: part) = some ⟨true, 0⟩ := by
    rw [Scan.run_append, unterminated.closed, Option.bind_some]
    exact run_of_quotesPaired unterminated.paired (isApart_of_getLast?_ne apart rest) 0
  cases still.symm.trans also.closed

theorem IsUnterminated.unique {text front inner other others : Text}
    (unterminated : IsUnterminated text front inner) (also : IsUnterminated text other others) :
    other = front :=
  eq_of_not_behind unterminated.joined also.joined (fun _ => unterminated.not_behind also)
    (fun _ => also.not_behind unterminated)

/-- A value list that cannot be read is blamed on the one place where its fault
lies.  Up to there it can be read, and that place is inside the text.  If the scan
of the whole text does not get through, it is the first parenthesis that closes
nothing; otherwise, if groups are open at the end, it is the parenthesis of the
outermost one; otherwise a literal is open at the end, and it is its opening
quote.  There is no other reason for which a value list cannot be read. -/
theorem read_error_at_obstacle {text : Text} {misread : Misread}
    (failed : read text = .error misread) :
    misread.position < text.byteSize ∧
    ∃ (front : Text) (values : List Value),
      text.takeBytes? misread.position = some front ∧ read front = .ok values ∧
      match Scan.run ⟨false, 0⟩ text with
      | none =>
          (∀ other, (∃ rest, IsStray text other rest) ↔ other = front) ∧
            misread.reason = "unexpected ')'".toList
      | some ⟨_, _ + 1⟩ =>
          (∀ other, (∃ inner, IsUnclosed text other inner) ↔ other = front) ∧
            misread.reason = "unclosed parenthesis".toList
      | some ⟨true, 0⟩ =>
          (∀ other, (∃ inner, IsUnterminated text other inner) ↔ other = front) ∧
            misread.reason = "unterminated string literal".toList
      | some ⟨false, 0⟩ => False := by
  obtain ⟨front, c, rest, values, joined, rfl, ran, found, stop, apart⟩ :=
    exists_front_of_read_eq_error failed
  refine ⟨?_, front, values, ?_, found, ?_⟩
  · rw [joined, Text.byteSize_append, Text.byteSize_cons]
    exact Nat.lt_add_of_pos_right (Nat.add_pos_left (Char.utf8Size_pos c) _)
  · rw [joined]
    exact Text.takeBytes?_append front _
  · rcases stop with ended | ⟨after, stray⟩ | ⟨inner, blocked, unclosed⟩ |
      ⟨inner, blocked, unclosed⟩
    · cases ended
    · cases stray
      have stuck : Scan.run ⟨false, 0⟩ text = none := by
        rw [joined]
        exact Scan.run_append_close ran rest
      rw [stuck]
      have stray : IsStray text front rest := ⟨joined, ran⟩
      refine ⟨fun other => ⟨fun ⟨_, also⟩ => stray.unique also, ?_⟩, rfl⟩
      rintro rfl
      exact ⟨rest, stray⟩
    · cases blocked
      have unterminated := isUnterminated_of_close?_eq_none ran apart unclosed
      rw [← joined] at unterminated
      rw [show Scan.run ⟨false, 0⟩ text = some ⟨true, 0⟩ from unterminated.run]
      refine ⟨fun other => ⟨fun ⟨_, also⟩ => unterminated.unique also, ?_⟩, rfl⟩
      rintro rfl
      exact ⟨rest, unterminated⟩
    · cases blocked
      have unclosed := isUnclosed_of_unclosed ran unclosed
      rw [← joined] at unclosed
      obtain ⟨⟨inLiteral, depth⟩, last, deep⟩ := unclosed.run
      cases depth with
      | zero => exact absurd deep (Nat.lt_irrefl 0)
      | succ depth =>
          rw [show Scan.run ⟨false, 0⟩ text = some ⟨inLiteral, depth + 1⟩ from last]
          refine ⟨fun other => ⟨fun ⟨_, also⟩ => unclosed.unique also, ?_⟩, rfl⟩
          rintro rfl
          exact ⟨rest, unclosed⟩

/-- A literal inside a group is open at the end, and so is the group around it:
the group is to blame. -/
theorem read_error_at_outer_group :
    let text : Text := "1, 'é', (a, (b), 'c''d)".toList
    let misread : Misread := ⟨9, "unclosed parenthesis".toList⟩
    read text = .error misread ∧ Scan.run ⟨false, 0⟩ text = some ⟨true, 1⟩ ∧
      misread.position < text.byteSize ∧
      ∃ (front : Text) (values : List Value),
        text.takeBytes? misread.position = some front ∧ read front = .ok values ∧
        (∀ other, (∃ inner, IsUnclosed text other inner) ↔ other = front) ∧
        misread.reason = "unclosed parenthesis".toList := by
  intro text misread
  have failed : read text = .error misread := by decide +kernel
  have still : Scan.run ⟨false, 0⟩ text = some ⟨true, 1⟩ := by decide +kernel
  obtain ⟨inside, front, values, taken, found, blamed⟩ := read_error_at_obstacle failed
  rw [still] at blamed
  exact ⟨failed, still, inside, front, values, taken, found, blamed⟩

end ValueList

end SqlDump
