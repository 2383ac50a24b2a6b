import SqlDump.Proofs.ValueList.Reading

/-!
# Borders between quotes

Two quotes side by side are one quote of a literal, so no reader of a value list
stops between them: a closed literal is followed by something else, and nothing
else that is taken ends in a quote.
-/

namespace SqlDump

namespace ValueList

/-- The border between two texts does not lie between two quotes. -/
def IsApart (front rest : Text) : Prop :=
  front.getLast? = some '\'' → rest.head? ≠ some '\''

theorem isApart_of_getLast?_ne {front : Text} (other : front.getLast? ≠ some '\'')
    (rest : Text) : IsApart front rest :=
  fun quote => absurd quote other

theorem IsApart.append {part rest : Text} (apart : IsApart part rest) (solid : part ≠ [])
    (front : Text) : IsApart (front ++ part) rest := by
  intro quote
  rw [List.getLast?_append] at quote
  cases last : part.getLast? with
  | none => exact absurd (List.getLast?_eq_none_iff.mp last) solid
  | some c =>
      rw [last, Option.some_or] at quote
      exact apart (last.trans quote)

theorem IsApart.of_cons {c d : Char} {front rest : Text} (apart : IsApart (c :: d :: front) rest) :
    IsApart (d :: front) rest :=
  fun quote => apart (List.getLast?_cons_cons.trans quote)

theorem isApart_segment {segment rest : Text}
    (taken : afterSegment? (segment ++ rest) = some rest) : IsApart segment rest := by
  cases segment with
  | nil => exact absurd (length_lt_of_afterSegment? taken) (Nat.lt_irrefl _)
  | cons c tail =>
      rw [List.cons_append, afterSegment?] at taken
      split at taken
      · next quote =>
          subst quote
          obtain ⟨_, _, _, apart⟩ := Literal.append_of_close? taken
          exact fun _ => apart
      · split at taken
        · next paren =>
            subst paren
            obtain ⟨body, joined, _⟩ := exists_body_of_afterGroup? taken
            have whole : tail = body ++ [')'] := List.append_cancel_right (by rw [joined]; simp)
            apply isApart_of_getLast?_ne
            rw [whole, ← List.cons_append, List.getLast?_concat]
            decide
        · split at taken
          · next plain =>
              have left : (tail ++ rest).dropWhile isPlain = rest := Option.some.inj taken
              have parts := @List.takeWhile_append_dropWhile _ isPlain (tail ++ rest)
              rw [left] at parts
              have run : (tail ++ rest).takeWhile isPlain = tail := List.append_cancel_right parts
              have all : (c :: tail).all isPlain = true := by
                rw [List.all_cons, plain, Bool.true_and, ← run, List.all_takeWhile]
              intro quote
              cases List.all_eq_true.mp all '\'' (List.mem_of_getLast? quote)
          · cases taken

theorem isApart_field (text : Text) : IsApart (field text) (afterField text) := by
  suffices apart : ∀ front, text = front ++ afterField text →
      IsApart front (afterField text) from
    apart (field text) (field_append_afterField text).symm
  fun_induction afterField text with
  | case1 text rest taken ih =>
      intro front joined
      obtain ⟨segment, segmentJoined, _⟩ := undivided?_of_afterSegment? taken
      obtain ⟨more, moreJoined, _, _⟩ := afterField_stop rest
      have whole : front = segment ++ more := by
        apply List.append_cancel_right (joined.symm.trans _)
        rw [List.append_assoc, ← moreJoined, segmentJoined]
      have apart : IsApart more (afterField rest) := ih more moreJoined
      cases more with
      | nil =>
          rw [List.nil_append] at moreJoined
          rw [whole, List.append_nil, ← moreJoined]
          rw [segmentJoined] at taken
          exact isApart_segment taken
      | cons c more =>
          rw [whole]
          exact apart.append (List.cons_ne_nil c more) segment
  | case2 text stuck =>
      intro front joined
      have empty : front = [] := List.append_cancel_right joined.symm
      rw [empty]
      exact isApart_of_getLast?_ne (by decide) text

/-- What is read of a value list does not end inside a pair of quotes. -/
theorem isApart_fields {text front : Text} (joined : text = front ++ (fields text).2) :
    IsApart front (fields text).2 := by
  fun_induction fields text generalizing front with
  | case1 text after left others rest later ih =>
      rw [later] at ih
      obtain ⟨more, moreJoined, _, _, _⟩ := fields_stop after
      rw [later] at moreJoined
      have whole : front = (field text ++ [',']) ++ more := by
        apply List.append_cancel_right (joined.symm.trans _)
        rw [List.append_assoc, List.append_assoc, ← moreJoined, List.singleton_append, ← left,
          field_append_afterField]
      have apart : IsApart more rest := ih moreJoined
      rw [whole]
      cases more with
      | nil =>
          apply isApart_of_getLast?_ne
          rw [List.append_nil, List.getLast?_concat]
          decide
      | cons c more => exact apart.append (List.cons_ne_nil c more) _
  | case2 text notComma =>
      have whole : front = field text :=
        List.append_cancel_right (joined.symm.trans (field_append_afterField text).symm)
      rw [whole]
      exact isApart_field text

end ValueList

end SqlDump
