import SqlDump.Proofs.ValueList.LiteralRuns
import SqlDump.Proofs.ValueList.Stops

/-!
# Reading a value list in one pass

The reader of value lists is made of readers for literals, groups, segments
and fields that never take anything back.  It agrees with the one-pass scan:
it accepts exactly the texts that the scan leaves with nothing open, and its
fields are the pieces between the dividing commas.
-/

namespace SqlDump

namespace ValueList

open Scan (clear)

theorem undivided?_of_all_isPlain {run : Text} (plain : run.all isPlain = true) :
    clear.undivided? run = some clear := by
  induction run with
  | nil => rfl
  | cons c rest ih =>
      rw [List.all_cons, Bool.and_eq_true] at plain
      simp only [isPlain, ne_eq, decide_not, Bool.and_eq_true, Bool.not_eq_eq_eq_not,
        Bool.not_true, decide_eq_false_iff_not] at plain
      obtain ⟨⟨⟨⟨notQuote, notComma⟩, notOpen⟩, notClose⟩, restPlain⟩ := plain
      have stepped : clear.step c = some clear := by
        simp [Scan.step, clear, notQuote, notOpen, notClose]
      rw [Scan.undivided?_cons (fun divides => notComma divides.1) stepped]
      exact ih restPlain

theorem exists_body_of_afterGroup? {inner rest : Text}
    (taken : afterGroup? ('(' :: inner) = some rest) :
    ∃ body : Text, inner = body ++ ')' :: rest ∧ clear.run body = some clear := by
  rw [afterGroup?] at taken
  obtain ⟨body, joined, ran, _⟩ := groupEnd_stop inner
  split at taken
  · next after ended =>
      rw [ended, Option.some.inj taken] at joined
      exact ⟨body, joined, ran⟩
  · cases taken

theorem undivided?_of_afterGroup? {inner rest : Text}
    (taken : afterGroup? ('(' :: inner) = some rest) :
    ∃ group : Text, '(' :: inner = group ++ rest ∧ clear.undivided? group = some clear := by
  obtain ⟨body, rfl, ran⟩ := exists_body_of_afterGroup? taken
  refine ⟨'(' :: (body ++ [')']), by simp, ?_⟩
  have opened : clear.undivided? ('(' :: (body ++ [')'])) =
      (clear.deeper 1).undivided? (body ++ [')']) := by
    simp [Scan.undivided?, Scan.step, clear, Scan.deeper]
  rw [opened, Scan.undivided?_append, Scan.undivided?_deeper_one ran]
  rfl

theorem undivided?_of_afterSegment? {text rest : Text}
    (taken : afterSegment? text = some rest) :
    ∃ segment : Text, text = segment ++ rest ∧ clear.undivided? segment = some clear := by
  unfold afterSegment? at taken
  split at taken
  · cases taken
  · next c tail =>
      split at taken
      · next quote =>
          subst quote
          obtain ⟨literal, joined, passed⟩ := undivided?_of_close? taken 0
          refine ⟨'\'' :: literal, by rw [joined]; rfl, ?_⟩
          simpa [Scan.undivided?, Scan.step, clear] using passed
      · split at taken
        · next paren =>
            subst paren
            exact undivided?_of_afterGroup? taken
        · split at taken
          · next plain =>
              have same : tail.dropWhile isPlain = rest := Option.some.inj taken
              refine ⟨c :: tail.takeWhile isPlain, ?_, ?_⟩
              · rw [← same, List.cons_append, List.takeWhile_append_dropWhile]
              · apply undivided?_of_all_isPlain
                rw [List.all_cons, plain, List.all_takeWhile]
                rfl
          · cases taken

/-- No segment starts only at the end of a text, at a comma, at a parenthesis
that closes a group, or in front of something that never closes. -/
theorem stop_of_afterSegment?_eq_none {text : Text} (stuck : afterSegment? text = none) :
    text = [] ∨ (∃ after, text = ',' :: after) ∨ (∃ after, text = ')' :: after) ∨
      IsBlocked text := by
  cases text with
  | nil => exact Or.inl rfl
  | cons c rest =>
      rw [afterSegment?] at stuck
      split at stuck
      · next quote =>
          subst quote
          exact Or.inr (Or.inr (Or.inr (Or.inl ⟨rest, rfl, stuck⟩)))
      · split at stuck
        · next paren =>
            subst paren
            refine Or.inr (Or.inr (Or.inr (Or.inr ⟨rest, rfl, ?_⟩)))
            intro after ended
            simp [afterGroup?, ended] at stuck
        · split at stuck
          · cases stuck
          · next notQuote notOpen special =>
              simp only [isPlain, ne_eq, notQuote, notOpen, not_false_eq_true, decide_true,
                Bool.true_and, Bool.and_true, Bool.and_eq_true, decide_eq_true_eq,
                not_and, Classical.not_not] at special
              by_cases comma : c = ','
              · exact Or.inr (Or.inl ⟨rest, by rw [comma]⟩)
              · exact Or.inr (Or.inr (Or.inl ⟨rest, by rw [special comma]⟩))

theorem afterField_stop (text : Text) :
    ∃ taken : Text, text = taken ++ afterField text ∧ clear.undivided? taken = some clear ∧
      afterSegment? (afterField text) = none := by
  fun_induction afterField text with
  | case1 text rest segmentTaken ih =>
      obtain ⟨segment, segmentJoined, segmentPassed⟩ := undivided?_of_afterSegment? segmentTaken
      obtain ⟨taken, joined, passed, stop⟩ := ih
      refine ⟨segment ++ taken, ?_, ?_, stop⟩
      · rw [segmentJoined, List.append_assoc, ← joined]
      · rw [Scan.undivided?_append, segmentPassed, Option.bind_some, passed]
  | case2 text stuck => exact ⟨[], rfl, rfl, stuck⟩

theorem field_append_afterField (text : Text) : field text ++ afterField text = text := by
  obtain ⟨taken, joined, _, _⟩ := afterField_stop text
  have lengths := congrArg List.length joined
  rw [List.length_append] at lengths
  have front : field text = taken := by
    rw [field, lengths, Nat.add_sub_cancel]
    exact (congrArg (List.take taken.length) joined).trans List.take_left
  rw [front, ← joined]

theorem undivided?_field (text : Text) : clear.undivided? (field text) = some clear := by
  obtain ⟨taken, joined, passed, _⟩ := afterField_stop text
  have same : field text = taken :=
    List.append_cancel_right ((field_append_afterField text).trans joined)
  rw [same, passed]

/-- A place where reading a value list ends: the end of the text, a parenthesis
that closes nothing, or something that never closes. -/
def IsEnd (text : Text) : Prop :=
  text = [] ∨ (∃ after, text = ')' :: after) ∨ IsBlocked text

/-- The fields are the pieces of what is read, which leaves nothing open. -/
theorem fields_stop (text : Text) :
    ∃ taken : Text, text = taken ++ (fields text).2 ∧ clear.run taken = some clear ∧
      clear.pieces taken = (fields text).1 ∧ IsEnd (fields text).2 := by
  fun_induction fields text with
  | case1 text after left others rest later ih =>
      obtain ⟨taken, joined, ran, divided, stop⟩ := ih
      rw [later] at joined divided stop
      have passed := undivided?_field text
      refine ⟨field text ++ ',' :: taken, ?_, ?_, ?_, stop⟩
      · have whole := field_append_afterField text
        rw [left, joined] at whole
        rw [List.append_assoc, List.cons_append]
        exact whole.symm
      · rw [Scan.run_append_of_undivided? passed]
        exact ran
      · rw [Scan.pieces_append_comma passed, divided]
  | case2 text notComma =>
      have passed := undivided?_field text
      obtain ⟨_, _, _, stuck⟩ := afterField_stop text
      refine ⟨field text, (field_append_afterField text).symm, Scan.run_of_undivided? passed,
        Scan.pieces_of_undivided? passed, ?_⟩
      rcases stop_of_afterSegment?_eq_none stuck with ended | ⟨after, comma⟩ | closed | blocked
      · exact Or.inl ended
      · exact absurd comma (notComma after)
      · exact Or.inr (Or.inl closed)
      · exact Or.inr (Or.inr blocked)

/-- A list that is not read to its end does not leave everything closed. -/
theorem run_ne_clear_of_isEnd {text : Text} (stop : IsEnd text) (left : text ≠ []) :
    clear.run text ≠ some clear := by
  rcases stop with ended | ⟨after, rfl⟩ | blocked
  · exact absurd ended left
  · intro ended
    cases ended
  · exact run_ne_clear_of_isBlocked blocked

theorem valueOfField_eq_valueOfPiece (raw : Text) : valueOfField raw = Scan.valueOfPiece raw := by
  rw [valueOfField, Scan.valueOfPiece, Literal.isWhole_eq_isLiteral]

/-- Reading fails exactly where the scan leaves something open, and gives the
values of the pieces otherwise. -/
theorem toOption_read (text : Text) : (read text).toOption = Scan.read? text := by
  rw [read, Scan.read?]
  split
  · rfl
  · obtain ⟨taken, joined, ran, divided, stop⟩ := fields_stop text
    cases parts : fields text with
    | mk raws rest =>
        rw [parts] at joined divided stop
        cases rest with
        | nil =>
            rw [List.append_nil] at joined
            have values : raws.map valueOfField = (clear.pieces text).map Scan.valueOfPiece := by
              rw [joined, divided]
              exact List.map_congr_left fun raw _ => valueOfField_eq_valueOfPiece raw
            rw [Scan.balanced, joined, ran, decide_eq_true rfl, if_pos rfl, ← joined, ← values]
            rfl
        | cons c rest =>
            have open_ : clear.run text ≠ some clear := by
              rw [joined, Scan.run_append, ran]
              exact run_ne_clear_of_isEnd stop (List.cons_ne_nil c rest)
            rw [Scan.balanced, decide_eq_false open_, if_neg Bool.false_ne_true]
            rfl

theorem read_eq_ok_iff {text : Text} {values : List Value} :
    read text = .ok values ↔ Scan.read? text = some values := by
  rw [← toOption_read]
  cases read text with
  | error misread => simp [Except.toOption]
  | ok found => simp [Except.toOption]

/-- The reader of value lists agrees with the one-pass scan on every text.  A
list of blanks only has no values.  Any other text is a list exactly if the
scan closes everything that it opens; the values are then the trimmed pieces
between the dividing commas, and quoted are those that stand between two quotes
and otherwise hold runs of quotes of even length only. -/
theorem read_agrees_with_scan (text : Text) :
    (text.isAllBlank = true → read text = .ok []) ∧
    (text.isAllBlank = false →
      ((∃ values, read text = .ok values) ↔ Scan.run ⟨false, 0⟩ text = some ⟨false, 0⟩) ∧
      ∀ values, read text = .ok values →
        values.map Value.text = (Scan.pieces ⟨false, 0⟩ text).map Text.trim ∧
        ∀ value ∈ values, (value = .quoted value.text ↔
          ∃ inner : Text, value.text = '\'' :: (inner ++ ['\'']) ∧ Literal.RunsEven inner)) := by
  constructor
  · intro blank
    rw [read, if_pos blank]
  · intro solid
    have scanned : Scan.read? text =
        if clear.run text = some clear then some ((clear.pieces text).map Scan.valueOfPiece)
        else none := by
      rw [Scan.read?, if_neg (by rw [solid]; exact Bool.false_ne_true), Scan.balanced]
      simp only [decide_eq_true_eq]
    constructor
    · constructor
      · rintro ⟨values, found⟩
        rw [read_eq_ok_iff, scanned] at found
        split at found
        · next closed => exact closed
        · cases found
      · intro closed
        exact ⟨_, read_eq_ok_iff.mpr (scanned.trans (if_pos closed))⟩
    · intro values found
      rw [read_eq_ok_iff, scanned] at found
      split at found
      · have same := Option.some.inj found
        subst same
        constructor
        · rw [List.map_map]
          apply List.map_congr_left
          intro piece _
          rw [Function.comp_apply, Scan.valueOfPiece]
          split <;> rfl
        · intro value member
          obtain ⟨piece, _, rfl⟩ := List.mem_map.mp member
          rw [Scan.valueOfPiece]
          split
          · next literal => exact ⟨fun _ => (Literal.isLiteral_iff _).mp literal, fun _ => rfl⟩
          · next notLiteral =>
              constructor
              · intro impossible
                cases impossible
              · intro inner
                exact absurd ((Literal.isLiteral_iff _).mpr inner) notLiteral
      · cases found

end ValueList

end SqlDump
