import SqlDump.Proofs.ValueList.Obstacles

/-!
# How far the readers get

A reader of a value list takes one part of a text that can be told without reading:
a literal reaches to its first quote that is in no pair, a group to the parenthesis
behind which the scan has nothing open, and a field to the first place that ends it.
-/

namespace SqlDump

namespace Literal

theorem close?_eq_some_iff {text rest : Text} :
    close? text = some rest ↔
      ∃ inner : Text, text = inner ++ '\'' :: rest ∧ Scan.quotesPaired inner = true ∧
        rest.head? ≠ some '\'' := by
  constructor
  · exact append_of_close?
  · rintro ⟨inner, rfl, paired, apart⟩
    exact close?_append_of_quotesPaired paired apart

theorem after?_eq_some_iff {text rest : Text} :
    after? text = some rest ↔
      ∃ inner : Text, text = '\'' :: (inner ++ '\'' :: rest) ∧
        Scan.quotesPaired inner = true ∧ rest.head? ≠ some '\'' := by
  constructor
  · intro taken
    unfold after? at taken
    split at taken
    · obtain ⟨inner, rfl, paired, apart⟩ := close?_eq_some_iff.mp taken
      exact ⟨inner, rfl, paired, apart⟩
    · cases taken
  · rintro ⟨inner, rfl, paired, apart⟩
    exact close?_eq_some_iff.mpr ⟨inner, rfl, paired, apart⟩

end Literal

namespace Scan

/-- A text behind which nothing is open any more is left at some place in it. -/
theorem behindClose?_append_ne_none {scan : Scan} {text : Text}
    (closed : scan.run text = some clear) (solid : text ≠ []) (rest : Text) :
    scan.behindClose? (text ++ rest) ≠ none := by
  induction text generalizing scan with
  | nil => exact absurd rfl solid
  | cons c tail ih =>
      rw [run] at closed
      rw [List.cons_append, behindClose?]
      cases stepped : scan.step c with
      | none => rw [stepped] at closed; cases closed
      | some next =>
          rw [stepped] at closed
          dsimp only
          by_cases same : next = clear
          · rw [if_pos same]
            exact Option.some_ne_none _
          · rw [if_neg same]
            apply ih closed
            rintro rfl
            exact same (Option.some.inj closed)

/-- A group around a text that closes only what it opens itself stays open. -/
theorem behindClose?_deeper_one_eq_none {scan last : Scan} {text : Text}
    (ran : scan.run text = some last) : (scan.deeper 1).behindClose? text = none := by
  induction text generalizing scan with
  | nil => rfl
  | cons c tail ih =>
      rw [run] at ran
      cases stepped : scan.step c with
      | none => rw [stepped] at ran; cases ran
      | some next =>
          rw [stepped] at ran
          rw [behindClose?, step_deeper stepped 1]
          exact (if_neg next.deeper_one_ne_clear).trans (ih ran)

end Scan

namespace ValueList

open Scan (clear)

theorem behindClose?_eq_none_of_unclosed {inner : Text}
    (unclosed : ∀ after, (groupEnd inner).val ≠ ')' :: after) :
    clear.behindClose? ('(' :: inner) = none := by
  obtain ⟨last, ran⟩ := exists_run_of_unclosed unclosed
  exact Scan.behindClose?_deeper_one_eq_none ran

/-- The reader and the scan close a group at the same place. -/
theorem afterGroup?_eq_behindClose? (inner : Text) :
    afterGroup? ('(' :: inner) = clear.behindClose? ('(' :: inner) := by
  cases taken : afterGroup? ('(' :: inner) with
  | none =>
      rw [behindClose?_eq_none_of_unclosed]
      intro after ended
      simp [afterGroup?, ended] at taken
  | some rest =>
      obtain ⟨body, rfl, ran⟩ := exists_body_of_afterGroup? taken
      exact (Scan.behindClose?_group ran rest).symm

theorem afterGroup?_eq_some_iff {text rest : Text} :
    afterGroup? text = some rest ↔
      (∃ body : Text, text = '(' :: (body ++ ')' :: rest)) ∧
        clear.behindClose? text = some rest := by
  constructor
  · intro taken
    unfold afterGroup? at taken
    split at taken
    · next inner =>
        have whole : afterGroup? ('(' :: inner) = some rest := taken
        obtain ⟨body, rfl, _⟩ := exists_body_of_afterGroup? whole
        exact ⟨⟨body, rfl⟩, by rw [← afterGroup?_eq_behindClose?, whole]⟩
    · cases taken
  · rintro ⟨⟨body, rfl⟩, closed⟩
    rw [afterGroup?_eq_behindClose?, closed]

theorem exists_segment_of_afterSegment? {text rest : Text}
    (taken : afterSegment? text = some rest) :
    ∃ part : Text, part ≠ [] ∧ text = part ++ rest := by
  obtain ⟨part, rfl, _⟩ := undivided?_of_afterSegment? taken
  refine ⟨part, ?_, rfl⟩
  rintro rfl
  exact absurd (length_lt_of_afterSegment? taken) (Nat.lt_irrefl _)

/-- A place where a field ends, told without reading what follows. -/
inductive EndsField : Text → Prop where
  | nothing : EndsField []
  | comma (after : Text) : EndsField (',' :: after)
  | stray (after : Text) : EndsField (')' :: after)
  /-- A quote behind which quotes come in pairs only. -/
  | unterminated {inner : Text} (paired : Scan.quotesPaired inner = true) :
      EndsField ('\'' :: inner)
  /-- A parenthesis that is not closed up to the end. -/
  | unclosed {inner : Text} (open_ : clear.behindClose? ('(' :: inner) = none) :
      EndsField ('(' :: inner)

theorem endsField_of_afterSegment?_eq_none {text : Text} (stuck : afterSegment? text = none) :
    EndsField text := by
  rcases stop_of_afterSegment?_eq_none stuck with rfl | ⟨after, rfl⟩ | ⟨after, rfl⟩ |
    ⟨inner, rfl, unclosed⟩ | ⟨inner, rfl, unclosed⟩
  · exact .nothing
  · exact .comma after
  · exact .stray after
  · exact .unterminated (Literal.quotesPaired_of_close?_eq_none unclosed)
  · exact .unclosed (behindClose?_eq_none_of_unclosed unclosed)

/-- No undivided part that closes all it opens goes beyond a place that ends a field,
unless it stops between two quotes. -/
theorem EndsField.eq_nil {part rest : Text} (ends : EndsField (part ++ rest))
    (passed : clear.undivided? part = some clear) (apart : IsApart part rest) : part = [] := by
  cases part with
  | nil => rfl
  | cons c tail =>
      exfalso
      have ran := Scan.run_of_undivided? passed
      cases ends with
      | comma => cases passed
      | stray => cases ran
      | unterminated paired =>
          have tailApart : IsApart tail rest := by
            cases tail with
            | nil => exact isApart_of_getLast?_ne (by decide) rest
            | cons d tail => exact apart.of_cons
          have still : clear.run ('\'' :: tail) = some ⟨true, 0⟩ :=
            run_of_quotesPaired paired tailApart 0
          cases still.symm.trans ran
      | unclosed open_ =>
          exact Scan.behindClose?_append_ne_none ran (List.cons_ne_nil _ _) rest open_

theorem IsApart.of_append {front part rest : Text} (apart : IsApart (front ++ part) rest) :
    IsApart part rest := by
  intro quote
  apply apart
  rw [List.getLast?_append, quote, Option.some_or]

/-- Two places where a field may end, with one undivided front each, are the same. -/
theorem EndsField.front_unique {text front rest other others : Text}
    (joined : text = front ++ rest) (passed : clear.undivided? front = some clear)
    (ends : EndsField rest) (apart : IsApart front rest)
    (joinedToo : text = other ++ others) (passedToo : clear.undivided? other = some clear)
    (endsToo : EndsField others) (apartToo : IsApart other others) : rest = others := by
  rcases List.append_eq_append_iff.mp (joined.symm.trans joinedToo) with
    ⟨part, rfl, rfl⟩ | ⟨part, rfl, rfl⟩
  · rw [Scan.undivided?_append, passed, Option.bind_some] at passedToo
    rw [ends.eq_nil passedToo apartToo.of_append, List.nil_append]
  · rw [Scan.undivided?_append, passedToo, Option.bind_some] at passed
    rw [endsToo.eq_nil passed apart.of_append, List.nil_append]

/-- A field reaches to the one place behind an undivided front where a field ends. -/
theorem afterField_eq_iff {text rest : Text} :
    afterField text = rest ↔
      ∃ front : Text, text = front ++ rest ∧ clear.undivided? front = some clear ∧
        IsApart front rest ∧ EndsField rest := by
  obtain ⟨_, _, _, stuck⟩ := afterField_stop text
  have joined := (field_append_afterField text).symm
  have passed := undivided?_field text
  have apart := isApart_field text
  have ends := endsField_of_afterSegment?_eq_none stuck
  constructor
  · rintro rfl
    exact ⟨field text, joined, passed, apart, ends⟩
  · rintro ⟨front, joinedToo, passedToo, apartToo, endsToo⟩
    exact ends.front_unique joined passed apart joinedToo passedToo endsToo apartToo

end ValueList

end SqlDump
