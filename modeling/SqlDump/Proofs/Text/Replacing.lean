import SqlDump.Proofs.Text.Occurrences

/-!
# Replacing

Replacing all occurrences of a pattern gives the one text in which they are
replaced.  Texts can be replaced part by part: a character at which no
occurrence starts is kept, and no occurrence reaches over a character that the
pattern does not hold.
-/

namespace SqlDump

namespace Text

variable {pattern replacement : Text}

theorem replaced_replaceAll (proper : pattern ≠ []) (text : Text) :
    Replaced pattern replacement text (replaceAll pattern replacement text) := by
  fun_induction replaceAll pattern replacement text with
  | case1 text empty => exact absurd empty proper
  | case2 text proper' absent => exact .rest (split?_eq_none_iff.mp absent)
  | case3 text proper' before after found ih =>
      have first := contains_eq_false_iff.mp (contains_dropLast_of_split? proper found)
      have joined := append_of_split? found
      exact joined ▸ .next first ih

/-- What starts in front of a character that it does not hold ends there. -/
theorem prefix_of_prefix_append_cons {c : Char} {word first second : Text} (outside : c ∉ word)
    (start : word <+: first ++ c :: second) : word <+: first := by
  rcases List.prefix_or_prefix_of_prefix start (List.prefix_append first (c :: second)) with
    inside | ⟨beyond, rfl⟩
  · exact inside
  · cases beyond with
    | nil => exact ⟨[], by rw [List.append_nil, List.append_nil]⟩
    | cons d beyond =>
        have reached := (List.prefix_append_right_inj first).mp start
        rw [(List.cons_prefix_cons.mp reached).1] at outside
        exact absurd (List.mem_append_right first List.mem_cons_self) outside

namespace Replaced

theorem eq_replaceAll {text result : Text} (proper : pattern ≠ [])
    (replaced : Replaced pattern replacement text result) :
    result = replaceAll pattern replacement text := by
  induction replaced with
  | rest absent => exact (replaceAll_of_split?_eq_none (split?_eq_none_iff.mpr absent)).symm
  | @next before after result first later ih =>
      have found := split?_append proper (contains_eq_false_iff.mpr first) after
      rw [replaceAll_of_split?_eq_some proper found, ih]

theorem cons {c : Char} {text result : Text} (apart : ¬ pattern <+: c :: text)
    (replaced : Replaced pattern replacement text result) :
    Replaced pattern replacement (c :: text) (c :: result) := by
  cases replaced with
  | rest absent =>
      refine .rest fun inside => ?_
      rcases List.infix_cons_iff.mp inside with start | later
      · exact apart start
      · exact absent later
  | @next before after result first later =>
      have further : ¬ pattern <:+: c :: before ++ pattern.dropLast := by
        intro inside
        rcases List.infix_cons_iff.mp inside with start | beyond
        · -- what starts at the character lies in front of the occurrence that is met
          apply apart
          rw [List.append_assoc]
          have front : c :: (before ++ pattern.dropLast) <+: c :: (before ++ (pattern ++ after)) :=
            (List.prefix_append_right_inj (c :: before)).mpr
              ((List.dropLast_prefix pattern).trans (List.prefix_append pattern after))
          exact start.trans front
        · exact first beyond
      exact .next further later

/-- A run that does not hold the first character of the pattern is kept. -/
theorem append {c : Char} {word run text result : Text} (outside : c ∉ run)
    (replaced : Replaced (c :: word) replacement text result) :
    Replaced (c :: word) replacement (run ++ text) (run ++ result) := by
  induction run with
  | nil => exact replaced
  | cons d run ih =>
      rw [List.mem_cons, not_or] at outside
      exact (ih outside.2).cons fun start => outside.1 (List.cons_prefix_cons.mp start).1

/-- No occurrence reaches over a character that the pattern does not hold. -/
theorem append_cons {c : Char} {first second firstResult secondResult : Text}
    (outside : c ∉ pattern) (front : Replaced pattern replacement first firstResult)
    (back : Replaced pattern replacement second secondResult) :
    Replaced pattern replacement (first ++ c :: second) (firstResult ++ c :: secondResult) := by
  induction front with
  | @rest first absent =>
      induction first with
      | nil =>
          refine cons (fun start => absent ?_) back
          exact (@prefix_of_prefix_append_cons c pattern [] second outside start).isInfix
      | cons d first ih =>
          have apart : ¬ pattern <+: d :: (first ++ c :: second) := fun start =>
            absent
              (@prefix_of_prefix_append_cons c pattern (d :: first) second outside start).isInfix
          exact cons apart (ih fun inside => absent (List.infix_cons_iff.mpr (Or.inr inside)))
  | @next before after result first later ih =>
      rw [List.append_assoc _ after, List.append_assoc _ result]
      exact .next first ih

end Replaced

end Text

end SqlDump
