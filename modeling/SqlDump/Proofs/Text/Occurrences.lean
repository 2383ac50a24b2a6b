import SqlDump.Text.Search

/-!
# Occurrences

A pattern occurs in a text if the text has it between two others.  The search
finds the leftmost occurrence: none starts in front of it, not even one that
reaches into it.
-/

namespace SqlDump

namespace Text

theorem after?_append_cons {word : Text} {c : Char} (outside : c ∉ word) (run rest : Text) :
    after? word (run ++ c :: rest) = (after? word run).map (· ++ c :: rest) := by
  induction word generalizing run with
  | nil => rfl
  | cons h word ih =>
      rw [List.mem_cons, not_or] at outside
      cases run with
      | nil => simp [after?, Ne.symm outside.1]
      | cons d run =>
          by_cases same : h = d
          · simpa [after?, same] using ih outside.2 run
          · simp [after?, same]

theorem contains_iff_isInfix {pattern text : Text} :
    contains pattern text = true ↔ pattern <:+: text := by
  rw [contains, Option.isSome_iff_exists]
  constructor
  · rintro ⟨⟨before, after⟩, found⟩
    exact ⟨before, after, append_of_split? found⟩
  · rintro ⟨before, after, joined⟩
    induction before generalizing text with
    | nil =>
        have matched : after? pattern text = some after := after?_eq_some_iff.mpr joined
        cases text with
        | nil => exact ⟨_, by rw [split?, matched]; rfl⟩
        | cons c rest => exact ⟨_, by rw [split?, matched]⟩
    | cons c before ih =>
        subst joined
        simp only [List.cons_append, split?]
        split
        · exact ⟨_, rfl⟩
        · obtain ⟨found, later⟩ := ih rfl
          exact ⟨_, by rw [later]; rfl⟩

theorem contains_eq_false_iff {pattern text : Text} :
    contains pattern text = false ↔ ¬ pattern <:+: text := by
  rw [← contains_iff_isInfix, Bool.not_eq_true]

theorem split?_eq_none_iff {pattern text : Text} :
    split? pattern text = none ↔ ¬ pattern <:+: text := by
  rw [← contains_eq_false_iff, contains, Option.isSome_eq_false_iff, Option.isNone_iff_eq_none]

theorem contains_eq_false_of_isInfix {pattern part text : Text} (inside : part <:+: text)
    (absent : contains pattern text = false) : contains pattern part = false := by
  rw [contains_eq_false_iff] at absent ⊢
  exact fun occurs => absent (occurs.trans inside)

theorem contains_append {pattern text : Text} (inside : contains pattern text = true)
    (more : Text) : contains pattern (text ++ more) = true := by
  rw [contains_iff_isInfix] at inside ⊢
  exact inside.trans (List.prefix_append text more).isInfix

/-- A character that a pattern does not hold separates its occurrences. -/
theorem contains_append_cons {pattern : Text} {c : Char} (outside : c ∉ pattern)
    (first second : Text) :
    contains pattern (first ++ c :: second) =
      (contains pattern first || contains pattern second) := by
  rw [Bool.eq_iff_iff, Bool.or_eq_true]
  simp only [contains_iff_isInfix]
  constructor
  · rintro ⟨before, after, joined⟩
    rw [List.append_eq_append_iff] at joined
    rcases joined with ⟨more, rfl, _⟩ | ⟨beyond, reached, left⟩
    · exact Or.inl ⟨before, more, rfl⟩
    · cases beyond with
      | nil =>
          rw [List.append_nil] at reached
          exact Or.inl ⟨before, [], by rw [List.append_nil, reached]⟩
      | cons d beyond =>
          obtain ⟨rfl, rest⟩ := List.cons.inj left
          rw [List.append_cons, List.append_eq_append_iff] at reached
          rcases reached with ⟨taken, front, whole⟩ | ⟨between, _, rfl⟩
          · -- the pattern would have to reach over the separating character
            rcases List.eq_nil_or_concat taken with rfl | ⟨start, last, rfl⟩
            · exact Or.inr ⟨[], after, by rw [whole, rest]; rfl⟩
            · rw [List.concat_eq_append, ← List.append_assoc] at front
              obtain ⟨_, same⟩ := List.append_inj' front rfl
              have member : c ∈ pattern := by
                rw [whole, (List.cons.inj same).1]
                simp
              exact absurd member outside
          · exact Or.inr ⟨between, after, rest.symm⟩
  · rintro (⟨before, after, rfl⟩ | ⟨before, after, rfl⟩)
    · exact ⟨before, after ++ c :: second, by simp⟩
    · exact ⟨first ++ c :: before, after, by simp⟩

/-- A pattern that occurs nowhere in front of a place is found at that place. -/
theorem split?_append {pattern before : Text} (proper : pattern ≠ [])
    (first : contains pattern (before ++ pattern.dropLast) = false) (after : Text) :
    split? pattern (before ++ pattern ++ after) = some (before, after) := by
  induction before with
  | nil =>
      have matched : after? pattern (pattern ++ after) = some after :=
        after?_eq_some_iff.mpr rfl
      rw [List.nil_append]
      obtain ⟨c, rest, same⟩ := List.exists_cons_of_ne_nil proper
      cases text : pattern ++ after with
      | nil => rw [same] at text; cases text
      | cons d tail => rw [split?, ← text, matched]
  | cons c before ih =>
      have apart : after? pattern (c :: (before ++ pattern ++ after)) = none := by
        cases matched : after? pattern (c :: (before ++ pattern ++ after)) with
        | none => rfl
        | some rest =>
            exfalso
            have start : pattern <+: c :: before ++ (pattern ++ after) :=
              ⟨rest, by rw [after?_eq_some_iff.mp matched, List.append_assoc, List.cons_append]⟩
            have front : c :: before ++ pattern.dropLast <+: c :: before ++ (pattern ++ after) :=
              (List.prefix_append_right_inj _).mpr
                ((List.dropLast_prefix pattern).trans (List.prefix_append pattern after))
            have fits : pattern.length ≤ (c :: before ++ pattern.dropLast).length := by
              rw [List.length_append, List.length_cons, List.length_dropLast]
              omega
            have inside := (List.prefix_of_prefix_length_le start front fits).isInfix
            exact contains_eq_false_iff.mp first inside
      rw [List.cons_append, List.cons_append, split?, apart]
      have later : contains pattern (before ++ pattern.dropLast) = false :=
        contains_eq_false_of_isInfix ⟨[c], [], by simp⟩ first
      rw [ih later]
      rfl

/-- Nothing in front of what is found is an occurrence, also not in part. -/
theorem contains_dropLast_of_split? {pattern text before after : Text} (proper : pattern ≠ [])
    (found : split? pattern text = some (before, after)) :
    contains pattern (before ++ pattern.dropLast) = false := by
  have short : ¬ pattern <:+: pattern.dropLast := by
    intro inside
    have fits := inside.length_le
    have positive := List.length_pos_iff.mpr proper
    rw [List.length_dropLast] at fits
    omega
  induction text generalizing before with
  | nil =>
      simp only [split?, Option.map_eq_some_iff, Prod.mk.injEq] at found
      obtain ⟨rest, _, rfl, _⟩ := found
      exact contains_eq_false_iff.mpr short
  | cons c rest ih =>
      rw [split?] at found
      split at found
      · obtain ⟨rfl, _⟩ := Prod.mk.inj (Option.some.inj found)
        exact contains_eq_false_iff.mpr short
      · next apart =>
          simp only [Option.map_eq_some_iff, Prod.mk.injEq, Prod.exists] at found
          obtain ⟨head, tail, later, rfl, rfl⟩ := found
          rw [contains_eq_false_iff, List.cons_append, List.infix_cons_iff]
          rintro (start | inside)
          · have front : c :: (head ++ pattern.dropLast) <+: c :: rest := by
              rw [← append_of_split? later, List.append_assoc]
              exact (List.prefix_append_right_inj (c :: head)).mpr
                ((List.dropLast_prefix pattern).trans (List.prefix_append pattern tail))
            obtain ⟨rest', joined⟩ := start.trans front
            rw [after?_eq_some_iff.mpr joined] at apart
            cases apart
          · exact contains_eq_false_iff.mp (ih later) inside

/-- The search finds the leftmost occurrence, and finds it if there is one. -/
theorem split?_eq_some_iff {pattern text before after : Text} (proper : pattern ≠ []) :
    split? pattern text = some (before, after) ↔ IsFirst pattern text before after := by
  have sound {front back : Text} (found : split? pattern text = some (front, back)) :
      IsFirst pattern text front back := by
    refine ⟨append_of_split? found, fun other more joined => Nat.le_of_not_lt fun shorter => ?_⟩
    -- an occurrence further left would lie within the text in front, or reach into the pattern
    have start : other ++ pattern <+: front ++ pattern.dropLast ++ [pattern.getLast proper] ++ back := by
      rw [List.append_assoc front, List.dropLast_concat_getLast, append_of_split? found, ← joined]
      exact List.prefix_append _ _
    have fits : (other ++ pattern).length ≤ (front ++ pattern.dropLast).length := by
      have positive := List.length_pos_iff.mpr proper
      rw [List.length_append, List.length_append, List.length_dropLast]
      omega
    have inside : other ++ pattern <+: front ++ pattern.dropLast :=
      List.prefix_of_prefix_length_le start
        (by rw [List.append_assoc]; exact List.prefix_append _ _) fits
    exact contains_eq_false_iff.mp (contains_dropLast_of_split? proper found)
      ((List.suffix_append other pattern).isInfix.trans inside.isInfix)
  refine ⟨sound, fun first => ?_⟩
  have occurs : contains pattern text = true :=
    contains_iff_isInfix.mpr ⟨before, after, first.joined⟩
  obtain ⟨⟨front, back⟩, found⟩ := Option.isSome_iff_exists.mp occurs
  have same : front.length = before.length :=
    Nat.le_antisymm ((sound found).leftmost _ _ first.joined)
      (first.leftmost _ _ (sound found).joined)
  have joined := (sound found).joined.trans first.joined.symm
  rw [List.append_assoc, List.append_assoc] at joined
  obtain ⟨rfl, rest⟩ := List.append_inj joined same
  rw [found, List.append_cancel_left rest]

/-- What every single replacement keeps, the replacement of all keeps. -/
theorem replaceAll_induction {motive : Text → Prop} {pattern replacement : Text}
    (step : ∀ before after, motive (before ++ pattern ++ after) →
      motive (before ++ replacement ++ after)) {text : Text} (start : motive text) :
    motive (replaceAll pattern replacement text) := by
  suffices ∀ front, motive (front ++ text) →
      motive (front ++ replaceAll pattern replacement text) from this [] start
  clear start
  fun_induction replaceAll pattern replacement text with
  | case1 text empty => exact fun _ holds => holds
  | case2 text proper absent => exact fun _ holds => holds
  | case3 text proper before after found ih =>
      intro front holds
      rw [← append_of_split? found, ← List.append_assoc, ← List.append_assoc] at holds
      have next := ih _ (step (front ++ before) after holds)
      simpa [List.append_assoc] using next

end Text

end SqlDump
