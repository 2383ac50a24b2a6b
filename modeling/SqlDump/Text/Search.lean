import SqlDump.Text

/-!
# Search

`after?` and `before?` take a given text off the start and off the end.
`split?` finds the leftmost occurrence of a pattern and gives the text on
both sides of it.  Containment and replacement are defined through it, and
replacement goes from left to right without overlap.

What becomes of a text when a pattern in it is replaced is said without a search,
too.  Occurrences are met from left to right: none starts in front of the one that is
met, and the next one is looked for behind it.
-/

namespace SqlDump

namespace Text

/-- What follows `head` in a text that starts with it. -/
def after? : (head text : Text) → Option Text
  | [], text => some text
  | _ :: _, [] => none
  | h :: head, c :: text => if h = c then after? head text else none

theorem after?_eq_some_iff {head text rest : Text} :
    after? head text = some rest ↔ head ++ rest = text := by
  induction head generalizing text with
  | nil => simp [after?, eq_comm]
  | cons h head ih =>
      cases text with
      | nil => simp [after?]
      | cons c text =>
          by_cases same : h = c
          · simp [after?, same, ih]
          · simp [after?, same]

/-- What precedes `tail` in a text that ends with it. -/
def before? (tail text : Text) : Option Text :=
  (after? tail.reverse text.reverse).map List.reverse

theorem before?_eq_some_iff {tail text rest : Text} :
    before? tail text = some rest ↔ rest ++ tail = text := by
  simp only [before?, Option.map_eq_some_iff, after?_eq_some_iff]
  constructor
  · rintro ⟨reversed, joined, rfl⟩
    simpa using congrArg List.reverse joined
  · rintro rfl
    exact ⟨rest.reverse, by simp, by simp⟩

/-- The text before and the text after the leftmost occurrence of `pattern`. -/
def split? (pattern : Text) : Text → Option (Text × Text)
  | [] => (after? pattern []).map fun rest => ([], rest)
  | c :: rest =>
      match after? pattern (c :: rest) with
      | some after => some ([], after)
      | none => (split? pattern rest).map fun (before, after) => (c :: before, after)

theorem append_of_split? {pattern text before after : Text}
    (found : split? pattern text = some (before, after)) :
    before ++ pattern ++ after = text := by
  induction text generalizing before with
  | nil =>
      simp only [split?, Option.map_eq_some_iff, Prod.mk.injEq] at found
      obtain ⟨rest, matched, rfl, rfl⟩ := found
      simpa using after?_eq_some_iff.mp matched
  | cons c rest ih =>
      simp only [split?] at found
      split at found
      · next matched =>
          simp only [Option.some.injEq, Prod.mk.injEq] at found
          obtain ⟨rfl, rfl⟩ := found
          simpa using after?_eq_some_iff.mp matched
      · simp only [Option.map_eq_some_iff, Prod.mk.injEq, Prod.exists] at found
        obtain ⟨head, tail, later, rfl, rfl⟩ := found
        simpa using ih later

/-- After a proper pattern less text is left. -/
theorem length_lt_of_split? {pattern text before after : Text}
    (proper : pattern ≠ []) (found : split? pattern text = some (before, after)) :
    after.length < text.length := by
  rw [← append_of_split? found]
  have := List.length_pos_iff.mpr proper
  simp only [List.length_append]
  omega

/-- The pattern stands between two texts, and nowhere further left. -/
structure IsFirst (pattern text before after : Text) : Prop where
  joined : before ++ pattern ++ after = text
  leftmost : ∀ other more : Text, other ++ pattern ++ more = text → before.length ≤ other.length

def contains (pattern text : Text) : Bool :=
  (split? pattern text).isSome

/-- The text with each occurrence of `pattern` replaced.  An empty pattern
replaces nothing. -/
def replaceAll (pattern replacement text : Text) : Text :=
  if _proper : pattern = [] then text
  else
    match _found : split? pattern text with
    | none => text
    | some (before, after) => before ++ replacement ++ replaceAll pattern replacement after
termination_by text.length
decreasing_by exact length_lt_of_split? _proper _found

theorem replaceAll_of_split?_eq_none {pattern replacement text : Text}
    (absent : split? pattern text = none) :
    replaceAll pattern replacement text = text := by
  rw [replaceAll]
  split
  · rfl
  · split
    · rfl
    · next found => simp [absent] at found

/-- The leftmost occurrence is replaced and the search goes on after it. -/
theorem replaceAll_of_split?_eq_some {pattern replacement text before after : Text}
    (proper : pattern ≠ []) (found : split? pattern text = some (before, after)) :
    replaceAll pattern replacement text =
      before ++ replacement ++ replaceAll pattern replacement after := by
  rw [replaceAll]
  simp only [proper, dite_false]
  split
  · next absent => simp [absent] at found
  · next matched =>
      rw [found] at matched
      simp only [Option.some.injEq, Prod.mk.injEq] at matched
      rw [matched.1, matched.2]

/-- The second text is the first one with the occurrences of `pattern` replaced. -/
inductive Replaced (pattern replacement : Text) : Text → Text → Prop where
  | rest {text : Text} (absent : ¬ pattern <:+: text) : Replaced pattern replacement text text
  | next {before after result : Text} (first : ¬ pattern <:+: before ++ pattern.dropLast)
      (later : Replaced pattern replacement after result) :
      Replaced pattern replacement (before ++ pattern ++ after) (before ++ replacement ++ result)

end Text

end SqlDump
