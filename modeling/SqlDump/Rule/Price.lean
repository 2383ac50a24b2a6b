import SqlDump.Text.Blank
import SqlDump.Text.Search

/-!
# Prices in descriptions

A description carries its price as digits between two pairs of asterisks,
`**50**`.  The leftmost marker gives the price, leading zeros dropped.  The
cleaned description holds the bare price in place of every marker of that
price, and the blanks behind such a marker are gone.  A marker with leading
zeros is no marker of the price, so it stays.

Which marker gives the price and what the cleaned description is are said without a
search, too.  The markers of the price are met from left to right: between two of
them, and behind the last one, no other one starts, and the blanks behind a marker
belong to it.
-/

namespace SqlDump

namespace Price

def sign : Text :=
  "**".toList

def marker? (text : Text) : Option Text :=
  match Text.after? sign text with
  | none => none
  | some rest =>
      match rest.takeWhile Char.isDigit, Text.after? sign (rest.dropWhile Char.isDigit) with
      | d :: digits, some _ => some (d :: digits)
      | _, _ => none

def firstMarker? : Text → Option Text
  | [] => none
  | c :: rest =>
      match marker? (c :: rest) with
      | some digits => some digits
      | none => firstMarker? rest

/-- Digits without leading zeros; of zeros only, one is left. -/
def withoutLeadingZeros (digits : Text) : Text :=
  match digits.dropWhile (· = '0') with
  | [] => ['0']
  | d :: rest => d :: rest

def marker (price : Text) : Text :=
  sign ++ price ++ sign

theorem marker_ne_nil (price : Text) : marker price ≠ [] := by
  simp [marker, sign]

theorem length_trimStart_le (text : Text) : text.trimStart.length ≤ text.length :=
  (List.dropWhile_sublist _).length_le

/-- The text with each marker of the price, and the blanks behind it, replaced
by the bare price. -/
def clean (price text : Text) : Text :=
  match _found : Text.split? (marker price) text with
  | none => text
  | some (before, after) => before ++ price ++ clean price (Text.trimStart after)
termination_by text.length
decreasing_by
  have := Text.length_lt_of_split? (marker_ne_nil price) _found
  have := length_trimStart_le after
  omega

def split? (description : Text) : Option (Text × Text) :=
  match firstMarker? description with
  | none => none
  | some digits =>
      let price := withoutLeadingZeros digits
      some (price, clean price description)

theorem clean_of_split?_eq_none {price text : Text}
    (absent : Text.split? (marker price) text = none) : clean price text = text := by
  rw [clean]
  split
  · rfl
  · next found => simp [absent] at found

/-- The leftmost marker is replaced and cleaning goes on behind the blanks. -/
theorem clean_of_split?_eq_some {price text before after : Text}
    (found : Text.split? (marker price) text = some (before, after)) :
    clean price text = before ++ price ++ clean price after.trimStart := by
  rw [clean]
  split
  · next absent => simp [absent] at found
  · next matched =>
      rw [found] at matched
      simp only [Option.some.injEq, Prod.mk.injEq] at matched
      rw [matched.1, matched.2]

/-! ## Cleaned descriptions -/

/-- Digits between signs stand between two texts, and no digits between signs stand
further left. -/
structure IsFirstMarker (text before digits after : Text) : Prop where
  joined : before ++ marker digits ++ after = text
  proper : digits ≠ []
  digital : digits.all Char.isDigit = true
  leftmost : ∀ other others more : Text, others ≠ [] → others.all Char.isDigit = true →
    other ++ marker others ++ more = text → before.length ≤ other.length

/-- The second text is the first one with each marker of the price, and all the blanks
behind it, replaced by the price.  A marker that is met is the first one in what is
left: in the text up to its end no marker ends earlier. -/
inductive Cleaned (price : Text) : Text → Text → Prop where
  | rest {text : Text} (absent : ¬ marker price <:+: text) : Cleaned price text text
  | next {before blanks after result : Text}
      (first : ¬ marker price <:+: before ++ (marker price).dropLast)
      (blank : blanks.isAllBlank = true)
      (solid : ∀ c : Char, after.head? = some c → Text.isBlank c = false)
      (later : Cleaned price after result) :
      Cleaned price (before ++ marker price ++ (blanks ++ after)) (before ++ price ++ result)

end Price

end SqlDump
