import SqlDump.Proofs.Rule.Packages

/-!
# Prices and cleaned descriptions

The price of a description is the number in its leftmost marker, written without
leading zeros.  Cleaning replaces the markers of just this price: from left to right,
together with the blanks behind them, and nothing else.

A text has a price if digits between two pairs of asterisks occur in it.  The
digits of a marker are all the digits behind the first pair, so no marker is
missed.
-/

namespace SqlDump

namespace Price

theorem marker?_eq_some_iff {text digits : Text} :
    marker? text = some digits ↔ IsPrice digits ∧ marker digits <+: text := by
  constructor
  · intro found
    refine ⟨isPrice_of_marker? found, ?_⟩
    unfold marker? at found
    split at found
    · cases found
    · next rest signed =>
        split at found
        · next d others after taken closed =>
            rw [← Text.after?_eq_some_iff.mp signed, ← Option.some.inj found, ← taken, marker,
              List.append_assoc]
            refine (List.prefix_append_right_inj sign).mpr ⟨after, ?_⟩
            rw [List.append_assoc, Text.after?_eq_some_iff.mp closed,
              List.takeWhile_append_dropWhile]
        · cases found
  · rintro ⟨⟨proper, digital⟩, after, rfl⟩
    have numeric : ∀ c ∈ digits, c.isDigit = true := List.all_eq_true.mp digital
    have taken : (digits ++ (sign ++ after)).takeWhile Char.isDigit = digits := by
      rw [List.takeWhile_append_of_pos numeric]
      exact List.append_nil digits
    have left : (digits ++ (sign ++ after)).dropWhile Char.isDigit = sign ++ after :=
      List.dropWhile_append_of_pos numeric
    have signed : Text.after? sign (marker digits ++ after) = some (digits ++ (sign ++ after)) :=
      Text.after?_eq_some_iff.mpr (by rw [marker, List.append_assoc, List.append_assoc])
    have closed : Text.after? sign (sign ++ after) = some after :=
      Text.after?_eq_some_iff.mpr rfl
    obtain ⟨d, others, rfl⟩ := List.exists_cons_of_ne_nil proper
    simp only [marker?, signed, taken, left, closed]

theorem firstMarker?_eq_none_iff {text : Text} :
    firstMarker? text = none ↔ ∀ digits, IsPrice digits → ¬ marker digits <:+: text := by
  induction text with
  | nil =>
      refine ⟨fun _ digits _ inside => ?_, fun _ => rfl⟩
      exact marker_ne_nil digits (List.infix_nil.mp inside)
  | cons c rest ih =>
      rw [firstMarker?]
      constructor
      · intro unmarked digits isPrice inside
        split at unmarked
        · cases unmarked
        · next notHere =>
            rcases List.infix_cons_iff.mp inside with start | later
            · rw [marker?_eq_some_iff.mpr ⟨isPrice, start⟩] at notHere
              cases notHere
            · exact ih.mp unmarked digits isPrice later
      · intro nowhere
        split
        · next digits here =>
            obtain ⟨isPrice, start⟩ := marker?_eq_some_iff.mp here
            exact absurd start.isInfix (nowhere digits isPrice)
        · refine ih.mpr fun digits isPrice inside => nowhere digits isPrice ?_
          exact List.infix_cons_iff.mpr (Or.inr inside)

theorem split?_eq_none_iff {description : Text} :
    split? description = none ↔
      ∀ digits, IsPrice digits → ¬ marker digits <:+: description := by
  rw [← firstMarker?_eq_none_iff, split?]
  cases firstMarker? description with
  | none => exact ⟨fun _ => rfl, fun _ => rfl⟩
  | some digits => exact ⟨nofun, nofun⟩

/-! ## The leftmost marker -/

theorem isFirstMarker_of_firstMarker? {text digits : Text}
    (found : firstMarker? text = some digits) :
    ∃ before after : Text, IsFirstMarker text before digits after := by
  induction text with
  | nil => cases found
  | cons c rest ih =>
      rw [firstMarker?] at found
      split at found
      · next first here =>
          cases found
          obtain ⟨⟨proper, digital⟩, after, joined⟩ := marker?_eq_some_iff.mp here
          exact ⟨[], after, joined, proper, digital, fun _ _ _ _ _ _ => Nat.zero_le _⟩
      · next notHere =>
          obtain ⟨before, after, joined, proper, digital, leftmost⟩ := ih found
          refine ⟨c :: before, after, ?_, proper, digital, ?_⟩
          · rw [← joined]
            rfl
          · -- no marker starts here, so one further left would be further left in the rest too
            intro other others more othersProper othersDigital othersJoined
            cases other with
            | nil =>
                have start : marker others <+: c :: rest := ⟨more, othersJoined⟩
                rw [marker?_eq_some_iff.mpr ⟨⟨othersProper, othersDigital⟩, start⟩] at notHere
                cases notHere
            | cons d other =>
                have further := leftmost other others more othersProper othersDigital
                  (List.cons.inj othersJoined).2
                exact Nat.succ_le_succ further

theorem IsFirstMarker.unique {text before digits after other others more : Text}
    (first : IsFirstMarker text before digits after)
    (second : IsFirstMarker text other others more) : others = digits := by
  have same : before.length = other.length :=
    Nat.le_antisymm
      (first.leftmost other others more second.proper second.digital second.joined)
      (second.leftmost before digits after first.proper first.digital first.joined)
  have joined := first.joined.trans second.joined.symm
  rw [List.append_assoc, List.append_assoc] at joined
  have behind := (List.append_inj joined same).2
  -- at one place all the digits behind the sign are read, so no shorter or longer ones fit
  have firstRead : marker? (marker digits ++ after) = some digits :=
    marker?_eq_some_iff.mpr ⟨⟨first.proper, first.digital⟩, List.prefix_append _ _⟩
  have secondRead : marker? (marker digits ++ after) = some others := by
    rw [behind]
    exact marker?_eq_some_iff.mpr ⟨⟨second.proper, second.digital⟩, List.prefix_append _ _⟩
  exact Option.some.inj (secondRead.symm.trans firstRead)

/-! ## Leading zeros -/

/-- The number of digits does not change when leading zeros are left out. -/
theorem ofDigitChars_dropWhile_zero (digits : Text) :
    Nat.ofDigitChars 10 (digits.dropWhile (· = '0')) 0 = Nat.ofDigitChars 10 digits 0 := by
  induction digits with
  | nil => rfl
  | cons d rest ih =>
      by_cases zero : d = '0'
      · subst zero
        rw [List.dropWhile_cons_of_pos (by decide), ih, Nat.ofDigitChars_cons]
        rfl
      · rw [List.dropWhile_cons_of_neg (by simpa using zero)]

theorem ofDigitChars_withoutLeadingZeros (digits : Text) :
    Nat.ofDigitChars 10 (withoutLeadingZeros digits) 0 = Nat.ofDigitChars 10 digits 0 := by
  rw [← ofDigitChars_dropWhile_zero digits, withoutLeadingZeros]
  split
  · next zeros =>
      rw [zeros]
      rfl
  · next kept => rw [kept]

theorem withoutLeadingZeros_of_head? {digits : Text}
    (zero : (withoutLeadingZeros digits).head? = some '0') :
    withoutLeadingZeros digits = ['0'] := by
  rw [withoutLeadingZeros] at zero ⊢
  split
  · rfl
  · next d rest kept =>
      rw [kept] at zero
      have head : d = '0' := Option.some.inj zero
      have stopped := List.head?_dropWhile_not (fun c => decide (c = '0')) digits
      rw [kept, head] at stopped
      simp at stopped

/-! ## Cleaning -/

theorem cleaned_iff {price text result : Text} :
    Cleaned price text result ↔ result = clean price text := by
  constructor
  · intro cleaned
    induction cleaned with
    | rest absent => exact (clean_of_split?_eq_none (Text.split?_eq_none_iff.mpr absent)).symm
    | @next before blanks after result first blank solid later ih =>
        have found := Text.split?_append (marker_ne_nil price)
          (Text.contains_eq_false_iff.mpr first) (blanks ++ after)
        have trimmed : Text.trimStart after = after := by
          cases after with
          | nil => rfl
          | cons c rest => exact Text.trimStart_cons (solid c rfl) rest
        rw [clean_of_split?_eq_some found, Text.trimStart_append_of_isAllBlank blank, trimmed, ih]
  · rintro rfl
    fun_induction clean price text with
    | case1 text absent => exact .rest (Text.split?_eq_none_iff.mp absent)
    | case2 text before after found ih =>
        have first := Text.contains_eq_false_iff.mp
          (Text.contains_dropLast_of_split? (marker_ne_nil price) found)
        -- what is trimmed is the longest run of blanks, since what is left starts with none
        have blank : Text.isAllBlank (after.takeWhile Text.isBlank) = true := List.all_takeWhile
        have solid (c : Char) (start : (Text.trimStart after).head? = some c) :
            Text.isBlank c = false := by
          obtain ⟨rest, begun⟩ := List.head?_eq_some_iff.mp start
          exact Text.isBlank_of_trimStart_eq_cons begun
        have cleaned := Cleaned.next first blank solid ih
        rwa [Text.takeWhile_append_trimStart, Text.append_of_split? found] at cleaned

/-- The price of a description and what becomes of it.  There is no price exactly if no
digits between signs occur.  If there is one, there is a leftmost marker, and the price
is its number, of any size, without leading zeros.  The cleaned description is the one
text in which each marker of the price, with the blanks behind it, is replaced by the
price, from left to right; all else stays.  So where the price was found with leading
zeros, nothing is taken away unless the marker without them occurs as well. -/
theorem split?_takes_leftmost (description : Text) :
    (split? description = none ↔
      ∀ digits : Text, IsPrice digits → ¬ marker digits <:+: description) ∧
    ∀ price cleaned : Text, split? description = some (price, cleaned) →
      (∃ before digits after : Text, IsFirstMarker description before digits after) ∧
      (∀ before digits after : Text, IsFirstMarker description before digits after →
        Nat.ofDigitChars 10 price 0 = Nat.ofDigitChars 10 digits 0) ∧
      (IsPrice price ∧ (price.head? = some '0' → price = ['0'])) ∧
      (∀ result : Text, Cleaned price description result ↔ result = cleaned) ∧
      (¬ marker price <:+: description → cleaned = description) := by
  refine ⟨split?_eq_none_iff, fun price cleaned found => ?_⟩
  obtain ⟨isPrice, rfl⟩ := isPrice_of_split? found
  rw [split?] at found
  split at found
  · cases found
  · next digits marked =>
      obtain ⟨rfl, _⟩ := Prod.mk.inj (Option.some.inj found)
      obtain ⟨before, after, first⟩ := isFirstMarker_of_firstMarker? marked
      refine ⟨⟨before, digits, after, first⟩, fun other others more second => ?_,
        ⟨isPrice, withoutLeadingZeros_of_head?⟩, fun result => cleaned_iff, fun absent => ?_⟩
      · rw [first.unique second, ofDigitChars_withoutLeadingZeros]
      · exact (cleaned_iff.mp (.rest absent)).symm

/-- A marker with leading zeros gives the price and stays, behind an asterisk of its own,
and two markers of the price stand next to each other but for blanks. -/
theorem split?_takes_leftmost_padded :
    let description := "***005** off, **5** \u3000**5**now **5".toList
    let cleaned := "***005** off, 55now **5".toList
    split? description = some ("5".toList, cleaned) ∧
      Cleaned "5".toList description cleaned ∧
      ∃ before digits after : Text, IsFirstMarker description before digits after ∧
        Nat.ofDigitChars 10 digits 0 = 5 := by
  intro description cleaned
  have first : firstMarker? description = some "005".toList := by decide +kernel
  have bare : withoutLeadingZeros "005".toList = "5".toList := by decide +kernel
  have one : Text.split? (marker "5".toList) description =
      some ("***005** off, ".toList, " \u3000**5**now **5".toList) := by decide +kernel
  have two : Text.split? (marker "5".toList) (Text.trimStart " \u3000**5**now **5".toList) =
      some ([], "now **5".toList) := by decide +kernel
  have last : Text.split? (marker "5".toList) (Text.trimStart "now **5".toList) = none := by
    decide +kernel
  have split : split? description = some ("5".toList, cleaned) := by
    rw [split?, first]
    simp only [bare, clean_of_split?_eq_some one, clean_of_split?_eq_some two,
      clean_of_split?_eq_none last]
    decide +kernel
  obtain ⟨⟨before, digits, after, found⟩, number, _, only, _⟩ :=
    (split?_takes_leftmost description).2 _ _ split
  have five : Nat.ofDigitChars 10 "5".toList 0 = 5 := by decide +kernel
  exact ⟨split, (only cleaned).mpr rfl, before, digits, after, found,
    (number before digits after found).symm.trans five⟩

end Price

end SqlDump
