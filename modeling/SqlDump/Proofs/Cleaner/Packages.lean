import Mathlib.Data.List.Basic
import SqlDump.Proofs.Cleaner.Rows
import SqlDump.Proofs.Rule.Cleaning

/-!
# Cleaning packages

A package is never dropped.  It is written anew exactly if its lead names the
column pair and it has four values, and what is written is read again as five
values: the price stands where the description stood, and the description behind
it.
-/

namespace SqlDump

namespace Packages

/-- The verdict on a row depends on the column pair and on the number of values. -/
theorem revises_iff {row next : Row} :
    Rule.packages.Revises row next ↔ columns <:+: row.lead ∧
      ∃ id name description order : Value, row.values = [id, name, description, order] ∧
        next = ⟨pricedLead row.lead,
          [id, name, (priced description).1, (priced description).2, order]⟩ := by
  constructor
  · intro revises
    refine ⟨?_, exists_values_of_revises revises⟩
    obtain ⟨notices, decided⟩ := revises
    change apply row = _ at decided
    rw [apply] at decided
    split at decided
    · next named => exact Text.contains_iff_isInfix.mp named
    · cases decided
  · rintro ⟨named, id, name, description, order, shape, rfl⟩
    refine ⟨[], ?_⟩
    change apply row = _
    rw [apply, if_pos (Text.contains_iff_isInfix.mpr named)]
    simp only [shape]

theorem keep_or_revises (row : Row) :
    (apply row).1 = .keep ∨ ∃ next, Rule.packages.Revises row next := by
  cases decided : apply row with
  | mk verdict notices =>
      cases verdict with
      | keep => exact Or.inl rfl
      | revise next => exact Or.inr ⟨next, notices, decided⟩
      | drop =>
          rw [apply] at decided
          split at decided
          · split at decided <;> cases decided
          · cases decided

theorem priced_of_unmarked {description : Value}
    (unmarked : ∀ digits, Price.IsPrice digits →
      ¬ Price.marker digits <:+: description.content) :
    priced description = (Value.null, description) := by
  rw [priced, Price.split?_eq_none_iff.mpr unmarked]

theorem exists_priced_of_marked {description : Value} {digits : Text}
    (isPrice : Price.IsPrice digits) (marked : Price.marker digits <:+: description.content) :
    ∃ price cleaned : Text, Price.split? description.content = some (price, cleaned) ∧
      priced description = (.bare price, Value.quote cleaned) := by
  cases found : Price.split? description.content with
  | none => exact absurd marked (Price.split?_eq_none_iff.mp found digits isPrice)
  | some both => exact ⟨both.1, both.2, rfl, by rw [priced, found]⟩

end Packages

namespace Cleaner

variable {cleaner : Cleaner}

theorem passed_or_revises_package (ruled : cleaner.rule? = some Rule.packages) (statement : Text) :
    (cleaner.process statement).1 = .passed statement ∨
      ∃ next, (cleaner.process statement).1 = .revised next := by
  rcases passed_or_outcome ruled statement with passed | ⟨row, found, decided⟩
  · exact Or.inl passed
  · rcases Packages.keep_or_revises row with kept | ⟨next, revises⟩
    · change (Rule.packages.apply row).1 = _ at kept
      rw [kept] at decided
      exact Or.inl decided
    · exact Or.inr ⟨_, revised_of_revises ruled found revises⟩

/-- What becomes of a statement when packages are cleaned.  It is never dropped.
It is written anew exactly if it holds a row for packages whose lead names the
column pair and which has four values, and passes otherwise.  The new lead has
the price column in front of the pairs, and there are five values: the price and
the description stand in place of the description.  Without a marker the price
is null and the description stays; with one the price is a bare number and the
description a literal for the cleaned content. -/
theorem packages_outcome (echo color : Bool) (statement : Text) :
    let packages := ofSettings ⟨"packages".toList, echo, color⟩
    let became := (packages.process statement).1
    let pair := "\"description\", \"display_order\"".toList
    let pricedPair := "\"price\", \"description\", \"display_order\"".toList
    became ≠ .dropped ∧
    ((∃ next, became = .revised next) ↔
      ∃ row : Row, Insert.row? statement = some ("packages".toList, row) ∧
        pair <:+: row.lead ∧ row.values.length = 4) ∧
    ((¬ ∃ next, became = .revised next) → became = .passed statement) ∧
    ∀ next, became = .revised next →
      ∃ (lead pricedLead : Text) (id name description order price cleaned : Value),
        Insert.row? statement =
          some ("packages".toList, ⟨lead, [id, name, description, order]⟩) ∧
        Insert.row? next =
          some ("packages".toList, ⟨pricedLead, [id, name, price, cleaned, order]⟩) ∧
        Text.Replaced pair pricedPair lead pricedLead ∧
        ((∀ digits : Text, digits ≠ [] ∧ digits.all Char.isDigit →
            ¬ "**".toList ++ digits ++ "**".toList <:+: description.content) →
          price = .bare "NULL".toList ∧ cleaned = description) ∧
        ∀ digits : Text, digits ≠ [] ∧ digits.all Char.isDigit →
          "**".toList ++ digits ++ "**".toList <:+: description.content →
          ∃ number text : Text, Price.split? description.content = some (number, text) ∧
            price = .bare number ∧ cleaned = Value.quote text ∧ cleaned.content = text := by
  intro packages became pair pricedPair
  have ruled : packages.rule? = some Rule.packages := rfl
  have either := passed_or_revises_package ruled statement
  refine ⟨fun dropped => ?_, ⟨?_, ?_⟩, either.resolve_right, fun next revised => ?_⟩
  · change became = _ ∨ ∃ next, became = _ at either
    rw [dropped] at either
    rcases either with passed | ⟨next, revised⟩
    · cases passed
    · cases revised
  · rintro ⟨next, revised⟩
    obtain ⟨row, priced, found, revises, _⟩ := exists_revises_of_revised ruled revised
    obtain ⟨named, id, name, description, order, shape, _⟩ := Packages.revises_iff.mp revises
    exact ⟨row, found, named, congrArg List.length shape⟩
  · rintro ⟨row, found, named, four⟩
    obtain ⟨id, name, description, order, shape⟩ := List.length_eq_four.mp four
    have revises := Packages.revises_iff.mpr ⟨named, id, name, description, order, shape, rfl⟩
    exact ⟨_, revised_of_revises ruled found revises⟩
  · obtain ⟨row, priced, found, revises, rfl⟩ := exists_revises_of_revised ruled revised
    have again := row?_of_revises Packages.isSettling found revises
    obtain ⟨named, id, name, description, order, shape, rfl⟩ := Packages.revises_iff.mp revises
    obtain ⟨lead, values⟩ := row
    subst shape
    refine ⟨lead, Packages.pricedLead lead, id, name, description, order, _, _, found, again,
      Text.replaced_replaceAll Packages.columns_ne_nil lead, fun unmarked => ?_,
      fun digits isPrice marked => ?_⟩
    · rw [Packages.priced_of_unmarked unmarked]
      exact ⟨rfl, rfl⟩
    · obtain ⟨number, text, split, priced⟩ := Packages.exists_priced_of_marked isPrice marked
      rw [priced]
      exact ⟨number, text, split, rfl, rfl, Value.content_quote text⟩

/-- A quote, a comma and a parenthesis in the description survive, and both markers
of the price are replaced. -/
theorem packages_outcome_two_markers :
    let lead :=
      "INSERT OR REPLACE INTO \"packages\" (\"id\", \"description\", \"display_order\") ".toList
    let values : List Value := [.bare "1".toList, .bare "f(2, 3)".toList,
      .quoted "'Kid''s **15** (a, b), was **15**'".toList, .quoted "'**7**'".toList]
    let statement := Insert.ofValues lead values
    Insert.row? statement = some ("packages".toList, ⟨lead, values⟩) ∧
      ∃ next pricedLead : Text,
        ((ofSettings ⟨"packages".toList, true, false⟩).process statement).1 = .revised next ∧
        Insert.row? next = some ("packages".toList, ⟨pricedLead,
          [.bare "1".toList, .bare "f(2, 3)".toList, .bare "15".toList,
            .quoted "'Kid''s 15(a, b), was 15'".toList, .quoted "'**7**'".toList]⟩) := by
  intro lead values statement
  have wholeLead : lead = _ := String.toList_ofList
  have isLead : Insert.IsLead "packages".toList lead := by
    rw [wholeLead]
    exact ⟨" (\"id\", \"description\", \"display_order\") ".toList, rfl, rfl⟩
  have read : ValueList.read (ValueList.write values) = .ok values :=
    ValueList.read_eq_ok_iff.mpr (by decide +kernel)
  have found : Insert.row? statement = some ("packages".toList, ⟨lead, values⟩) :=
    Insert.row?_ofValues isLead read
  have split : Price.split? "Kid's **15** (a, b), was **15**".toList =
      some ("15".toList, "Kid's 15(a, b), was 15".toList) := by
    have first : Price.firstMarker? "Kid's **15** (a, b), was **15**".toList =
        some "15".toList := by decide +kernel
    have one : Text.split? (Price.marker "15".toList) "Kid's **15** (a, b), was **15**".toList =
        some ("Kid's ".toList, " (a, b), was **15**".toList) := by decide +kernel
    have two : Text.split? (Price.marker "15".toList)
        (Text.trimStart " (a, b), was **15**".toList) =
        some ("(a, b), was ".toList, []) := by decide +kernel
    have last : Text.split? (Price.marker "15".toList) (Text.trimStart []) = none := by
      decide +kernel
    have bare : Price.withoutLeadingZeros "15".toList = "15".toList := by decide +kernel
    rw [Price.split?, first]
    simp only [bare, Price.clean_of_split?_eq_some one, Price.clean_of_split?_eq_some two,
      Price.clean_of_split?_eq_none last]
    decide +kernel
  obtain ⟨_, rewritten, _, priced⟩ := packages_outcome true false statement
  obtain ⟨next, revised⟩ :=
    rewritten.mpr ⟨_, found, Text.contains_iff_isInfix.mp (by decide +kernel), rfl⟩
  obtain ⟨_, pricedLead, id, name, description, order, _, _, foundToo, again, _, _, marked⟩ :=
    priced next revised
  have shape : values = [id, name, description, order] :=
    congrArg (fun held : Text × Row => held.2.values) (Option.some.inj (found.symm.trans foundToo))
  simp only [values, List.cons.injEq, and_true] at shape
  obtain ⟨rfl, rfl, rfl, rfl⟩ := shape
  have content : Value.content (.quoted "'Kid''s **15** (a, b), was **15**'".toList) =
      "Kid's **15** (a, b), was **15**".toList := by decide +kernel
  rw [content, split] at marked
  obtain ⟨number, text, splitToo, rfl, rfl, _⟩ := marked "15".toList (by decide +kernel)
    (Text.contains_iff_isInfix.mp (by decide +kernel))
  obtain ⟨rfl, rfl⟩ := Prod.mk.inj (Option.some.inj splitToo)
  have quoted : Value.quote "Kid's 15(a, b), was 15".toList =
      .quoted "'Kid''s 15(a, b), was 15'".toList := by decide +kernel
  rw [quoted] at again
  exact ⟨found, next, pricedLead, revised, again⟩

end Cleaner

end SqlDump
