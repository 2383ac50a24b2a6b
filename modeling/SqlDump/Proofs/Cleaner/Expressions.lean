import SqlDump.Proofs.Cleaner.Packages

/-!
# Expressions in package rows

What a value denotes is known for a literal only.  An expression has to be written
again just as it was read, and a literal may give way to another literal.  A package
row keeps to that unless its description is an expression in whose text a marker
occurs: the text is then cleaned and written as a literal.
-/

namespace SqlDump

namespace Value

/-- What may stand in place of a value: the value itself, and for a literal any
literal. -/
inductive MayBecome : Value → Value → Prop where
  | same (value : Value) : MayBecome value value
  | literal (written rewritten : Text) : MayBecome (.quoted written) (.quoted rewritten)

/-- An expression may become nothing but itself. -/
theorem mayBecome_bare_iff {text : Text} {new : Value} :
    MayBecome (.bare text) new ↔ new = .bare text := by
  constructor
  · intro becomes
    cases becomes with
    | same => rfl
  · rintro rfl
    exact .same _

end Value

namespace Packages

/-- The description that is written may stand in place of the one that was read
unless that is an expression with a marker. -/
theorem mayBecome_priced_iff (description : Value) :
    Value.MayBecome description (priced description).2 ↔
      ∀ text digits : Text, description = .bare text → Price.IsPrice digits →
        ¬ Price.marker digits <:+: text := by
  constructor
  · rintro becomes text digits rfl isPrice marked
    obtain ⟨price, cleaned, _, written⟩ :=
      @exists_priced_of_marked (.bare text) digits isPrice marked
    rw [written, Value.mayBecome_bare_iff] at becomes
    cases becomes
  · intro unmarked
    cases description with
    | quoted written =>
        rw [priced]
        split
        · exact .literal written _
        · exact .same _
    | bare text =>
        have absent : ∀ digits, Price.IsPrice digits → ¬ Price.marker digits <:+: text :=
          fun digits => unmarked text digits rfl
        have kept : priced (.bare text) = (Value.null, .bare text) := priced_of_unmarked absent
        rw [kept]
        exact .same _

/-- A revised row is written with the same id, name and order.  In place of the
description stands what may stand there, that is, an expression is still the same
expression and a literal gives way to nothing but a literal, exactly unless the
description is an expression in whose text a price marker occurs. -/
theorem mayBecome_iff_of_revises {row next : Row} (revises : Rule.packages.Revises row next) :
    ∃ id name description order price cleaned : Value,
      row.values = [id, name, description, order] ∧
      next.values = [id, name, price, cleaned, order] ∧
      (Value.MayBecome description cleaned ↔
        ∀ text digits : Text, description = .bare text → Price.IsPrice digits →
          ¬ Price.marker digits <:+: text) := by
  obtain ⟨_, id, name, description, order, shape, rfl⟩ := revises_iff.mp revises
  exact ⟨id, name, description, order, _, _, shape, rfl, mayBecome_priced_iff description⟩

/-- A call without a marker is written again between the price and the order. -/
theorem mayBecome_iff_of_revises_call :
    let lead := "INSERT OR REPLACE INTO \"packages\" (\"id\", ".toList ++ columns ++ ") ".toList
    let call : Value := .bare "replace('**Gold**\\n7 days','\\n',char(10))".toList
    let row : Row :=
      ⟨lead, [.bare "1".toList, .quoted "'Gold'".toList, call, .bare "X'02'".toList]⟩
    ∃ (next : Row) (price : Value), Rule.packages.Revises row next ∧
      next.values =
        [.bare "1".toList, .quoted "'Gold'".toList, price, call, .bare "X'02'".toList] := by
  intro lead call row
  have named : columns <:+: lead := List.infix_append _ _ _
  have revises := revises_iff.mpr ⟨named, _, _, _, _, (rfl : row.values = _), rfl⟩
  obtain ⟨id, name, description, order, price, cleaned, shape, written, kept⟩ :=
    mayBecome_iff_of_revises revises
  simp only [row, List.cons.injEq, and_true] at shape
  obtain ⟨rfl, rfl, rfl, rfl⟩ := shape
  have unmarked := Price.firstMarker?_eq_none_iff.mp
    (by decide +kernel : Price.firstMarker? call.text = none)
  have becomes := kept.mpr fun text digits same isPrice => by
    have shown : call.text = text := Value.bare.inj same
    rw [← shown]
    exact unmarked digits isPrice
  rw [Value.mayBecome_bare_iff.mp becomes] at written
  exact ⟨_, price, revises, written⟩

/-- A call that quotes a marker is written as a literal that holds the text of the call. -/
theorem call_with_marker_becomes_literal :
    let lead := "INSERT OR REPLACE INTO \"packages\" (\"id\", ".toList ++ columns ++ ") ".toList
    let call := "replace('**50** credits\\nper month','\\n',char(10))".toList
    let literal := "'replace(''50credits\\nper month'',''\\n'',char(10))'".toList
    let row : Row :=
      ⟨lead, [.bare "1".toList, .quoted "'Gold'".toList, .bare call, .bare "2".toList]⟩
    ∃ next : Row, Rule.packages.Revises row next ∧
      next.values = [.bare "1".toList, .quoted "'Gold'".toList, .bare "50".toList,
        .quoted literal, .bare "2".toList] ∧
      ¬ Value.MayBecome (.bare call) (.quoted literal) := by
  intro lead call literal row
  have named : columns <:+: lead := List.infix_append _ _ _
  have revises := revises_iff.mpr ⟨named, _, _, _, _, (rfl : row.values = _), rfl⟩
  have first : Price.firstMarker? call = some "50".toList := by decide +kernel
  have bare : Price.withoutLeadingZeros "50".toList = "50".toList := by decide +kernel
  have one : Text.split? (Price.marker "50".toList) call =
      some ("replace('".toList, " credits\\nper month','\\n',char(10))".toList) := by
    decide +kernel
  have last : Text.split? (Price.marker "50".toList)
      (Text.trimStart " credits\\nper month','\\n',char(10))".toList) = none := by
    decide +kernel
  have split : Price.split? call =
      some ("50".toList, "replace('50credits\\nper month','\\n',char(10))".toList) := by
    rw [Price.split?, first]
    simp only [bare, Price.clean_of_split?_eq_some one, Price.clean_of_split?_eq_none last]
    decide +kernel
  have cleaned : priced (.bare call) = (.bare "50".toList, .quoted literal) := by
    simp only [priced, Value.content, split]
    decide +kernel
  refine ⟨_, revises, ?_, fun becomes => ?_⟩
  · rw [cleaned]
  · cases Value.mayBecome_bare_iff.mp becomes

end Packages

end SqlDump
