import SqlDump.Proofs.Cleaner.Packages
import SqlDump.Proofs.Rule.PricedColumns

/-!
# The columns of a cleaned package

The price column is put in where the column pair stands, while the price is put
in at the third place of the row, whatever the columns say.  The two agree if
the columns are in the order in which the values are taken: the description and
the display order last.
-/

namespace SqlDump

namespace Packages

/-- The columns of a package row fit its values, with the price put in, exactly
if the description and the display order are the last two. -/
theorem isAligned_iff {columns : List Text} {id name description order price cleaned : Value}
    (distinct : columns.Nodup) (four : columns.length = 4) :
    IsAligned columns [id, name, description, order] (withPrice columns)
        [id, name, price, cleaned, order] ↔
      columns.drop 2 = ["description".toList, "display_order".toList] := by
  obtain ⟨first, second, third, fourth, rfl⟩ := List.length_eq_four.mp four
  have apart : "display_order".toList ≠ "description".toList := by decide +kernel
  simp only [List.nodup_cons, List.mem_cons, List.not_mem_nil, or_false, not_or] at distinct
  obtain ⟨⟨_, firstThird, _⟩, ⟨secondThird, _⟩, _⟩ := distinct
  constructor
  · rintro ⟨count, _, described, _⟩
    by_cases front : first = "description".toList ∧ second = "display_order".toList
    · obtain ⟨rfl, rfl⟩ := front
      have other : ¬ (third = "description".toList ∧ fourth = "display_order".toList) :=
        fun pair => firstThird pair.1.symm
      rw [withPrice_pair, withPrice_cons [] other] at described
      exact absurd (Option.some.inj described).symm firstThird
    by_cases middle : second = "description".toList ∧ third = "display_order".toList
    · obtain ⟨rfl, rfl⟩ := middle
      rw [withPrice_cons _ front, withPrice_pair] at described
      exact absurd (Option.some.inj described) apart
    by_cases last : third = "description".toList ∧ fourth = "display_order".toList
    · rw [last.1, last.2]
      rfl
    · -- without a pair there is no price column
      rw [withPrice_cons _ front, withPrice_cons _ middle, withPrice_cons _ last] at count
      cases count
  · intro last
    simp only [List.drop_succ_cons, List.drop_zero, List.cons.injEq, and_true] at last
    obtain ⟨rfl, rfl⟩ := last
    rw [withPrice_cons _ fun pair => firstThird pair.1,
      withPrice_cons _ fun pair => secondThird pair.1, withPrice_pair]
    refine ⟨rfl, rfl, rfl, fun column value other paired => ?_⟩
    simp only [withPrice, List.zip_cons_cons, List.zip_nil_left, List.mem_cons, List.not_mem_nil,
      or_false, Prod.mk.injEq, other, false_and, false_or] at paired ⊢
    rcases paired with one | two | four
    · exact Or.inl one
    · exact Or.inr (Or.inl two)
    · exact Or.inr (Or.inr (Or.inr four))

end Packages

namespace Cleaner

/-- A package that is written anew goes into columns again, the ones from before
with the price in front of each description that the display order follows.  The
price is the third value and the description the fourth one.  So the columns fit
the values exactly if the description and the display order were the last two
columns; in any other order, and with the pair only in the preamble, they do
not. -/
theorem packages_aligned_iff (echo color : Bool) {statement next preamble table : Text}
    {columns : List Text} {values : List Value}
    (revised :
      ((ofSettings ⟨"packages".toList, echo, color⟩).process statement).1 = .revised next)
    (found : Insert.row? statement =
      some (table, ⟨Insert.namedLead preamble "packages".toList columns, values⟩))
    (free : ∀ column ∈ columns, '"' ∉ column) (distinct : columns.Nodup)
    (counted : columns.length = values.length) :
    ∃ (newPreamble : Text) (newColumns : List Text)
        (id name description order price cleaned : Value),
      newColumns = Packages.withPrice columns ∧
      values = [id, name, description, order] ∧
      Packages.priced description = (price, cleaned) ∧
      Insert.row? next = some ("packages".toList,
        ⟨Insert.namedLead newPreamble "packages".toList newColumns,
          [id, name, price, cleaned, order]⟩) ∧
      (Packages.IsAligned columns values newColumns [id, name, price, cleaned, order] ↔
        columns.drop 2 = ["description".toList, "display_order".toList]) := by
  have ruled : (ofSettings ⟨"packages".toList, echo, color⟩).rule? = some Rule.packages := rfl
  obtain ⟨row, priced, foundToo, revises, written⟩ := exists_revises_of_revised ruled revised
  have again := row?_of_revises Packages.isSettling foundToo revises
  rw [← written] at again
  obtain ⟨_, id, name, description, order, shape, rfl⟩ := Packages.revises_iff.mp revises
  rw [found] at foundToo
  obtain ⟨_, rfl⟩ := Prod.mk.inj (Option.some.inj foundToo)
  have lead : Packages.pricedLead (Insert.namedLead preamble "packages".toList columns) =
      Insert.namedLead (Packages.pricedLead preamble) "packages".toList
        (Packages.withPrice columns) :=
    Packages.pricedLead_namedLead preamble free
  simp only [lead] at again
  simp only at shape
  subst shape
  exact ⟨_, _, id, name, description, order, _, _, rfl, rfl, rfl, again,
    Packages.isAligned_iff distinct counted⟩

/-- A pair in the preamble gets a price as well and does no harm. -/
theorem packages_aligned_iff_with_preamble :
    let preamble := "-- \"description\", \"display_order\"\n".toList
    let columns :=
      ["id".toList, "name".toList, "description".toList, "display_order".toList]
    let values : List Value := [.bare "1".toList, .quoted "'Gold'".toList,
      .quoted "'plain'".toList, .bare "2".toList]
    let statement := Insert.ofValues (Insert.namedLead preamble "packages".toList columns) values
    Insert.row? statement = some ("packages".toList,
        ⟨Insert.namedLead preamble "packages".toList columns, values⟩) ∧
      ∃ next newPreamble : Text,
        ((ofSettings ⟨"packages".toList, true, false⟩).process statement).1 = .revised next ∧
        ∃ newValues : List Value,
          Insert.row? next = some ("packages".toList,
            ⟨Insert.namedLead newPreamble "packages".toList (Packages.withPrice columns),
              newValues⟩) ∧
          Packages.IsAligned columns values (Packages.withPrice columns) newValues := by
  intro preamble columns values statement
  have isLead : Insert.IsLead "packages".toList
      (Insert.namedLead preamble "packages".toList columns) := by
    have whole : preamble = _ := String.toList_ofList
    have behind : " (\"id\", \"name\", \"description\", \"display_order\") ".toList = _ :=
      String.toList_ofList
    refine ⟨" (\"id\", \"name\", \"description\", \"display_order\") ".toList, ?_, ?_⟩
    · rw [whole, behind]
      decide +kernel
    · rw [behind]
      decide +kernel
  have read : ValueList.read (ValueList.write values) = .ok values :=
    ValueList.read_eq_ok_iff.mpr (by decide +kernel)
  have found : Insert.row? statement = some ("packages".toList,
      ⟨Insert.namedLead preamble "packages".toList columns, values⟩) :=
    Insert.row?_ofValues isLead read
  have named : Packages.columns <:+: Insert.namedLead preamble "packages".toList columns :=
    Text.contains_iff_isInfix.mp (by decide +kernel)
  have revised := @revised_of_revises (ofSettings ⟨"packages".toList, true, false⟩) Rule.packages
    statement _ _ rfl found (Packages.revises_iff.mpr ⟨named, _, _, _, _, rfl, rfl⟩)
  obtain ⟨newPreamble, newColumns, _, _, _, _, _, _, rfl, shape, _, again, aligned⟩ :=
    packages_aligned_iff true false revised found (by decide +kernel) (by decide +kernel) rfl
  exact ⟨found, _, newPreamble, revised, _, again, aligned.mpr rfl⟩

/-- With the description in front the price column comes first, and the price is
still the third value: it goes into the display order. -/
theorem misaligned_with_description_first :
    let columns :=
      ["description".toList, "display_order".toList, "id".toList, "name".toList]
    let values : List Value := [.quoted "'plain'".toList, .bare "1".toList, .bare "2".toList,
      .quoted "'Gold'".toList]
    let newColumns :=
      ["price".toList, "description".toList, "display_order".toList, "id".toList, "name".toList]
    let newValues : List Value := [.quoted "'plain'".toList, .bare "1".toList,
      .bare "NULL".toList, .bare "2".toList, .quoted "'Gold'".toList]
    let statement := Insert.ofValues (Insert.namedLead [] "packages".toList columns) values
    Insert.row? statement = some ("packages".toList,
        ⟨Insert.namedLead [] "packages".toList columns, values⟩) ∧
      (∀ column ∈ columns, '"' ∉ column) ∧ columns.Nodup ∧ columns.length = values.length ∧
      ∃ next : Text,
        ((ofSettings ⟨"packages".toList, true, false⟩).process statement).1 = .revised next ∧
        Insert.row? next = some ("packages".toList,
          ⟨Insert.namedLead [] "packages".toList newColumns, newValues⟩) ∧
        ¬ Packages.IsAligned columns values newColumns newValues := by
  intro columns values newColumns newValues statement
  have isLead : Insert.IsLead "packages".toList
      (Insert.namedLead [] "packages".toList columns) := by
    have behind : " (\"description\", \"display_order\", \"id\", \"name\") ".toList = _ :=
      String.toList_ofList
    refine ⟨" (\"description\", \"display_order\", \"id\", \"name\") ".toList, ?_, ?_⟩ <;>
      rw [behind] <;> decide +kernel
  have read : ValueList.read (ValueList.write values) = .ok values :=
    ValueList.read_eq_ok_iff.mpr (by decide +kernel)
  have found : Insert.row? statement = some ("packages".toList,
      ⟨Insert.namedLead [] "packages".toList columns, values⟩) :=
    Insert.row?_ofValues isLead read
  have named : Packages.columns <:+: Insert.namedLead [] "packages".toList columns :=
    Text.contains_iff_isInfix.mp (by decide +kernel)
  have free : ∀ column ∈ columns, '"' ∉ column := by decide +kernel
  have lead : Packages.pricedLead (Insert.namedLead [] "packages".toList columns) =
      Insert.namedLead [] "packages".toList newColumns := by
    have empty : Packages.pricedLead [] = [] :=
      Text.replaceAll_of_split?_eq_none (by decide +kernel)
    have listed : Packages.withPrice columns = newColumns := by decide +kernel
    have priced := Packages.pricedLead_namedLead [] free
    rw [empty, listed] at priced
    exact priced
  have unpriced : Packages.priced (.bare "2".toList) = (Value.null, .bare "2".toList) := by
    have unmarked : Price.split? (Value.bare "2".toList).content = none := by decide +kernel
    rw [Packages.priced, unmarked]
  have revises : Rule.packages.Revises ⟨Insert.namedLead [] "packages".toList columns, values⟩
      ⟨Insert.namedLead [] "packages".toList newColumns, newValues⟩ := by
    refine Packages.revises_iff.mpr ⟨named, _, _, _, _, rfl, ?_⟩
    rw [lead, unpriced]
    rfl
  refine ⟨found, free, by decide +kernel, rfl, _, revised_of_revises rfl found revises,
    row?_of_revises Packages.isSettling found revises, fun aligned => ?_⟩
  exact absurd (Option.some.inj aligned.price) (by decide +kernel)

end Cleaner

end SqlDump
