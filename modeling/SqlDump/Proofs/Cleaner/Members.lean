import SqlDump.Proofs.Cleaner.Rows
import SqlDump.Proofs.Rule.Members

/-!
# Cleaning members

What becomes of a member is decided by three of its values.  The member is
dropped, written anew with the missing ones of these values filled in, or left
as it is; and what is written anew is read again as the row that was meant.
-/

namespace SqlDump

namespace Members

variable {values : List Value}

theorem isNullAt_eq {position : Nat} (inside : position < values.length) :
    isNullAt values position = values[position].isNull := by
  rw [isNullAt, List.getElem?_eq_getElem inside, Option.any_some]

/-- Filling changes the null values at identity positions and no others. -/
theorem getElem?_fill (values : List Value) (position : Nat) :
    (fill values)[position]? = values[position]?.map fun value =>
      if position ∈ [3, 7, 8] ∧ value.isNull = true then .quoted "'MISSING'".toList else value := by
  rw [fill, List.getElem?_mapIdx]
  have written : missing = .quoted "'MISSING'".toList := by decide
  have watched : identity = [3, 7, 8] := rfl
  simp only [written, watched, Bool.and_eq_true, List.contains_iff_mem]

theorem keep_of_few {row : Row} (few : row.values.length < 9) : (apply row).1 = .keep := by
  have below : row.values.length < leastCount := few
  rw [apply, if_pos below]

/-- The verdict on a row of enough values depends on the three that are looked at. -/
theorem apply_of_enough {row : Row} (enough : 9 ≤ row.values.length) :
    (apply row).1 =
      if row.values[7].isNull ∧ row.values[8].isNull then .drop
      else if row.values[3].isNull ∨ row.values[7].isNull ∨ row.values[8].isNull then
        .revise { row with values := fill row.values }
      else .keep := by
  have governmentNull : isNullAt row.values governmentId = row.values[3].isNull :=
    @isNullAt_eq row.values 3 (by omega)
  have firstNull : isNullAt row.values firstName = row.values[7].isNull :=
    @isNullAt_eq row.values 7 (by omega)
  have lastNull : isNullAt row.values lastName = row.values[8].isNull :=
    @isNullAt_eq row.values 8 (by omega)
  have many : ¬ row.values.length < leastCount := Nat.not_lt.mpr enough
  simp only [apply, if_neg many, identity, List.any_cons, List.any_nil, Bool.or_false,
    governmentNull, firstNull, lastNull, Bool.and_eq_true, Bool.or_eq_true]
  split
  · rfl
  · split <;> rfl

end Members

namespace Cleaner

/-- What becomes of a statement when members are cleaned.  It passes unless it
holds a row for members of at least nine values.  Of such a row the names are
the eighth and the ninth value, and the fourth is the government id: the row is
dropped exactly if both names are null; if not, and one of the three is null, it
is written anew with the same lead and with the null ones among these three
filled in, all else as it was; and if none is null it passes. -/
theorem members_outcome (echo color : Bool) (statement : Text) :
    let members := ofSettings ⟨"members".toList, echo, color⟩
    let became := (members.process statement).1
    ((∀ row : Row, Insert.row? statement = some ("members".toList, row) →
        row.values.length < 9) → became = .passed statement) ∧
    ∀ row : Row, Insert.row? statement = some ("members".toList, row) →
      ∀ enough : 9 ≤ row.values.length,
        (became = .dropped ↔ row.values[7].isNull ∧ row.values[8].isNull) ∧
        (¬(row.values[7].isNull ∧ row.values[8].isNull) →
          row.values[3].isNull ∨ row.values[7].isNull ∨ row.values[8].isNull →
          ∃ (next : Text) (filled : List Value), became = .revised next ∧
            Insert.row? next = some ("members".toList, ⟨row.lead, filled⟩) ∧
            ∀ position : Nat, filled[position]? = row.values[position]?.map fun value =>
              if position ∈ [3, 7, 8] ∧ value.isNull = true then .quoted "'MISSING'".toList
              else value) ∧
        (¬(row.values[3].isNull ∨ row.values[7].isNull ∨ row.values[8].isNull) →
          became = .passed statement) := by
  intro members became
  have ruled : members.rule? = some Rule.members := rfl
  constructor
  · intro short
    rcases passed_or_outcome ruled statement with passed | ⟨row, found, decided⟩
    · exact passed
    · have kept : (Rule.members.apply row).1 = .keep := Members.keep_of_few (short row found)
      rw [kept] at decided
      exact decided
  · intro row found enough
    have decided : became = outcome statement (Members.apply row).1 :=
      congrArg Prod.fst (process_of_row? ruled found)
    have verdict := Members.apply_of_enough enough
    refine ⟨?_, fun named incomplete => ?_, fun complete => ?_⟩
    · rw [decided, verdict]
      by_cases nameless : row.values[7].isNull ∧ row.values[8].isNull
      · rw [if_pos nameless]
        exact ⟨fun _ => nameless, fun _ => rfl⟩
      · rw [if_neg nameless]
        refine ⟨fun dropped => ?_, fun both => absurd both nameless⟩
        split at dropped <;> cases dropped
    · rw [if_neg named, if_pos incomplete] at verdict
      have revises : Rule.members.Revises row { row with values := Members.fill row.values } :=
        ⟨(Members.apply row).2, Prod.ext verdict rfl⟩
      exact ⟨_, Members.fill row.values, revised_of_revises ruled found revises,
        row?_of_revises Members.isSettling found revises, Members.getElem?_fill row.values⟩
    · have named : ¬(row.values[7].isNull ∧ row.values[8].isNull) :=
        fun both => complete (Or.inr (Or.inl both.1))
      rw [decided, verdict, if_neg named, if_neg complete]
      rfl

/-- A member without a government id and with the last name written `'Null'` keeps
its other null values. -/
theorem members_outcome_one_name :
    let lead := "-- members\nINSERT OR REPLACE INTO \"members\" (\"id\") ".toList
    let values : List Value := [.bare "1".toList, .bare "NULL".toList, .bare "NULL".toList,
      .bare "null".toList, .bare "5".toList, .bare "6".toList, .bare "f(7, 8)".toList,
      .quoted "'O''Neil, Ann'".toList, .quoted "'Null'".toList, .bare "NULL".toList]
    let statement := Insert.ofValues lead values
    Insert.row? statement = some ("members".toList, ⟨lead, values⟩) ∧
      ∃ (next : Text) (filled : List Value),
        ((ofSettings ⟨"members".toList, true, false⟩).process statement).1 = .revised next ∧
        Insert.row? next = some ("members".toList, ⟨lead, filled⟩) ∧
        filled[2]? = some (.bare "NULL".toList) ∧ filled[3]? = some (.quoted "'MISSING'".toList) ∧
        filled[7]? = some (.quoted "'O''Neil, Ann'".toList) ∧
        filled[8]? = some (.quoted "'MISSING'".toList) ∧
        filled[9]? = some (.bare "NULL".toList) ∧ filled[10]? = none := by
  intro lead values statement
  have isLead : Insert.IsLead "members".toList lead := by
    have whole : lead = _ := String.toList_ofList
    rw [whole]
    exact ⟨" (\"id\") ".toList, rfl, rfl⟩
  have read : ValueList.read (ValueList.write values) = .ok values :=
    ValueList.read_eq_ok_iff.mpr (by decide +kernel)
  have found : Insert.row? statement = some ("members".toList, ⟨lead, values⟩) :=
    Insert.row?_ofValues isLead read
  have treated := (members_outcome true false statement).2 ⟨lead, values⟩ found (by decide +kernel)
  obtain ⟨next, filled, revised, again, each⟩ :=
    treated.2.1 (by decide +kernel) (by decide +kernel)
  refine ⟨found, next, filled, revised, again, (each 2).trans ?_, (each 3).trans ?_,
    (each 7).trans ?_, (each 8).trans ?_, (each 9).trans ?_, (each 10).trans ?_⟩ <;>
    decide +kernel

end Cleaner

end SqlDump
