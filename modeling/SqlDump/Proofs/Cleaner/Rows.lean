import SqlDump.Proofs.Rule.Settling

/-!
# What a cleaner makes of a row

A cleaner sees nothing of a statement but its row.  A statement without a row
for the table of the rule passes; any other one comes out by the verdict on its
row.  A row that the rule has revised is read again, value by value, from the
statement that is written with it.
-/

namespace SqlDump

namespace Insert

variable {statement table : Text} {row : Row}

theorem isLead_of_row? (found : row? statement = some (table, row)) : IsLead table row.lead := by
  obtain ⟨list, parsed, _⟩ := row?_eq_some_iff.mp found
  exact (isLead_of_parse? parsed).1

theorem isCanonical_of_row? (found : row? statement = some (table, row)) :
    ∀ value ∈ row.values, value.IsCanonical := by
  obtain ⟨list, _, read⟩ := row?_eq_some_iff.mp found
  exact (ValueList.isCanonical_of_read read).1

theorem row?_ofValues {lead : Text} {values : List Value} (isLead : IsLead table lead)
    (read : ValueList.read (ValueList.write values) = .ok values) :
    row? (ofValues lead values) = some (table, ⟨lead, values⟩) :=
  row?_eq_some_iff.mpr ⟨_, isLead.parse?_write _, read⟩

end Insert

namespace Cleaner

variable {cleaner : Cleaner} {rule : Rule} {statement : Text} {row next : Row}

theorem process_of_row? (ruled : cleaner.rule? = some rule)
    (found : Insert.row? statement = some (rule.table, row)) :
    cleaner.process statement =
      (outcome statement (rule.apply row).1, (rule.apply row).2) := by
  obtain ⟨list, parsed, read⟩ := Insert.row?_eq_some_iff.mp found
  exact process_of_read ruled parsed rfl read

theorem passed_of_row?_ne (ruled : cleaner.rule? = some rule)
    (other : ∀ row, Insert.row? statement ≠ some (rule.table, row)) :
    (cleaner.process statement).1 = .passed statement := by
  cases parsed : Insert.parse? statement with
  | none => rw [process_of_parse?_eq_none ruled parsed]
  | some insert =>
      by_cases same : insert.table = rule.table
      · cases read : ValueList.read insert.values with
        | error misread => simp only [process, ruled, parsed, if_pos same, read]
        | ok values =>
            have found : Insert.row? statement = some (rule.table, ⟨insert.lead, values⟩) :=
              Insert.row?_eq_some_iff.mpr ⟨insert.values, by rw [parsed, ← same], read⟩
            exact absurd found (other _)
      · rw [process_of_table_ne ruled parsed same]

theorem passed_or_outcome (ruled : cleaner.rule? = some rule) (statement : Text) :
    (cleaner.process statement).1 = .passed statement ∨
      ∃ row, Insert.row? statement = some (rule.table, row) ∧
        (cleaner.process statement).1 = outcome statement (rule.apply row).1 := by
  by_cases held : ∃ row, Insert.row? statement = some (rule.table, row)
  · obtain ⟨row, found⟩ := held
    exact Or.inr ⟨row, found, congrArg Prod.fst (process_of_row? ruled found)⟩
  · exact Or.inl (passed_of_row?_ne ruled fun row found => held ⟨row, found⟩)

theorem revised_of_revises (ruled : cleaner.rule? = some rule)
    (found : Insert.row? statement = some (rule.table, row)) (revises : rule.Revises row next) :
    (cleaner.process statement).1 = .revised next.statement := by
  obtain ⟨notices, decided⟩ := revises
  rw [process_of_row? ruled found, decided]
  rfl

theorem exists_revises_of_revised {text : Text} (ruled : cleaner.rule? = some rule)
    (revised : (cleaner.process statement).1 = .revised text) :
    ∃ row next : Row, Insert.row? statement = some (rule.table, row) ∧ rule.Revises row next ∧
      text = next.statement := by
  obtain ⟨ruleToo, insert, values, next, ruledToo, parsed, same, read, revises, written⟩ :=
    exists_row_of_revised revised
  cases Option.some.inj (ruled.symm.trans ruledToo)
  have found : Insert.row? statement = some (rule.table, ⟨insert.lead, values⟩) :=
    Insert.row?_eq_some_iff.mpr ⟨insert.values, by rw [parsed, ← same], read⟩
  exact ⟨_, next, found, revises, written⟩

theorem row?_of_revises (settling : rule.IsSettling)
    (found : Insert.row? statement = some (rule.table, row)) (revises : rule.Revises row next) :
    Insert.row? next.statement = some (rule.table, next) := by
  obtain ⟨canonical, ne⟩ := settling.canonical revises (Insert.isCanonical_of_row? found)
  exact Insert.row?_ofValues (settling.lead revises (Insert.isLead_of_row? found))
    (ValueList.read_write canonical ne)

end Cleaner

/-! ## The courses of a statement

A cleaner deals with a statement in one of five ways.  A statement is shown to
the rule in the last one only, and there with no more than its row. -/

namespace Cleaner

/-- The ways in which a cleaner may deal with a statement, each with its outcome
and with what is reported. -/
inductive Course (cleaner : Cleaner) (statement : Text) : Outcome × List Notice → Prop where
  | ruleless (ruleless : cleaner.rule? = none) :
      Course cleaner statement (.passed statement, [])
  | notInsert {rule : Rule} (ruled : cleaner.rule? = some rule)
      (unparsed : Insert.parse? statement = none) :
      Course cleaner statement (.passed statement, [.notInsert])
  | otherTable {rule : Rule} {insert : Insert} (ruled : cleaner.rule? = some rule)
      (parsed : Insert.parse? statement = some insert) (other : insert.table ≠ rule.table) :
      Course cleaner statement (.passed statement, [])
  | unreadable {rule : Rule} {insert : Insert} {misread : Misread}
      (ruled : cleaner.rule? = some rule) (parsed : Insert.parse? statement = some insert)
      (same : insert.table = rule.table) (unread : ValueList.read insert.values = .error misread) :
      Course cleaner statement (.passed statement, [.unreadable insert.table misread])
  | judged {rule : Rule} {row : Row} (ruled : cleaner.rule? = some rule)
      (found : Insert.row? statement = some (rule.table, row)) :
      Course cleaner statement (outcome statement (rule.apply row).1, (rule.apply row).2)

/-- What cannot be read passes, and the reason is reported. -/
theorem process_of_unreadable {cleaner : Cleaner} {statement : Text} {rule : Rule}
    {insert : Insert} {misread : Misread} (ruled : cleaner.rule? = some rule)
    (parsed : Insert.parse? statement = some insert) (same : insert.table = rule.table)
    (unread : ValueList.read insert.values = .error misread) :
    cleaner.process statement = (.passed statement, [.unreadable insert.table misread]) := by
  simp only [process, ruled, parsed, if_pos same, unread]

/-- There is no other way to deal with a statement. -/
theorem course_process (cleaner : Cleaner) (statement : Text) :
    Course cleaner statement (cleaner.process statement) := by
  cases ruled : cleaner.rule? with
  | none =>
      rw [process_of_rule?_eq_none ruled]
      exact .ruleless ruled
  | some rule =>
      cases parsed : Insert.parse? statement with
      | none =>
          rw [process_of_parse?_eq_none ruled parsed]
          exact .notInsert ruled parsed
      | some insert =>
          by_cases same : insert.table = rule.table
          · cases read : ValueList.read insert.values with
            | error misread =>
                rw [process_of_unreadable ruled parsed same read]
                exact .unreadable ruled parsed same read
            | ok values =>
                have found : Insert.row? statement = some (rule.table, ⟨insert.lead, values⟩) :=
                  Insert.row?_eq_some_iff.mpr ⟨insert.values, by rw [parsed, ← same], read⟩
                rw [process_of_row? ruled found]
                exact .judged ruled found
          · rw [process_of_table_ne ruled parsed same]
            exact .otherTable ruled parsed same

end Cleaner

end SqlDump
