import SqlDump.Cleaner
import SqlDump.Proofs.Insert.Rewritten

/-!
# Rules that settle

A rule settles if a row that it has revised is kept by it from then on, and if
the revised row is written as an insert into the same table that is gathered as
one statement again.  A statement that comes out of a cleaner with such a rule
is a statement, and the cleaner passes it unchanged.
-/

namespace SqlDump

namespace Rule

def Revises (rule : Rule) (row next : Row) : Prop :=
  ∃ notices, rule.apply row = (.revise next, notices)

/-- A rule leaves alone what it has revised, and revises so that statements are
gathered and divided as before. -/
structure IsSettling (rule : Rule) : Prop where
  /-- The lead stays a lead for the table. -/
  lead : ∀ {row next : Row}, rule.Revises row next →
    Insert.IsLead rule.table row.lead → Insert.IsLead rule.table next.lead
  /-- The lead has the same part in the end of a statement. -/
  effect : ∀ {row next : Row}, rule.Revises row next →
    ∀ watch : Watch, watch.run next.lead = watch.run row.lead
  /-- The values can be read again as they are written. -/
  canonical : ∀ {row next : Row}, rule.Revises row next →
    (∀ value ∈ row.values, value.IsCanonical) →
    (∀ value ∈ next.values, value.IsCanonical) ∧ next.values ≠ [.bare []]
  /-- The values do not end a statement earlier. -/
  calmer : ∀ {row next : Row}, rule.Revises row next →
    (∀ value ∈ row.values, value.IsCanonical) →
    Watch.Calmer (ValueList.write next.values) (ValueList.write row.values)
  /-- The row is kept from now on. -/
  settled : ∀ {row next : Row}, rule.Revises row next →
    ∃ notices, rule.apply next = (.keep, notices)

end Rule

namespace Cleaner

variable {cleaner : Cleaner} {statement next : Text}

def IsSettling (cleaner : Cleaner) : Prop :=
  ∀ rule, cleaner.rule? = some rule → rule.IsSettling

theorem process_of_rule?_eq_none (ruleless : cleaner.rule? = none) (statement : Text) :
    cleaner.process statement = (.passed statement, []) := by
  rw [process, ruleless]

theorem process_of_parse?_eq_none {rule : Rule} (ruled : cleaner.rule? = some rule)
    (unparsed : Insert.parse? statement = none) :
    cleaner.process statement = (.passed statement, [.notInsert]) := by
  simp only [process, ruled, unparsed]

theorem process_of_table_ne {rule : Rule} {insert : Insert} (ruled : cleaner.rule? = some rule)
    (parsed : Insert.parse? statement = some insert) (other : insert.table ≠ rule.table) :
    cleaner.process statement = (.passed statement, []) := by
  simp only [process, ruled, parsed, if_neg other]

theorem process_of_read {rule : Rule} {insert : Insert} {values : List Value}
    (ruled : cleaner.rule? = some rule) (parsed : Insert.parse? statement = some insert)
    (same : insert.table = rule.table) (found : ValueList.read insert.values = .ok values) :
    cleaner.process statement =
      (outcome statement (rule.apply ⟨insert.lead, values⟩).1,
        (rule.apply ⟨insert.lead, values⟩).2) := by
  simp only [process, ruled, parsed, if_pos same, found]

theorem eq_of_outcome {verdict : Verdict} (passed : outcome statement verdict = .passed next) :
    next = statement := by
  cases verdict with
  | keep => exact (Outcome.passed.inj passed).symm
  | revise row => cases passed
  | drop => cases passed

theorem eq_of_passed (passed : (cleaner.process statement).1 = .passed next) :
    next = statement := by
  unfold process at passed
  split at passed
  · exact (Outcome.passed.inj passed).symm
  · split at passed
    · exact (Outcome.passed.inj passed).symm
    · split at passed
      · split at passed
        · exact (Outcome.passed.inj passed).symm
        · exact eq_of_outcome passed
      · exact (Outcome.passed.inj passed).symm

theorem exists_row_of_revised (revised : (cleaner.process statement).1 = .revised next) :
    ∃ (rule : Rule) (insert : Insert) (values : List Value) (row : Row),
      cleaner.rule? = some rule ∧ Insert.parse? statement = some insert ∧
      insert.table = rule.table ∧ ValueList.read insert.values = .ok values ∧
      rule.Revises ⟨insert.lead, values⟩ row ∧ next = row.statement := by
  unfold process at revised
  split at revised
  · cases revised
  · next rule ruled =>
      split at revised
      · cases revised
      · next insert parsed =>
          split at revised
          · next same =>
              split at revised
              · cases revised
              · next values found =>
                  cases verdict : rule.apply ⟨insert.lead, values⟩ with
                  | mk decided notices =>
                      simp only [verdict] at revised
                      cases decided with
                      | keep => cases revised
                      | drop => cases revised
                      | revise row =>
                          refine ⟨rule, insert, values, row, ruled, parsed, same, found,
                            ⟨notices, verdict⟩, ?_⟩
                          exact (Outcome.revised.inj revised).symm
          · cases revised

theorem parse?_statement {rule : Rule} {row next : Row} (settling : rule.IsSettling)
    (revises : rule.Revises row next) (isLead : Insert.IsLead rule.table row.lead) :
    Insert.parse? next.statement =
      some ⟨rule.table, next.lead, ValueList.write next.values⟩ :=
  (settling.lead revises isLead).parse?_write (ValueList.write next.values)

theorem parse?_of_revised (settling : cleaner.IsSettling)
    (revised : (cleaner.process statement).1 = .revised next) :
    ∃ (rule : Rule) (insert : Insert), cleaner.rule? = some rule ∧
      Insert.parse? next = some insert ∧ insert.table = rule.table := by
  obtain ⟨rule, insert, values, row, ruled, parsed, same, _, revises, rfl⟩ :=
    exists_row_of_revised revised
  have isLead := (Insert.isLead_of_parse? parsed).1
  rw [same] at isLead
  exact ⟨rule, _, ruled, parse?_statement (settling rule ruled) revises isLead, rfl⟩

theorem passed_of_revised (settling : cleaner.IsSettling)
    (revised : (cleaner.process statement).1 = .revised next) :
    (cleaner.process next).1 = .passed next := by
  obtain ⟨rule, insert, values, row, ruled, parsed, same, found, revises, rfl⟩ :=
    exists_row_of_revised revised
  have settles := settling rule ruled
  have isLead := (Insert.isLead_of_parse? parsed).1
  rw [same] at isLead
  obtain ⟨canonical, ne⟩ :=
    settles.canonical revises (ValueList.isCanonical_of_read found).1
  obtain ⟨later, kept⟩ := settles.settled revises
  have readAgain := ValueList.read_write canonical ne
  rw [process_of_read ruled (parse?_statement settles revises isLead) rfl readAgain]
  simp only [kept, outcome]

theorem isStatement_of_revised (settling : cleaner.IsSettling) (complete : IsStatement statement)
    (revised : (cleaner.process statement).1 = .revised next) : IsStatement next := by
  obtain ⟨rule, insert, values, row, ruled, parsed, same, found, revises, rfl⟩ :=
    exists_row_of_revised revised
  have settles := settling rule ruled
  have written := (Insert.isLead_of_parse? parsed).2
  rw [written] at complete
  have calmer : Watch.Calmer (ValueList.write row.values) insert.values :=
    (settles.calmer revises (ValueList.isCanonical_of_read found).1).trans
      (ValueList.calmer_write_of_read found)
  exact Insert.isStatement_write complete (settles.effect revises) calmer

/-! ## What comes out of a cleaner -/

def left? (cleaner : Cleaner) (statement : Text) : Option Text :=
  (cleaner.process statement).1.text?

/-- Whatever a cleaner leaves of a statement is a statement and passes. -/
theorem passed_of_left? (settling : cleaner.IsSettling) (complete : IsStatement statement)
    (left : cleaner.left? statement = some next) :
    IsStatement next ∧ (cleaner.process next).1 = .passed next := by
  rw [left?] at left
  cases treated : (cleaner.process statement).1 with
  | revised text =>
      rw [treated] at left
      cases left
      exact ⟨isStatement_of_revised settling complete treated,
        passed_of_revised settling treated⟩
  | passed text =>
      rw [treated] at left
      cases left
      have same := eq_of_passed treated
      subst same
      exact ⟨complete, treated⟩
  | dropped =>
      rw [treated] at left
      cases left

end Cleaner

end SqlDump
