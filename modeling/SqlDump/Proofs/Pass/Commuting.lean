import SqlDump.Proofs.Pass.Cleaning
import SqlDump.Proofs.Rule.Packages

/-!
# Cleaning for two tables

A cleaner changes only inserts into its table, and leaves them inserts into that
table.  So of two cleaners for different tables at most one has a part in what
becomes of a statement, and passes for two tables may be made in either order.
-/

namespace SqlDump

namespace Cleaner

variable {cleaner other : Cleaner} {statement : Text}

/-- The statement is an insert into the table of the rule of the cleaner. -/
def Concerns (cleaner : Cleaner) (statement : Text) : Prop :=
  ∃ (rule : Rule) (insert : Insert), cleaner.rule? = some rule ∧
    Insert.parse? statement = some insert ∧ insert.table = rule.table

def AreApart (cleaner other : Cleaner) : Prop :=
  ∀ first second : Rule, cleaner.rule? = some first → other.rule? = some second →
    first.table ≠ second.table

theorem AreApart.symm (apart : AreApart cleaner other) : AreApart other cleaner :=
  fun first second found foundToo => (apart second first foundToo found).symm

theorem AreApart.not_concerns (apart : AreApart cleaner other)
    (concerned : cleaner.Concerns statement) : ¬ other.Concerns statement := by
  rintro ⟨second, insertToo, foundToo, parsedToo, sameToo⟩
  obtain ⟨first, insert, found, parsed, same⟩ := concerned
  have one : insert = insertToo := Option.some.inj (parsed.symm.trans parsedToo)
  subst one
  exact apart first second found foundToo (same.symm.trans sameToo)

theorem left?_of_not_concerns (unconcerned : ¬ cleaner.Concerns statement) :
    cleaner.left? statement = some statement := by
  cases ruled : cleaner.rule? with
  | none => rw [left?, process_of_rule?_eq_none ruled]; rfl
  | some rule =>
      cases parsed : Insert.parse? statement with
      | none => rw [left?, process_of_parse?_eq_none ruled parsed]; rfl
      | some insert =>
          have elsewhere : insert.table ≠ rule.table :=
            fun same => unconcerned ⟨rule, insert, ruled, parsed, same⟩
          rw [left?, process_of_table_ne ruled parsed elsewhere]
          rfl

theorem concerns_of_revised {next : Text} (settling : cleaner.IsSettling)
    (revised : (cleaner.process statement).1 = .revised next) : cleaner.Concerns next :=
  parse?_of_revised settling revised

/-- What one cleaner leaves of a statement is no concern of another one unless
the statement was. -/
theorem bind_left?_of_not_concerns (settling : cleaner.IsSettling)
    (apart : AreApart cleaner other) (unconcerned : ¬ other.Concerns statement) :
    (cleaner.left? statement).bind other.left? = cleaner.left? statement := by
  rw [left?]
  cases treated : (cleaner.process statement).1 with
  | revised next =>
      exact left?_of_not_concerns (apart.not_concerns (concerns_of_revised settling treated))
  | passed next =>
      have same := eq_of_passed treated
      subst same
      exact left?_of_not_concerns unconcerned
  | dropped => rfl

theorem bind_left?_comm (settling : cleaner.IsSettling) (otherSettling : other.IsSettling)
    (apart : AreApart cleaner other) (statement : Text) :
    (cleaner.left? statement).bind other.left? = (other.left? statement).bind cleaner.left? := by
  by_cases concerned : cleaner.Concerns statement
  · have unconcerned := apart.not_concerns concerned
    rw [bind_left?_of_not_concerns settling apart unconcerned, left?_of_not_concerns unconcerned,
      Option.bind_some]
  · rw [bind_left?_of_not_concerns otherSettling apart.symm concerned,
      left?_of_not_concerns concerned, Option.bind_some]

theorem areApart_ofSettings {settings others : Settings} (ne : settings.table ≠ others.table) :
    AreApart (ofSettings settings) (ofSettings others) := by
  intro first second found foundToo same
  apply ne
  rw [← RuleBook.table_of_find? found, ← RuleBook.table_of_find? foundToo, same]

end Cleaner

/-- Passes for two tables may be made in either order. -/
theorem clean_comm (table other dump : Text) :
    clean table (clean other dump) = clean other (clean table dump) := by
  by_cases same : table = other
  · rw [same]
  · have settling (name : Text) :
        (Cleaner.ofSettings { Settings.forTable name with echo := false }).IsSettling :=
      Cleaner.isSettling_ofSettings _ true
    have apart : Cleaner.AreApart
        (Cleaner.ofSettings { Settings.forTable other with echo := false })
        (Cleaner.ofSettings { Settings.forTable table with echo := false }) :=
      Cleaner.areApart_ofSettings (Ne.symm same)
    simp only [clean_eq_cleaned]
    rw [Cleaner.cleaned_bytes_cleaned (settling other),
      Cleaner.cleaned_bytes_cleaned (settling table), List.filterMap_filterMap,
      List.filterMap_filterMap]
    congr 2
    funext statement
    exact Cleaner.bind_left?_comm (settling other) (settling table) apart statement

end SqlDump
