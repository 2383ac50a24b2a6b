import SqlDump.Proofs.Cleaner.Rows
import SqlDump.Proofs.Pass.Joining
import SqlDump.Proofs.RuleBook.Requests

/-!
# Cleaners from rule books

A cleaner takes one rule from a rule book, the one for the table of its settings, and
shows it only rows of inserts into that table.  So two books that have the same
verdicts on these rows make cleaners that do the same, statement by statement and in
every pass.
-/

namespace SqlDump

namespace Cleaner

variable {cleaner other : Cleaner}

/-! ## Passes of cleaners that do the same -/

/-- What is done about a statement depends on the rule by its outcome alone. -/
theorem treat_of_process {statement : Text} (settings : cleaner.settings = other.settings)
    (color : cleaner.colorAllowed = other.colorAllowed)
    (same : cleaner.process statement = other.process statement) :
    cleaner.treat statement = other.treat statement := by
  have echoed (word text : Text) : cleaner.echo word text = other.echo word text := by
    rw [echo, echo, label, label, settings, color]
  simp only [treat, same, settings, echoed]

/-- Cleaners that deal alike with the statements of an input pass over it alike. -/
theorem run_of_process (settings : cleaner.settings = other.settings)
    (color : cleaner.colorAllowed = other.colorAllowed) {input : Input}
    (same : ∀ statement ∈ (Segments.statements input.lines).1,
      cleaner.process statement = other.process statement) (channels : Channels) :
    cleaner.run input channels = other.run input channels := by
  cases divided : Segments.statements input.lines with
  | mk statements rest =>
      rw [divided] at same
      have gathered : Gatherer.statements input.lines = (statements, ⟨rest⟩) := by
        rw [Gatherer.statements_eq_segments, divided]
      have treated : statements.flatMap cleaner.treat = statements.flatMap other.treat :=
        List.flatMap_congr fun statement member =>
          treat_of_process settings color (same statement member)
      have counted : cleaner.summary statements ⟨rest⟩ = other.summary statements ⟨rest⟩ := by
        have kinds : (statements.map fun statement => (cleaner.process statement).1.treatment) =
            statements.map fun statement => (other.process statement).1.treatment :=
          List.map_congr_left fun statement member => by rw [same statement member]
        rw [summary, summary, kinds]
      have planned : cleaner.plan input = other.plan input := by
        simp only [plan, gathered, treated, counted, close, settings]
      rw [run_eq, run_eq, planned, gathered, counted]

end Cleaner

namespace RuleBook

variable {book first second : RuleBook} {settings : Settings} {statement : Text}

/-- The books have the same verdict on the row of a statement that is an insert into
the table. -/
def JudgeAlike (first second : RuleBook) (table statement : Text) : Prop :=
  ∀ row, Insert.row? statement = some (table, row) →
    (first.find? table).map (·.apply row) = (second.find? table).map (·.apply row)

/-- A rule is shown no more than the row of an insert into its table: but for the
verdict on that row it does not matter which rule it is. -/
theorem process_of_judgeAlike
    (known : (first.find? settings.table).isSome = (second.find? settings.table).isSome)
    (alike : JudgeAlike first second settings.table statement) :
    (Cleaner.ofBook settings first).process statement =
      (Cleaner.ofBook settings second).process statement := by
  have course := Cleaner.course_process (Cleaner.ofBook settings first) statement
  cases ruledSecond : second.find? settings.table with
  | none =>
      rw [ruledSecond, Option.isSome_none, Option.isSome_eq_false_iff, Option.isNone_iff_eq_none]
        at known
      rw [Cleaner.process_of_rule?_eq_none known, Cleaner.process_of_rule?_eq_none ruledSecond]
  | some other =>
      have table : other.table = settings.table := table_of_find? ruledSecond
      have ruledOther : (Cleaner.ofBook settings second).rule? = some other := ruledSecond
      generalize (Cleaner.ofBook settings first).process statement = result at course ⊢
      cases course with
      | ruleless ruleless =>
          have ruleless : first.find? settings.table = none := ruleless
          rw [ruleless, ruledSecond] at known
          cases known
      | notInsert ruled unparsed =>
          rw [Cleaner.process_of_parse?_eq_none ruledOther unparsed]
      | otherTable ruled parsed differs =>
          rw [table_of_find? ruled, ← table] at differs
          rw [Cleaner.process_of_table_ne ruledOther parsed differs]
      | unreadable ruled parsed same unread =>
          rw [table_of_find? ruled, ← table] at same
          rw [Cleaner.process_of_unreadable ruledOther parsed same unread]
      | @judged rule row ruled found =>
          have ruled : first.find? settings.table = some rule := ruled
          rw [table_of_find? ruled] at found
          have judged : rule.apply row = other.apply row := by
            have verdicts := alike row found
            rw [ruled, ruledSecond] at verdicts
            exact Option.some.inj verdicts
          rw [← table] at found
          rw [Cleaner.process_of_row? ruledOther found, judged]

/-- A statement that is no insert into the table passes, whatever the rule. -/
theorem passed_of_no_insert (book : RuleBook)
    (elsewhere : ∀ insert, Insert.parse? statement = some insert → insert.table ≠ settings.table) :
    ((Cleaner.ofBook settings book).process statement).1 = .passed statement := by
  cases ruled : (Cleaner.ofBook settings book).rule? with
  | none => rw [Cleaner.process_of_rule?_eq_none ruled]
  | some rule =>
      refine Cleaner.passed_of_row?_ne ruled fun row found => ?_
      obtain ⟨list, parsed, _⟩ := Insert.row?_eq_some_iff.mp found
      exact elsewhere _ parsed (table_of_find? ruled)

/-! ## The rule entered last -/

/-- A rule book, empty or with the built-in rules at the start, answers all requests by
the rules entered so far: the rule for a table is the one entered last for it, and the
tables are those with such a rule, in the order of their bytes.  Entering a rule gives
back the one it replaces and changes no other one, and every rule stands under its own
table.

A cleaner sees of a book the one rule for its table.  Books with the same rule for it
make cleaners that report, treat and pass alike.  And the rule is shown no more than the
rows of inserts into the table: what the rules would do with any other row does not
matter, and every other statement passes. -/
theorem last_entered_decides (start : List Rule) (requests : List Request) :
    (empty = ofList [] ∧ builtIn = ofList [Rule.packages, Rule.members]) ∧
    IsAnswered start requests ((ofList start).answers requests) ∧
    (∀ book, (ofList start).after? requests = some book →
      let history := start ++ requests.filterMap Request.entered?
      let kept := KeyedRules.ofList history
      (∀ table, book.find? table = latest? history table ∧
        (book.take table).1 = latest? history table) ∧
      (∀ rule, (book.enter rule).1 = book.find? rule.table ∧
        (book.enter rule).2.find? rule.table = some rule ∧
        ∀ table, table ≠ rule.table → (book.enter rule).2.find? table = book.find? table) ∧
      (kept.book = book ∧ kept.tables = book.tables ∧
        (∀ table, kept.find? table = book.find? table ∧
          (kept.take table).1 = (book.take table).1) ∧
        (∀ entry ∈ kept.entries, entry.2.table = entry.1) ∧
        ∀ rule ∈ book.rules, book.find? rule.table = some rule) ∧
      IsIncreasing book.tables ∧
      ∀ table, table ∈ book.tables ↔ (book.find? table).isSome) ∧
    ∀ (settings : Settings) (first second : RuleBook),
      let cleaner := Cleaner.ofBook settings first
      let other := Cleaner.ofBook settings second
      (first.find? settings.table = second.find? settings.table →
        cleaner.opening = other.opening ∧ cleaner.process = other.process ∧
          cleaner.run = other.run) ∧
      ((first.find? settings.table).isSome = (second.find? settings.table).isSome →
        (∀ statement, JudgeAlike first second settings.table statement →
          cleaner.process statement = other.process statement) ∧
        ∀ (input : Input) (channels : Channels),
          (∀ statement ∈ (Segments.statements input.lines).1,
            JudgeAlike first second settings.table statement) →
          cleaner.run input channels = other.run input channels) ∧
      ∀ statement, (∀ insert, Insert.parse? statement = some insert →
          insert.table ≠ settings.table) →
        (cleaner.process statement).1 = .passed statement := by
  refine ⟨⟨rfl, rfl⟩, (records_ofList start).isAnswered requests, fun book reached => ?_,
    fun settings first second => ⟨fun same => ?_, fun known => ⟨?_, ?_⟩, ?_⟩⟩
  · intro history kept
    obtain rfl : book = ofList history := eq_ofList_of_after? reached
    have records : (ofList history).Records history := records_ofList history
    obtain ⟨filed, unkeyed⟩ := KeyedRules.isFiled_ofList history
    refine ⟨fun table => ⟨records.found table, records.found table⟩, fun rule => ⟨rfl, ?_, ?_⟩,
      ⟨unkeyed, ?_, fun table => ⟨?_, ?_⟩, filed, fun rule => records.apart.find?_of_mem⟩,
      records.apart.isIncreasing_tables, mem_tables_iff _⟩
    · exact find?_insert_self _ rule
    · exact fun table ne => find?_insert_of_ne ne.symm
    · rw [← unkeyed, KeyedRules.tables_book filed]
    · rw [← unkeyed, KeyedRules.find?_book filed]
    · rw [← unkeyed, KeyedRules.take_book filed]
  · have cleaners : Cleaner.ofBook settings first = Cleaner.ofBook settings second := by
      rw [Cleaner.ofBook, Cleaner.ofBook, same]
    simp only [cleaners, and_self]
  · exact fun statement alike => process_of_judgeAlike known alike
  · intro input channels alike
    refine Cleaner.run_of_process ?_ ?_ (fun statement member => ?_) channels
    · rfl
    · rfl
    · exact process_of_judgeAlike known (alike statement member)
  · exact fun statement elsewhere => passed_of_no_insert first elsewhere

end RuleBook

end SqlDump
