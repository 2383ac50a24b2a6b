import SqlDump.Proofs.Rule.Settling
import SqlDump.Proofs.ValueList.Closing

/-!
# Single rows

A statement is shown to the rule of a cleaner only if its value list can be
read, and such a list closes all it opens.  So the parenthesis of the opener
closes at the end of the statement and not before, which leaves no room for a
second row, for a second insert or for a literal that is cut off.
-/

namespace SqlDump

open Scan (clear)

namespace Insert

def openerWord : Text :=
  "VALUES ".toList

theorem write_eq_append_group (lead values : Text) :
    write lead values = lead ++ openerWord ++ '(' :: (values ++ terminator) := by
  have divided : opener = openerWord ++ ['('] := rfl
  simp [write, divided]

theorem write_toList {lead values statement : String}
    (same : lead ++ "VALUES (" ++ values ++ ");" = statement) :
    write lead.toList values.toList = statement.toList := by
  rw [← same, String.toList_append, String.toList_append, String.toList_append]
  rfl

/-- If the value list closes all it opens, and so does what stands between some
open parenthesis and the end, then that parenthesis belongs to the opener. -/
theorem openerWord_isSuffix {lead values before row : Text}
    (closed : clear.run values = some clear) (closedRow : clear.run row = some clear)
    (same : write lead values = before ++ '(' :: (row ++ terminator)) :
    openerWord <:+ before := by
  rw [write_eq_append_group, ← List.cons_append, ← List.append_assoc, ← List.cons_append,
    ← List.append_assoc before] at same
  rcases List.append_eq_append_iff.mp (List.append_cancel_right same) with
    ⟨between, front, back⟩ | ⟨between, front, back⟩
  · cases between with
    | nil =>
        rw [List.append_nil] at front
        exact ⟨lead, front.symm⟩
    | cons c between =>
        -- the parenthesis stands inside the value list
        have inside : values = between ++ '(' :: row := (List.cons.inj back).2
        rw [inside] at closed
        exact absurd closedRow (Scan.run_ne_clear_behind_open closed)
  · cases between with
    | nil =>
        rw [List.append_nil] at front
        exact ⟨lead, front⟩
    | cons c between =>
        -- the opener stands behind the parenthesis
        have inside : row = between ++ '(' :: values := (List.cons.inj back).2
        rw [inside] at closedRow
        exact absurd closed (Scan.run_ne_clear_behind_open closedRow)

end Insert

namespace Cleaner

variable {cleaner : Cleaner} {statement : Text}

def Passes (cleaner : Cleaner) (statement : Text) : Prop :=
  (cleaner.process statement).1 = .passed statement

/-- A statement that does not pass is an insert with a value list that can be read. -/
theorem passes_or_read (cleaner : Cleaner) (statement : Text) :
    cleaner.Passes statement ∨
      ∃ insert values, Insert.parse? statement = some insert ∧
        ValueList.read insert.values = .ok values := by
  rw [Passes]
  cases ruled : cleaner.rule? with
  | none => exact Or.inl (congrArg Prod.fst (process_of_rule?_eq_none ruled statement))
  | some rule =>
      cases parsed : Insert.parse? statement with
      | none => exact Or.inl (congrArg Prod.fst (process_of_parse?_eq_none ruled parsed))
      | some insert =>
          by_cases same : insert.table = rule.table
          · cases found : ValueList.read insert.values with
            | error misread =>
                left
                simp only [process, ruled, parsed, if_pos same, found]
            | ok values => exact Or.inr ⟨insert, values, rfl, found⟩
          · exact Or.inl (congrArg Prod.fst (process_of_table_ne ruled parsed same))

theorem passes_of_unclosed (unclosed : ∀ insert, Insert.parse? statement = some insert →
    clear.run insert.values ≠ some clear) : cleaner.Passes statement := by
  rcases passes_or_read cleaner statement with passes | ⟨insert, values, parsed, found⟩
  · exact passes
  · exact absurd (ValueList.run_of_read found) (unclosed insert parsed)

theorem passes_of_last_group {before row : Text} (closed : clear.run row = some clear)
    (apart : ¬ Insert.openerWord <:+ before) :
    cleaner.Passes (before ++ '(' :: (row ++ Insert.terminator)) := by
  refine passes_of_unclosed fun insert parsed closedValues => apart ?_
  exact Insert.openerWord_isSuffix closedValues closed (Insert.isLead_of_parse? parsed).2.symm

/-- Behind a lead and an opener, what counts is the text up to the terminator. -/
theorem passes_behind_lead {table lead body : Text} (isLead : Insert.IsLead table lead)
    (unclosed : ∀ values : Text, values ++ Insert.terminator = body →
      clear.run values ≠ some clear) :
    cleaner.Passes (lead ++ Insert.opener ++ body) := by
  refine passes_of_unclosed fun insert parsed => ?_
  rw [isLead.parse?_append, Option.map_eq_some_iff] at parsed
  obtain ⟨values, ended, rfl⟩ := parsed
  exact unclosed values (Text.before?_eq_some_iff.mp ended)

/-- A statement passes if the group of its opener ends before the statement does. -/
theorem passes_of_early_close {table lead row rest : Text} (isLead : Insert.IsLead table lead)
    (closed : clear.run row = some clear) (early : rest ≠ [';']) :
    cleaner.Passes (lead ++ Insert.opener ++ (row ++ ')' :: rest)) := by
  refine passes_behind_lead isLead fun values ended closedValues => early ?_
  have first : clear.behindClose? ('(' :: (row ++ ')' :: rest)) = some rest :=
    Scan.behindClose?_group closed rest
  have last : clear.behindClose? ('(' :: (values ++ Insert.terminator)) = some [';'] :=
    Scan.behindClose?_group closedValues [';']
  rw [ended, first] at last
  exact Option.some.inj last

theorem passes_append {first more : Text} {insert : Insert}
    (parsed : Insert.parse? first = some insert) (closed : clear.run insert.values = some clear)
    (follows : more ≠ []) : cleaner.Passes (first ++ more) := by
  obtain ⟨isLead, written⟩ := Insert.isLead_of_parse? parsed
  have early : ';' :: more ≠ [';'] := fun same => follows (List.cons.inj same).2
  rw [written, Insert.write, List.append_assoc, List.append_assoc]
  exact passes_of_early_close isLead closed early

theorem passes_of_open_literal {table lead front : Text} {depth : Nat}
    (isLead : Insert.IsLead table lead) (literal : clear.run front = some ⟨true, depth⟩) :
    cleaner.Passes (lead ++ Insert.opener ++ front) := by
  refine passes_behind_lead isLead fun values ended closed => ?_
  have stuck : clear.run (values ++ Insert.terminator) = none :=
    Scan.run_append_close closed [';']
  rw [ended, literal] at stuck
  cases stuck

/-- A member without a name is dropped whatever stands in front of the row. -/
theorem dropped_of_nameless {statement lead values : Text} {row : List Value}
    (isLead : Insert.IsLead Members.table lead) (written : Insert.write lead values = statement)
    (found : ValueList.read values = .ok row)
    (nameless : (Members.apply ⟨lead, row⟩).1 = .drop) :
    ((ofSettings (Settings.forTable "members".toList)).process statement).1 = .dropped := by
  have ruled : (ofSettings (Settings.forTable "members".toList)).rule? = some Rule.members := rfl
  have parsed := isLead.parse?_write values
  rw [written] at parsed
  rw [process_of_read ruled parsed rfl found]
  exact congrArg (outcome statement) nameless

theorem read_nameless : ValueList.read "1, 2, 3, 4, 5, 6, 7, NULL, NULL".toList =
    .ok (["1", "2", "3", "4", "5", "6", "7", "NULL", "NULL"].map (Value.bare ·.toList)) := by
  have whole : "1, 2, 3, 4, 5, 6, 7, NULL, NULL".toList = _ := String.toList_ofList
  rw [whole]
  exact ValueList.read_eq_ok_iff.mpr (by decide +kernel)

theorem isLead_members :
    Insert.IsLead Members.table "INSERT OR REPLACE INTO \"members\" ".toList := by
  have whole : "INSERT OR REPLACE INTO \"members\" ".toList = _ := String.toList_ofList
  rw [whole]
  exact ⟨[' '], rfl, rfl⟩

/-- A cleaner changes and drops nothing but single rows, whatever its rule does:
the parenthesis of the opener closes first at the end of the statement.  So a
statement passes if its last row stands behind another one, if a whole insert
is followed by anything, or if an insert is cut off inside a literal. -/
theorem changes_single_rows_only (cleaner : Cleaner) :
    (∀ statement : Text, (cleaner.process statement).1 ≠ .passed statement →
      ∃ insert, Insert.parse? statement = some insert ∧
        statement = insert.lead ++ "VALUES ".toList ++ '(' :: (insert.values ++ ");".toList) ∧
        Scan.behindClose? ⟨false, 0⟩ ('(' :: (insert.values ++ ");".toList)) = some [';']) ∧
    (∀ before row : Text, ¬ "VALUES ".toList <:+ before → Scan.balanced row = true →
      cleaner.Passes (before ++ '(' :: (row ++ ");".toList))) ∧
    ∀ (whole : Text) (insert : Insert), Insert.parse? whole = some insert →
      (Scan.balanced insert.values = true →
        ∀ more : Text, more ≠ [] → cleaner.Passes (whole ++ more)) ∧
      ∀ (front : Text) (depth : Nat), front <+: insert.values →
        Scan.run ⟨false, 0⟩ front = some ⟨true, depth⟩ →
        cleaner.Passes (insert.lead ++ "VALUES (".toList ++ front) := by
  refine ⟨fun statement changed => ?_, fun before row apart balanced => ?_,
    fun whole insert parsed => ⟨fun balanced more follows => ?_,
      fun front depth _ literal => ?_⟩⟩
  · rcases passes_or_read cleaner statement with passes | ⟨insert, values, parsed, found⟩
    · exact absurd passes changed
    · have written := (Insert.isLead_of_parse? parsed).2
      rw [Insert.write_eq_append_group] at written
      exact ⟨insert, parsed, written, Scan.behindClose?_group (ValueList.run_of_read found) [';']⟩
  · exact passes_of_last_group (of_decide_eq_true balanced) apart
  · exact passes_append parsed (of_decide_eq_true balanced) follows
  · exact passes_of_open_literal (Insert.isLead_of_parse? parsed).1 literal

/-- Two rows, two inserts and a literal that is cut off pass, where one row alone
is dropped. -/
theorem changes_single_rows_only_members :
    let members := ofSettings (Settings.forTable "members".toList)
    let lead := "INSERT OR REPLACE INTO \"members\" ".toList
    let row := "1, 2, 3, 4, 5, 6, 7, NULL, NULL".toList
    let single := Insert.write lead row
    (members.process single).1 = .dropped ∧
      Scan.behindClose? ⟨false, 0⟩ ('(' :: (row ++ ");".toList)) = some [';'] ∧
      members.Passes (lead ++ "VALUES (0), ".toList ++ '(' :: (row ++ ");".toList)) ∧
      members.Passes (single ++ single) ∧
      members.Passes (lead ++ "VALUES (".toList ++ "1, 'wink );".toList) := by
  intro members lead row single
  have isLead : Insert.IsLead Members.table lead := isLead_members
  have dropped : (members.process single).1 = .dropped :=
    dropped_of_nameless isLead rfl read_nameless rfl
  have parsed := isLead.parse?_write row
  obtain ⟨changed, groups, inserts⟩ := changes_single_rows_only members
  obtain ⟨insert, parsedToo, _, closes⟩ := changed single (by rw [dropped]; nofun)
  cases Option.some.inj (parsed.symm.trans parsedToo)
  refine ⟨dropped, closes, groups _ row (by decide +kernel) (by decide +kernel), ?_, ?_⟩
  · exact (inserts _ _ parsed).1 (by decide +kernel) single (by decide +kernel)
  · exact (inserts _ _ (isLead.parse?_write "1, 'wink );\nstill quoted'".toList)).2 _ 0
      (by decide +kernel) (by decide +kernel)

/-- The row may follow an insert of another form, or be quoted in the value of
one that is cut off.  Two inserts may also be one row, where the end of the first lies
in a literal that closes in the second. -/
theorem dropped_behind_other_insert :
    let members := ofSettings (Settings.forTable "members".toList)
    let row := "INSERT OR REPLACE INTO \"members\" VALUES (1, 2, 3, 4, 5, 6, 7, NULL, NULL);".toList
    let first := "INSERT OR REPLACE INTO \"members\" VALUES (1, ');".toList
    let second := "INSERT OR REPLACE INTO \"members\" VALUES (', 3, 4, 5, 6, 7, NULL, NULL);".toList
    (members.process ("INSERT INTO \"notes\" VALUES (1); ".toList ++ row)).1 = .dropped ∧
      (members.process ("INSERT INTO \"notes\" VALUES ('".toList ++ row)).1 = .dropped ∧
      (Insert.parse? first).isSome = true ∧ (Insert.parse? second).isSome = true ∧
      (members.process (first ++ second)).1 = .dropped := by
  intro members row first second
  have behindInsert : Insert.IsLead Members.table
      "INSERT INTO \"notes\" VALUES (1); INSERT OR REPLACE INTO \"members\" ".toList := by
    have whole : "INSERT INTO \"notes\" VALUES (1); INSERT OR REPLACE INTO \"members\" ".toList =
      _ := String.toList_ofList
    rw [whole]
    exact ⟨[' '], rfl, rfl⟩
  have quoted : Insert.IsLead Members.table
      "INSERT INTO \"notes\" VALUES ('INSERT OR REPLACE INTO \"members\" ".toList := by
    have whole : "INSERT INTO \"notes\" VALUES ('INSERT OR REPLACE INTO \"members\" ".toList =
      _ := String.toList_ofList
    rw [whole]
    exact ⟨[' '], rfl, rfl⟩
  have spanned : ValueList.read
      "1, ');INSERT OR REPLACE INTO \"members\" VALUES (', 3, 4, 5, 6, 7, NULL, NULL".toList =
      .ok (.bare "1".toList ::
        .quoted "');INSERT OR REPLACE INTO \"members\" VALUES ('".toList ::
        ["3", "4", "5", "6", "7", "NULL", "NULL"].map (Value.bare ·.toList)) := by
    have whole :
      "1, ');INSERT OR REPLACE INTO \"members\" VALUES (', 3, 4, 5, 6, 7, NULL, NULL".toList =
      _ := String.toList_ofList
    have literal : "');INSERT OR REPLACE INTO \"members\" VALUES ('".toList = _ :=
      String.toList_ofList
    rw [whole, literal]
    exact ValueList.read_eq_ok_iff.mpr (by decide +kernel)
  have parsedFirst := isLead_members.parse?_write "1, '".toList
  have parsedSecond := isLead_members.parse?_write "', 3, 4, 5, 6, 7, NULL, NULL".toList
  rw [Insert.write_toList rfl] at parsedFirst parsedSecond
  rw [← String.toList_append, ← String.toList_append, ← String.toList_append]
  exact ⟨dropped_of_nameless behindInsert (Insert.write_toList rfl) read_nameless rfl,
    dropped_of_nameless quoted (Insert.write_toList rfl) read_nameless rfl,
    congrArg Option.isSome parsedFirst, congrArg Option.isSome parsedSecond,
    dropped_of_nameless isLead_members (Insert.write_toList rfl) spanned rfl⟩

end Cleaner

end SqlDump
