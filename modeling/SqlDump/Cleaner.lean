import SqlDump.RuleBook
import SqlDump.Settings

/-!
# Cleaners

A cleaner treats one statement after another by the rule for the table of its
settings.  Only a single-row insert into that table, with a value list that
can be read, is shown to the rule; every other statement passes unchanged.
-/

namespace SqlDump

/-- Settings and the rule for their table, if there is one.  Labels are dimmed
only where colors are allowed at all. -/
structure Cleaner where
  settings : Settings
  rule? : Option Rule
  colorAllowed : Bool

namespace Cleaner

def ofBook (settings : Settings) (book : RuleBook) : Cleaner :=
  ⟨settings, book.find? settings.table, true⟩

def ofSettings (settings : Settings) : Cleaner :=
  ofBook settings RuleBook.builtIn

def opening (cleaner : Cleaner) : List Notice :=
  match cleaner.rule? with
  | some _ => []
  | none => [.noRule cleaner.settings.table]

def outcome (statement : Text) : Verdict → Outcome
  | .keep => .passed statement
  | .revise row => .revised row.statement
  | .drop => .dropped

def process (cleaner : Cleaner) (statement : Text) : Outcome × List Notice :=
  match cleaner.rule? with
  | none => (.passed statement, [])
  | some rule =>
      match Insert.parse? statement with
      | none => (.passed statement, [.notInsert])
      | some insert =>
          if insert.table = rule.table then
            match ValueList.read insert.values with
            | .error misread => (.passed statement, [.unreadable insert.table misread])
            | .ok values =>
                let (verdict, notices) := rule.apply ⟨insert.lead, values⟩
                (outcome statement verdict, notices)
          else
            (.passed statement, [])

end Cleaner

end SqlDump
