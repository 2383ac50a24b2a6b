import SqlDump.Insert
import SqlDump.Notice

/-!
# Rules

A rule belongs to one table.  It sees the row of an insert into that table and
decides whether the row is kept as written, replaced by another row, or
dropped.  What it has to report goes into the notices beside the verdict.

`row?` reads the row of a statement, so that of a statement that was written anew it
can be said which row goes into which table.
-/

namespace SqlDump

/-- The row of an insert: its lead, which holds the column list, and its
values. -/
structure Row where
  lead : Text
  values : List Value
  deriving DecidableEq, Repr

namespace Row

def statement (row : Row) : Text :=
  Insert.ofValues row.lead row.values

end Row

inductive Verdict where
  | keep
  | revise (row : Row)
  | drop
  deriving DecidableEq, Repr

structure Rule where
  table : Text
  apply : Row → Verdict × List Notice

namespace Insert

/-- The table and the row of a statement that is an insert with a value list
that can be read. -/
def row? (statement : Text) : Option (Text × Row) :=
  match parse? statement with
  | none => none
  | some insert =>
      match ValueList.read insert.values with
      | .error _ => none
      | .ok values => some (insert.table, ⟨insert.lead, values⟩)

theorem row?_eq_some_iff {statement table : Text} {row : Row} :
    row? statement = some (table, row) ↔
      ∃ list : Text, parse? statement = some ⟨table, row.lead, list⟩ ∧
        ValueList.read list = .ok row.values := by
  rw [row?]
  constructor
  · intro found
    split at found
    · cases found
    · next insert parsed =>
        split at found
        · cases found
        · next values read =>
            cases found
            exact ⟨insert.values, parsed, read⟩
  · rintro ⟨list, parsed, read⟩
    simp only [parsed, read]

end Insert

end SqlDump
