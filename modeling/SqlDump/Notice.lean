import SqlDump.Outcome
import SqlDump.ValueList

/-!
# Notices

A notice reports one thing that happened during a pass.  Its level, its
message and its fields are functions of what happened; `source` names the part
of the program that reports it.
-/

namespace SqlDump

/-- The levels of the log, from the most to the least severe. -/
inductive Level where
  | error
  | warn
  | info
  | debug
  | trace
  deriving DecidableEq, Repr

/-- What a field of a notice holds: text shown as it is, text shown in double
quotes, a number or a truth value. -/
inductive Datum where
  | shown (text : Text)
  | quoted (text : Text)
  | number (n : Nat)
  | truth (b : Bool)
  deriving DecidableEq, Repr

inductive Notice where
  /-- The command line has been read and a pass is about to start. -/
  | starting (table : Text) (echo : Bool)
  /-- No rule is known for the chosen table. -/
  | noRule (table : Text)
  /-- A statement is no single-row insert. -/
  | notInsert
  /-- The value list of an insert cannot be read. -/
  | unreadable (table : Text) (misread : Misread)
  /-- A package's columns lack the pair that the price goes before. -/
  | columnsMissing
  /-- A package has a number of values other than the expected one. -/
  | valueCount (count expected : Nat)
  /-- A member has fewer values than the expected number. -/
  | tooFewValues (count expected : Nat)
  /-- A member has neither first nor last name. -/
  | nameless (id : Text)
  /-- A statement has been dealt with. -/
  | handled (table : Text) (treatment : Treatment)
  /-- The input ended inside a statement. -/
  | unfinished (bytes : Nat)
  /-- The pass is over. -/
  | finished (table : Text) (tally : Tally)
  deriving DecidableEq, Repr

namespace Notice

def level : Notice → Level
  | .starting .. => .debug
  | .noRule _ => .debug
  | .notInsert => .debug
  | .unreadable .. => .warn
  | .columnsMissing => .warn
  | .valueCount .. => .warn
  | .tooFewValues .. => .warn
  | .nameless _ => .debug
  | .handled .. => .debug
  | .unfinished _ => .warn
  | .finished .. => .info

def message : Notice → Text
  | .starting .. => "starting rewrite".toList
  | .noRule _ => "no transform registered; all statements pass through".toList
  | .notInsert => "not a single-row INSERT OR REPLACE; passing through".toList
  | .unreadable .. => "value list not understood; passing through".toList
  | .columnsMissing =>
      "column list has no description/display_order pair; passing through".toList
  | .valueCount .. => "unexpected value count; passing through".toList
  | .tooFewValues .. => "too few values; passing through".toList
  | .nameless _ => "member has no name; dropping row".toList
  | .handled .. => "statement processed".toList
  | .unfinished _ => "input ended inside a statement; discarding it".toList
  | .finished .. => "rewrite finished".toList

def fields : Notice → List (String × Datum)
  | .starting table echo => [("table", .shown table), ("echo", .truth echo)]
  | .noRule table => [("table", .shown table)]
  | .notInsert => []
  | .unreadable table misread => [("table", .quoted table), ("error", .shown misread.message)]
  | .columnsMissing => [("table", .quoted "packages".toList)]
  | .valueCount count expected =>
      [("table", .quoted "packages".toList), ("count", .number count),
        ("expected", .number expected)]
  | .tooFewValues count expected =>
      [("table", .quoted "members".toList), ("count", .number count),
        ("expected", .number expected)]
  | .nameless id => [("id", .shown id)]
  | .handled table treatment =>
      [("table", .shown table), ("outcome", .quoted treatment.word)]
  | .unfinished bytes => [("bytes", .number bytes)]
  | .finished table tally =>
      [("table", .shown table), ("statements", .number tally.statements),
        ("rewritten", .number tally.revised), ("passed_through", .number tally.passed),
        ("dropped", .number tally.dropped)]

/-- The name under which the log files the notice. -/
def source : Notice → Text
  | .starting .. => "insert_rewrite".toList
  | .columnsMissing => "insert_rewrite::transform::tables::packages".toList
  | .valueCount .. => "insert_rewrite::transform::tables::packages".toList
  | .tooFewValues .. => "insert_rewrite::transform::tables::members".toList
  | .nameless _ => "insert_rewrite::transform::tables::members".toList
  | _ => "insert_rewrite::rewriter".toList

end Notice

/-! ## Events

Of a notice the log receives an event: a level, a message and fields.  Whoever
reads the log can tell from the outcome field of an event how a statement was
treated. -/

namespace Notice

end Notice

namespace Treatment

end Treatment

namespace Event

end Event

end SqlDump
