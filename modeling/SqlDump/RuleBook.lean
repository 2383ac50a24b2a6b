import SqlDump.Rule.Packages
import SqlDump.Rule.Members

/-!
# Rule books

A rule book holds at most one rule for each table.  Entering a rule replaces
the rule for the same table and leaves the others as they are.
-/

namespace SqlDump

/-- The known rules, the one entered last in front. -/
structure RuleBook where
  rules : List Rule

namespace RuleBook

def empty : RuleBook :=
  ⟨[]⟩

def find? (book : RuleBook) (table : Text) : Option Rule :=
  book.rules.find? (·.table = table)

def erase (book : RuleBook) (table : Text) : RuleBook :=
  ⟨book.rules.filter (·.table ≠ table)⟩

/-- The book with the rule in place of any other rule for the same table. -/
def insert (book : RuleBook) (rule : Rule) : RuleBook :=
  ⟨rule :: (book.erase rule.table).rules⟩

/-- Enter a rule; the rule that it replaces comes out beside the new book. -/
def enter (book : RuleBook) (rule : Rule) : Option Rule × RuleBook :=
  (book.find? rule.table, book.insert rule)

def take (book : RuleBook) (table : Text) : Option Rule × RuleBook :=
  (book.find? table, book.erase table)

/-- The tables with a rule, by code point order. -/
def tables (book : RuleBook) : List Text :=
  (book.rules.map Rule.table).mergeSort Text.le

def ofList (rules : List Rule) : RuleBook :=
  rules.foldl insert empty

def builtIn : RuleBook :=
  ofList [Rule.packages, Rule.members]

theorem find?_erase_of_ne {book : RuleBook} {table other : Text} (ne : other ≠ table) :
    (book.erase table).find? other = book.find? other := by
  simp only [find?, erase, List.find?_filter]
  congr 1
  funext rule
  by_cases same : rule.table = other
  · simp [same, ne]
  · simp [same]

theorem find?_insert_self (book : RuleBook) (rule : Rule) :
    (book.insert rule).find? rule.table = some rule := by
  simp [find?, insert]

theorem find?_insert_of_ne {book : RuleBook} {rule : Rule} {table : Text}
    (ne : rule.table ≠ table) : (book.insert rule).find? table = book.find? table := by
  rw [← @find?_erase_of_ne book rule.table table ne.symm]
  simp [find?, insert, ne]

theorem table_of_find? {book : RuleBook} {table : Text} {rule : Rule}
    (found : book.find? table = some rule) : rule.table = table := by
  simpa using List.find?_some found

end RuleBook

end SqlDump
