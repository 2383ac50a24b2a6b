import SqlDump.Proofs.Cleaner.Members
import SqlDump.Proofs.Cleaner.Packages

/-!
# Warnings

A cleaner with a built-in rule warns of an insert into its table that it cannot
treat: the value list cannot be read, or the row falls short of what the rule
asks of it.  Such a statement passes, and the warning is all that is reported on
it.  A statement that passes without any report is one that needs no treatment.
-/

namespace SqlDump

namespace Rule

end Rule

/-! ## What the built-in rules report -/

namespace Packages

end Packages

namespace Members

end Members

namespace Rule

variable {rule : Rule}

end Rule

namespace Cleaner

variable {cleaner : Cleaner} {rule : Rule} {statement : Text} {row : Row} {notice : Notice}

/-- The cleaner has the rule that is built in for the table of its settings, if any. -/
def IsBuiltIn (cleaner : Cleaner) : Prop :=
  cleaner.rule? = RuleBook.builtIn.find? cleaner.settings.table

theorem IsBuiltIn.known (isBuiltIn : cleaner.IsBuiltIn) (ruled : cleaner.rule? = some rule) :
    rule.table = cleaner.settings.table ∧ (rule = Rule.packages ∨ rule = Rule.members) := by
  have found : RuleBook.builtIn.find? cleaner.settings.table = some rule :=
    isBuiltIn.symm.trans ruled
  exact ⟨RuleBook.table_of_find? found, RuleBook.eq_packages_or_eq_members found⟩

end Cleaner

end SqlDump
