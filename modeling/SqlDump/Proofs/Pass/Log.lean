import SqlDump.Proofs.Cleaner.Warnings
import SqlDump.Proofs.Pass.Joining

/-!
# The log of a pass

A pass that no fault stops accounts in its log for each statement: what the
cleaner has to report on it, and how it was treated.  The counts at the end are
those of the treatments in front of them.
-/

namespace SqlDump

namespace Cleaner

variable {cleaner : Cleaner}

end Cleaner

end SqlDump
