import SqlDump.Rule
import SqlDump.Rule.Price

/-!
# The rule for packages

A package row has an id, a name, a description and a display order.  The rule
adds a price column in front of the description: the price found in the
description, or null if there is none.
-/

namespace SqlDump

namespace Packages

def table : Text :=
  "packages".toList

def columns : Text :=
  "\"description\", \"display_order\"".toList

def pricedColumns : Text :=
  "\"price\", \"description\", \"display_order\"".toList

def valueCount : Nat :=
  4

/-- The price of a description and the description that goes with it.  A
description without a price is left as it was written. -/
def priced (description : Value) : Value × Value :=
  match Price.split? description.content with
  | some (price, cleaned) => (.bare price, Value.quote cleaned)
  | none => (Value.null, description)

def pricedLead (lead : Text) : Text :=
  Text.replaceAll columns pricedColumns lead

def apply (row : Row) : Verdict × List Notice :=
  if Text.contains columns row.lead then
    match row.values with
    | [id, name, description, order] =>
        let (price, cleaned) := priced description
        (.revise ⟨pricedLead row.lead, [id, name, price, cleaned, order]⟩, [])
    | values => (.keep, [.valueCount values.length valueCount])
  else
    (.keep, [.columnsMissing])

end Packages

namespace Rule

def packages : Rule :=
  ⟨Packages.table, Packages.apply⟩

end Rule

/-! ## Priced columns

A lead that names its columns says which value goes into which column.  So it can be
said what the column list of a package insert is when the price column has been put
in, and when the columns of the new row still fit its values. -/

namespace Packages

/-- The columns with the price in front of each description that the display
order follows. -/
def withPrice : List Text → List Text
  | [] => []
  | [column] => [column]
  | column :: following :: rest =>
      if column = "description".toList ∧ following = "display_order".toList then
        "price".toList :: column :: following :: withPrice rest
      else
        column :: withPrice (following :: rest)

/-- New columns and values, with the price in the third and the description in
the fourth place, belong together like the old ones. -/
structure IsAligned (columns : List Text) (values : List Value) (newColumns : List Text)
    (newValues : List Value) : Prop where
  /-- Each column has a value. -/
  count : newColumns.length = newValues.length
  /-- The price goes into the price column. -/
  price : newColumns[2]? = some "price".toList
  /-- The description goes into its column. -/
  description : newColumns[3]? = some "description".toList
  /-- What went into any other column goes there again. -/
  others : ∀ (column : Text) (value : Value), column ≠ "description".toList →
    (column, value) ∈ columns.zip values → (column, value) ∈ newColumns.zip newValues

theorem withPrice_pair (rest : List Text) :
    withPrice ("description".toList :: "display_order".toList :: rest) =
      "price".toList :: "description".toList :: "display_order".toList :: withPrice rest := by
  rw [withPrice, if_pos ⟨rfl, rfl⟩]

theorem withPrice_cons {column following : Text} (rest : List Text)
    (other : ¬ (column = "description".toList ∧ following = "display_order".toList)) :
    withPrice (column :: following :: rest) = column :: withPrice (following :: rest) := by
  rw [withPrice, if_neg other]

theorem withPrice_cons_ne_nil (column : Text) (rest : List Text) :
    withPrice (column :: rest) ≠ [] := by
  cases rest with
  | nil => exact List.cons_ne_nil _ _
  | cons following rest =>
      rw [withPrice]
      split <;> exact List.cons_ne_nil _ _

end Packages

end SqlDump
