import SqlDump.Rule

/-!
# The rule for members

A member row has at least nine values: id, package, card, government id, two
dates, year of birth, first name and last name.  A member without any name is
dropped.  A missing government id, first name or last name is filled in.
-/

namespace SqlDump

namespace Members

def table : Text :=
  "members".toList

def governmentId : Nat :=
  3

def firstName : Nat :=
  7

def lastName : Nat :=
  8

def leastCount : Nat :=
  9

def missing : Value :=
  Value.quote "MISSING".toList

/-- The positions whose null values are filled in. -/
def identity : List Nat :=
  [governmentId, firstName, lastName]

def isNullAt (values : List Value) (position : Nat) : Bool :=
  values[position]?.any Value.isNull

def fill (values : List Value) : List Value :=
  values.mapIdx fun position value =>
    if identity.contains position && value.isNull then missing else value

def idText (values : List Value) : Text :=
  (values.head?.map Value.text).getD []

def apply (row : Row) : Verdict × List Notice :=
  if row.values.length < leastCount then
    (.keep, [.tooFewValues row.values.length leastCount])
  else if isNullAt row.values firstName && isNullAt row.values lastName then
    (.drop, [.nameless (idText row.values)])
  else if identity.any (isNullAt row.values) then
    (.revise { row with values := fill row.values }, [])
  else
    (.keep, [])

end Members

namespace Rule

def members : Rule :=
  ⟨Members.table, Members.apply⟩

end Rule

end SqlDump
