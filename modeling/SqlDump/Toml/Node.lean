import SqlDump.Number

/-!
# TOML nodes

A TOML document is a table of keys and nodes, kept in the order in which the
keys were entered.  Besides what it holds, a table remembers how it came into
being, since that decides what may still be added to it: a table with a header
of its own, or one that only follows from a longer header or from a dotted key.

`descend` walks down a path of keys, makes the tables that are missing and
changes the one at the end.  It answers nothing where the path or the change
is not allowed.
-/

namespace SqlDump

namespace Toml

/-- How a table came into being. -/
inductive Standing where
  | defined
  | impliedByHeader
  | impliedByKey
  deriving DecidableEq, Repr

inductive Node where
  | string (text : Text)
  | integer (n : Int)
  | float (x : Binary64)
  | boolean (b : Bool)
  | moment (text : Text)
  | array (items : List Node)
  | inlineTable (entries : List (Text × Node))
  | table (standing : Standing) (entries : List (Text × Node))
  | tables (rows : List (List (Text × Node)))

abbrev Entries := List (Text × Node)

namespace Entries

def find? (entries : Entries) (key : Text) : Option Node :=
  (List.find? (·.1 = key) entries).map (·.2)

def replace (entries : Entries) (key : Text) (node : Node) : Entries :=
  entries.map fun entry => if entry.1 = key then (key, node) else entry

def erase (entries : Entries) (key : Text) : Entries :=
  entries.filter (·.1 ≠ key)

def append (entries : Entries) (key : Text) (node : Node) : Entries :=
  entries ++ [(key, node)]

end Entries

/-- Which kind of path is walked: one of a header or one of a dotted key. -/
inductive Route where
  | header
  | dotted
  deriving DecidableEq, Repr

namespace Route

def standing : Route → Standing
  | .header => .impliedByHeader
  | .dotted => .impliedByKey

end Route

/-- Change the table at the end of a path.  A header leads through any table
and into the last row of a list of tables; a dotted key does not lead through
a table with a header of its own. -/
def descend (route : Route) (change : Standing → Entries → Option Entries) :
    (path : List Text) → Standing → Entries → Option Entries
  | [], standing, entries => change standing entries
  | key :: path, _, entries =>
      match entries.find? key with
      | none =>
          (descend route change path route.standing []).map fun inner =>
            entries.append key (.table route.standing inner)
      | some (.table standing inner) =>
          if route = .dotted ∧ standing = .defined then none
          else
            (descend route change path standing inner).map fun inner =>
              entries.replace key (.table standing inner)
      | some (.tables rows) =>
          match rows.reverse with
          | [] => none
          | last :: others =>
              (descend route change path .defined last).map fun inner =>
                entries.replace key (.tables (others.reverse ++ [inner]))
      | some _ => none

/-- Enter a node under a dotted key.  The key must be new, and a table that is
reached by dots must have come into being by dots. -/
def enter (entries : Entries) (path : List Text) (key : Text) (node : Node) : Option Entries :=
  descend .dotted
    (fun standing inner =>
      if (standing = .impliedByKey) ↔ path = [] then none
      else if (inner.find? key).isSome then none
      else some (inner.append key node))
    path .defined entries

end Toml

end SqlDump
