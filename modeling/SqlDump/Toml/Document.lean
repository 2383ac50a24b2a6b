import SqlDump.Toml.Values

/-!
# TOML documents

A document is a list of lines: keys with values, and headers.  The keys in
front of the first header belong to the root, and those behind a header to the
table, or to the new row of a list of tables, that it names.

A table whose header comes behind a longer one takes its place at the end of
the table around it.
-/

namespace SqlDump

namespace Toml

inductive Header where
  | table (key : List Text)
  | row (key : List Text)
  deriving DecidableEq, Repr

inductive Line where
  | pair (key : List Text) (node : Node)
  | header (header : Header)

def pairLine? (text : Text) : Option (Line × Text) :=
  match key? deepest text with
  | some (key, '=' :: behind) =>
      match value? deepest (skipSpaces behind) with
      | none => none
      | some (node, behind) => (afterLine? behind).map fun rest => (.pair key node, rest)
  | _ => none

def headerLine? : Text → Option (Line × Text)
  | '[' :: '[' :: text =>
      match key? deepest text with
      | some (key, ']' :: ']' :: behind) =>
          (afterLine? behind).map fun rest => (.header (.row key), rest)
      | _ => none
  | '[' :: text =>
      match key? deepest text with
      | some (key, ']' :: behind) =>
          (afterLine? behind).map fun rest => (.header (.table key), rest)
      | _ => none
  | _ => none

/-- The lines of a text that say something.  Each of them takes at least one
character, so the length of the text bounds their number. -/
def lines? : (most : Nat) → Text → Option (List Line)
  | 0, text => if skipSpaces text = [] then some [] else none
  | most + 1, text =>
      match skipSpaces text with
      | [] => some []
      | c :: rest =>
          if c = '\n' ∨ c = '\r' ∨ c = '#' then
            (afterLine? (c :: rest)).bind (lines? most)
          else
            match if c = '[' then headerLine? (c :: rest) else pairLine? (c :: rest) with
            | none => none
            | some (line, rest) => (lines? most rest).map (line :: ·)

structure Section where
  header : Header
  pairs : List (List Text × Node)

def divide : List Line → List (List Text × Node) × List Section
  | [] => ([], [])
  | .pair key node :: lines =>
      let (pairs, sections) := divide lines
      ((key, node) :: pairs, sections)
  | .header header :: lines =>
      let (pairs, sections) := divide lines
      ([], ⟨header, pairs⟩ :: sections)

/-- Open a table under a key and fill it.  The key must be new, or be that of
a table implied by a longer header. -/
def addTable (key : Text) (pairs : List (List Text × Node)) (entries : Entries) :
    Option Entries :=
  match entries.find? key with
  | none =>
      (enterAll [] pairs).map fun inner => entries.append key (.table .defined inner)
  | some (.table .impliedByHeader begun) =>
      (enterAll begun pairs).map fun inner =>
        (entries.erase key).append key (.table .defined inner)
  | some _ => none

def addRow (key : Text) (pairs : List (List Text × Node)) (entries : Entries) :
    Option Entries :=
  match entries.find? key with
  | none => (enterAll [] pairs).map fun inner => entries.append key (.tables [inner])
  | some (.tables rows) =>
      (enterAll [] pairs).map fun inner => entries.replace key (.tables (rows ++ [inner]))
  | some _ => none

def addSection (root : Entries) (part : Section) : Option Entries :=
  let (key, add) :=
    match part.header with
    | .table key => (key, addTable)
    | .row key => (key, addRow)
  match key.reverse with
  | [] => none
  | last :: path =>
      descend .header (fun _ entries => add last part.pairs entries) path.reverse .defined root

def document? (text : Text) : Option Entries :=
  let text :=
    match text with
    | c :: rest => if c.toNat = 0xFEFF then rest else text
    | [] => []
  match lines? text.length text with
  | none => none
  | some lines =>
      let (pairs, sections) := divide lines
      (enterAll [] pairs).bind fun root => sections.foldlM addSection root

end Toml

end SqlDump
