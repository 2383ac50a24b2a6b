import SqlDump.Pattern.Bracket
import SqlDump.Text.Alphanumeric

/-!
# Patterns

A pattern is a regular expression: branches between bars, each a sequence of
elements, brackets and groups, any of which may be repeated.  `isReadable`
says whether a text is one.  Counted repetitions are not read, since they need
a closing brace, which ends the place where a pattern stands.
-/

namespace SqlDump

namespace Pattern

/-- The branch that is being read: the number of its items, the greatest depth
of all but the last, the depth of the last, and whether that one may be
repeated. -/
structure Branch where
  count : Nat
  earlier : Nat
  last : Nat
  repeatable : Bool
  deriving DecidableEq, Repr

namespace Branch

def empty : Branch :=
  ⟨0, 0, 0, false⟩

def add (branch : Branch) (depth : Nat) (repeatable : Bool) : Branch :=
  ⟨branch.count + 1, max branch.earlier branch.last, depth, repeatable⟩

def repeated? (branch : Branch) : Option Branch :=
  if branch.repeatable then some { branch with last := branch.last + 1 } else none

def depth (branch : Branch) : Nat :=
  if branch.count ≤ 1 then branch.last else max branch.earlier branch.last + 1

end Branch

/-- The group that is being read: its mode, the greatest depth of the branches
before the last bar, and the branch behind it. -/
structure Group where
  mode : Mode
  branches? : Option Nat
  branch : Branch
  deriving DecidableEq, Repr

namespace Group

def start (mode : Mode) : Group :=
  ⟨mode, none, .empty⟩

def add (group : Group) (depth : Nat) (repeatable : Bool) : Group :=
  { group with branch := group.branch.add depth repeatable }

def divide (group : Group) : Group :=
  { group with
    branches? := some (max (group.branches?.getD 0) group.branch.depth)
    branch := .empty }

def depth (group : Group) : Nat :=
  match group.branches? with
  | none => group.branch.depth
  | some branches => max branches group.branch.depth + 1

end Group

/-- What has been read of a pattern: the names of its groups, the innermost
open group, and the groups around it. -/
structure Reading where
  names : List Text
  inner : Group
  outer : List Group
  deriving DecidableEq, Repr

namespace Reading

def start : Reading :=
  ⟨[], Group.start .initial, []⟩

def push (reading : Reading) (mode : Mode) : Reading :=
  { reading with inner := .start mode, outer := reading.inner :: reading.outer }

def pushNamed (reading : Reading) (name : Text) : Option Reading :=
  if reading.names.contains name then none
  else some { reading.push reading.inner.mode with names := name :: reading.names }

def pop (reading : Reading) : Option Reading :=
  match reading.outer with
  | [] => none
  | group :: outer =>
      some { reading with inner := group.add (reading.inner.depth + 1) true, outer := outer }

def add (reading : Reading) (depth : Nat) (repeatable : Bool) : Reading :=
  { reading with inner := reading.inner.add depth repeatable }

end Reading

/-- The flags at the start of a text, the character that ends them, and what
follows.  No flag is named twice, and no dash stands last. -/
def flags? (seen : Text) : Text → Option (Text × Char × Text)
  | [] => none
  | c :: rest =>
      if c = ':' ∨ c = ')' then
        if seen.getLast? = some '-' then none else some (seen, c, rest)
      else if "-imsUuRx".toList.contains c && !seen.contains c then flags? (seen ++ [c]) rest
      else none

def startsName (c : Char) : Bool :=
  c = '_' || Text.isAlphabetic c

def continuesName (c : Char) : Bool :=
  c = '_' || c = '.' || c = '[' || c = ']' || Text.isAlphanumeric c

def name? (text : Text) : Option (Text × Text) :=
  match text.span (· ≠ '>') with
  | (c :: name, _ :: rest) =>
      if startsName c && name.all continuesName then some (c :: name, rest) else none
  | _ => none

/-- Read what stands behind a parenthesis and a question mark: flags, for all
that follows or for a group. -/
def readFlags (reading : Reading) (text : Text) : Option (Reading × Text) :=
  match flags? [] text with
  | none => none
  | some ([], ')', _) => none
  | some (flags, c, rest) =>
      let mode := reading.inner.mode.setAll true flags
      if c = ')' then
        some ({ reading with inner := { reading.inner.add 0 false with mode := mode } }, rest)
      else some (reading.push mode, rest)

/-- Read what stands behind an opening parenthesis.  A group cannot look ahead
or back. -/
def openGroup (reading : Reading) (text : Text) : Option (Reading × Text) :=
  let named (text : Text) : Option (Reading × Text) :=
    match name? text with
    | none => none
    | some (name, rest) => (reading.pushNamed name).map fun reading => (reading, rest)
  match reading.inner.mode.skip text with
  | '?' :: '=' :: _ => none
  | '?' :: '!' :: _ => none
  | '?' :: '<' :: '=' :: _ => none
  | '?' :: '<' :: '!' :: _ => none
  | '?' :: 'P' :: '<' :: rest => named rest
  | '?' :: '<' :: rest => named rest
  | '?' :: rest => readFlags reading rest
  | rest => some (reading.push reading.inner.mode, rest)

def element? (mode : Mode) (c : Char) (rest : Text) : Option (Element × Text) :=
  if c = '\\' then escape? mode rest
  else if c = '.' then some (.any, rest)
  else if c = '^' ∨ c = '$' then some (.place false, rest)
  else if c = '\x7b' then none
  else some (.character c false, rest)

def step? (reading : Reading) (c : Char) (rest : Text) : Option (Reading × Text) :=
  let mode := reading.inner.mode
  if c = '(' then openGroup reading rest
  else if c = ')' then reading.pop.map fun reading => (reading, rest)
  else if c = '|' then some ({ reading with inner := reading.inner.divide }, rest)
  else if c = '[' then
    (bracket? mode rest).map fun (depth, after) => (reading.add depth true, after)
  else if c = '?' ∨ c = '*' ∨ c = '+' then
    reading.inner.branch.repeated?.map fun branch =>
      ({ reading with inner := { reading.inner with branch := branch } },
        match rest with
        | '?' :: after => after
        | _ => rest)
  else
    match element? mode c rest with
    | none => none
    | some (element, after) =>
        if mode.admits element then some (reading.add 0 true, after) else none

/-- The depth of the pattern that a text goes on with.  No step leaves the
text as long as it was. -/
def readFrom (reading : Reading) : Nat → Text → Option Nat
  | 0, _ => none
  | fuel + 1, text =>
      match reading.inner.mode.skip text with
      | [] => if reading.outer = [] then some reading.inner.depth else none
      | c :: rest =>
          match step? reading c rest with
          | none => none
          | some (next, after) => readFrom next fuel after

def deepest : Nat :=
  250

def isReadable (text : Text) : Bool :=
  (readFrom .start (text.length + 1) text).any (· ≤ deepest)

end Pattern

end SqlDump
