import SqlDump.Toml.Strings
import SqlDump.Toml.Numbers
import SqlDump.Toml.Moments

/-!
# TOML values

A value is a string, a number, a truth value, a moment, an array or an inline
table.  Arrays may spread over several lines and hold comments; inline tables
stay on one line.  The depth of values inside one another is bounded, and the
bound carries the recursion.
-/

namespace SqlDump

namespace Toml

def scalarValue? : Text → Option (Node × Text)
  | [] => none
  | c :: rest =>
      if c = '"' ∨ c = '\'' then
        (string? (c :: rest)).map fun (text, rest) => (.string text, rest)
      else if c.isDigit then
        match moment? (c :: rest) with
        | some read => some read
        | none => number? (c :: rest)
      else if c = '+' ∨ c = '-' ∨ c = 'i' ∨ c = 'n' then decimal? (c :: rest)
      else
        match c :: rest with
        | 't' :: 'r' :: 'u' :: 'e' :: rest => some (.boolean true, rest)
        | 'f' :: 'a' :: 'l' :: 's' :: 'e' :: rest => some (.boolean false, rest)
        | _ => none

/-- The text behind blanks, line breaks and comments.  A comment ends with a
line break; `inComment` says that one is going on. -/
def skipLines? : (inComment : Bool) → Text → Option Text
  | true, [] => none
  | false, [] => some []
  | _, '\n' :: rest => skipLines? false rest
  | _, '\r' :: '\n' :: rest => skipLines? false rest
  | true, c :: rest => if isCommentChar c then skipLines? true rest else none
  | false, c :: rest =>
      if c = '#' then skipLines? true rest
      else if isSpace c then skipLines? false rest
      else some (c :: rest)

/-- The items of an array from behind its opening bracket.  A comma may stand
behind the last item. -/
def items? (value? : Text → Option (Node × Text)) :
    (most : Nat) → Text → Option (List Node × Text)
  | 0, _ => none
  | most + 1, text =>
      match skipLines? false text with
      | none => none
      | some (']' :: rest) => some ([], rest)
      | some start =>
          match value? start with
          | none => none
          | some (item, behind) =>
              match skipLines? false behind with
              | some (',' :: rest) =>
                  (items? value? most rest).map fun (items, rest) => (item :: items, rest)
              | some (']' :: rest) => some ([item], rest)
              | _ => none

/-- The keys and values of an inline table from behind its opening brace or a
comma. -/
def pairs? (value? : Text → Option (Node × Text)) :
    (most : Nat) → Text → Option (List (List Text × Node) × Text)
  | 0, _ => none
  | most + 1, text =>
      match key? deepest text with
      | some (key, '=' :: behind) =>
          match value? (skipSpaces behind) with
          | none => none
          | some (node, behind) =>
              match skipSpaces behind with
              | ',' :: rest =>
                  (pairs? value? most rest).map fun (pairs, rest) => ((key, node) :: pairs, rest)
              | '\x7d' :: rest => some ([(key, node)], rest)
              | _ => none
      | _ => none

def enterKey (entries : Entries) (key : List Text) (node : Node) : Option Entries :=
  match key.reverse with
  | [] => none
  | last :: path => enter entries path.reverse last node

def enterAll (entries : Entries) (pairs : List (List Text × Node)) : Option Entries :=
  pairs.foldlM (fun entries (key, node) => enterKey entries key node) entries

def inlineTable? (value? : Text → Option (Node × Text)) (text : Text) : Option (Node × Text) :=
  match skipSpaces text with
  | '\x7d' :: rest => some (.inlineTable [], rest)
  | start =>
      match pairs? value? start.length start with
      | none => none
      | some (pairs, rest) => (enterAll [] pairs).map fun entries => (.inlineTable entries, rest)

/-- The value at the start of a text, with values inside one another down to a
depth. -/
def value? : (depth : Nat) → Text → Option (Node × Text)
  | depth + 1, '[' :: rest =>
      (items? (value? depth) (rest.length + 1) rest).map fun (items, rest) => (.array items, rest)
  | depth + 1, '\x7b' :: rest => inlineTable? (value? depth) rest
  | _, text => scalarValue? text

end Toml

end SqlDump
