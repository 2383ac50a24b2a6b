import SqlDump.Text.Search

/-!
# Help

The texts that the program shows about itself.  They are composed with styles,
and shown without them.

Text for a terminal holds control sequences, which start with an escape
character and show nothing.  `plain` leaves them out, and other control
characters but white space with them.

White space inside a sequence shows.  What follows it shows too, up to the
next character that does not, from where the sequence goes on.
-/

namespace SqlDump

namespace Styled

/-- The places in and outside a control sequence.  A sequence of the first kind
starts with a bracket, one of the second kind with `P`.  A string is the body
of a sequence of the second kind, or of one without parameters; a title is a
string of its own kind. -/
inductive Place where
  | outside
  | escape
  | escapeMiddle
  | control
  | controlParameter
  | controlMiddle
  | controlSkipped
  | device
  | deviceParameter
  | deviceMiddle
  | string
  | title
  deriving DecidableEq, Repr

namespace Place

/-- The place behind an ASCII character, if it is another one.  The cancelling
characters end each sequence, and an escape starts a new one. -/
def behind? (place : Place) (c : Char) : Option Place :=
  let within (low high : Nat) : Bool := low ≤ c.toNat && c.toNat ≤ high
  if c = '\x18' ∨ c = '\x1a' then some .outside
  else if c = '\x1b' then some .escape
  else
    match place with
    | .outside => none
    | .escape =>
        if within 0x20 0x2F then some .escapeMiddle
        else if c = '[' then some .control
        else if c = ']' then some .title
        else if c = 'P' then some .device
        else if c = 'X' ∨ c = '^' ∨ c = '_' then some .string
        else if within 0x30 0x7E then some .outside
        else none
    | .escapeMiddle => if within 0x30 0x7E then some .outside else none
    | .control =>
        if within 0x20 0x2F then some .controlMiddle
        else if within 0x30 0x3F then some .controlParameter
        else if within 0x40 0x7E then some .outside
        else none
    | .controlParameter =>
        if within 0x20 0x2F then some .controlMiddle
        else if within 0x3C 0x3F then some .controlSkipped
        else if within 0x40 0x7E then some .outside
        else none
    | .controlMiddle =>
        if within 0x30 0x3F then some .controlSkipped
        else if within 0x40 0x7E then some .outside
        else none
    | .controlSkipped => if within 0x40 0x7E then some .outside else none
    | .device =>
        if within 0x20 0x2F then some .deviceMiddle
        else if within 0x30 0x3F then some .deviceParameter
        else if within 0x40 0x7E then some .string
        else none
    | .deviceParameter =>
        if within 0x20 0x2F then some .deviceMiddle
        else if within 0x3C 0x7E then some .string
        else none
    | .deviceMiddle => if within 0x30 0x7E then some .string else none
    | .string => none
    | .title => if c = '\x07' then some .outside else none

/-- The place behind a character beyond ASCII.  A string ends at the byte
`9C`. -/
def behindWide (place : Place) (c : Char) : Place :=
  if place = .string ∧ (String.utf8EncodeChar c).contains 0x9C then .outside else place

def showsSpace : Place → Bool
  | .device => false
  | .deviceParameter => false
  | .deviceMiddle => false
  | .string => false
  | .title => false
  | _ => true

def shows (place : Place) (c : Char) : Bool :=
  if c = '\t' ∨ c = '\n' ∨ c = '\x0c' ∨ c = '\r' then place.showsSpace
  else place = .outside && 0x20 ≤ c.toNat && c.toNat ≤ 0x7E

end Place

/-- The text without what does not show.  `place` is where the reader is, and
`showing` says that the last character showed. -/
def plainFrom (place : Place) (showing : Bool) : Text → Text
  | [] => []
  | c :: rest =>
      if c.toNat < 0x80 then
        if showing then
          if Place.outside.shows c then c :: plainFrom place true rest
          else
            let reached := (Place.outside.behind? c).getD place
            plainFrom ((reached.behind? c).getD reached) false rest
        else if place.shows c then c :: plainFrom place true rest
        else plainFrom ((place.behind? c).getD place) false rest
      else if showing ∨ place = .outside then c :: plainFrom .outside true rest
      else plainFrom (place.behindWide c) false rest

def plain (text : Text) : Text :=
  plainFrom .outside false text

def bold (text : Text) : Text :=
  "\x1b[1m".toList ++ text ++ "\x1b[0m".toList

def heading (text : Text) : Text :=
  "\x1b[1m\x1b[4m".toList ++ text ++ "\x1b[0m".toList

end Styled

/-! ## The help -/

namespace CommandLine

def versionText : Text :=
  "insert-rewrite 0.1.0\n".toList

def descriptionColumn : Nat :=
  25

def description (text : Text) : Text :=
  Text.replaceAll ['\n'] ('\n' :: List.replicate descriptionColumn ' ') text

def introduction : Text :=
  "Rewrite INSERT OR REPLACE statements from a SQLite dump\n\n".toList ++
    Styled.heading "Usage:".toList ++ [' '] ++
    Styled.bold "insert-rewrite".toList ++ " [OPTIONS] [TABLE]\n\n".toList ++
    Styled.heading "Arguments:".toList ++
    "\n  [TABLE]  Table to rewrite; statements for other tables pass through\n\n".toList

def notes : Text :=
  ("TABLES:\n" ++
    "    packages    add a price column taken from **N** in the description\n" ++
    "    members     drop rows without a name, fill NULL names and government id\n\n" ++
    "Statements are read from stdin and written to stdout. Every statement is\n" ++
    "echoed to stderr as 'Original:' and 'Processed:'. Set RUST_LOG=debug for\n" ++
    "per-statement logging.\n").toList

/-- The options, of which the first shows the file that the environment
names. -/
def options (environment? : Option Text) : Text :=
  Styled.heading "Options:".toList ++ "\n      ".toList ++
    Styled.bold "--config".toList ++ " <CONFIG>  ".toList ++
    description ("TOML file with rewriter settings (table, echo, color) ".toList ++
      "[env: INSERT_REWRITE_CONFIG=".toList ++ environment?.getD [] ++ [']']) ++
    "\n  ".toList ++ Styled.bold "-h".toList ++ ", ".toList ++ Styled.bold "--help".toList ++
    "             Print help\n  ".toList ++
    Styled.bold "-V".toList ++ ", ".toList ++ Styled.bold "--version".toList ++
    "          Print version\n\n".toList

def helpText (environment? : Option Text) : Text :=
  Styled.plain (introduction ++ options environment? ++ notes)

end CommandLine

end SqlDump
