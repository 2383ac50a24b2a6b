import SqlDump.ValueList

/-!
# Readers put together

What can be read of a value list is said here with few means: a word, a longest run
of characters of one kind, one reader or else another, one reader behind another, and
repetition.  A reader is repeated until it refuses.  If it accepts without taking
anything it could be repeated for ever, and repetition stalls.
-/

namespace SqlDump

inductive Halt where
  /-- The text does not start with what is to be read. -/
  | refused
  /-- Something takes nothing and is to be repeated. -/
  | stalled
  deriving DecidableEq, Repr

/-- A reader that accepts gives back what follows the part that it takes. -/
abbrev Reader :=
  Text → Except Halt Text

namespace Reader

def ofOption (after? : Text → Option Text) : Reader := fun text =>
  match after? text with
  | some rest => .ok rest
  | none => .error .refused

def word (head : Text) : Reader :=
  ofOption (Text.after? head)

/-- Read a longest run of characters of a kind, at least one. -/
def run (kind : Char → Bool) : Reader
  | [] => .error .refused
  | c :: rest => if kind c then .ok (rest.dropWhile kind) else .error .refused

def orElse (first second : Reader) : Reader := fun text =>
  match first text with
  | .ok rest => .ok rest
  | .error _ => second text

def andThen (first second : Reader) : Reader := fun text =>
  match first text with
  | .ok rest => second rest
  | .error halt => .error halt

/-- Read again and again, until the reader does not accept. -/
def many (reader : Reader) (text : Text) : Except Halt Text :=
  match reader text with
  | .error _ => .ok text
  | .ok rest =>
      if _shorter : rest.length < text.length then many reader rest
      else .error .stalled
termination_by text.length

def taken (text rest : Text) : Text :=
  text.take (text.length - rest.length)

/-- Read an item behind each separator, as long as both readers accept.  A separator
without an item behind it is left. -/
def further (separator item : Reader) (text : Text) : Except Halt (List Text × Text) :=
  match separator text with
  | .error _ => .ok ([], text)
  | .ok after =>
      if _shorter : after.length < text.length then
        match item after with
        | .error _ => .ok ([], text)
        | .ok rest =>
            if _behind : rest.length ≤ after.length then
              (further separator item rest).map fun (items, last) =>
                (taken after rest :: items, last)
            else .error .stalled
      else .error .stalled
termination_by text.length

def separated (separator item : Reader) (text : Text) : Except Halt (List Text × Text) :=
  match item text with
  | .error _ => .ok ([], text)
  | .ok rest =>
      (further separator item rest).map fun (items, last) => (taken text rest :: items, last)

/-! ## Literals, groups and fields -/

/-- A part of a literal: a run of characters other than quotes, or two quotes. -/
def literalPart : Reader :=
  orElse (run (· ≠ '\'')) (word "''".toList)

def literal : Reader :=
  andThen (word ['\'']) (andThen (many literalPart) (word ['\'']))

def isInner (c : Char) : Bool :=
  c ≠ '\'' && c ≠ '(' && c ≠ ')'

/-- A part of a group: a literal, a group, or a run of other characters. -/
def groupPart (group : Reader) : Reader :=
  orElse literal (orElse group (run isInner))

/-- A group: parts of it between two parentheses.  The groups inside are read with a
reader for groups. -/
def groupOf (group : Reader) : Reader :=
  andThen (word ['(']) (andThen (many (groupPart group)) (word [')']))

def segment (group : Reader) : Reader :=
  orElse literal (orElse group (run ValueList.isPlain))

def field (group : Reader) : Reader :=
  many (segment group)

end Reader

end SqlDump
