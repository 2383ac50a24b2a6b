import SqlDump.Pattern.Escape

/-!
# Brackets in patterns

A bracket lists characters, ranges of them, named classes and further
brackets, and may join such lists by operators.  `readBracket` reads one to
its end and tells how deep it is nested.
-/

namespace SqlDump

namespace Pattern

/-- A bracket that is being read: whether it is negated, whether nothing but
dashes has been read of it, the depth of what stands before the last operator,
and the number and the greatest depth of the items behind that. -/
structure Bracket where
  negated : Bool
  fresh : Bool
  operand? : Option Nat
  count : Nat
  deepest : Nat
  deriving DecidableEq, Repr

namespace Bracket

def add (bracket : Bracket) (depth : Nat) : Bracket :=
  { bracket with
    fresh := false
    count := bracket.count + 1
    deepest := max bracket.deepest depth }

def addDash (bracket : Bracket) : Bracket :=
  { bracket with count := bracket.count + 1 }

def depth (bracket : Bracket) : Nat :=
  let items := if bracket.count ≤ 1 then bracket.deepest else bracket.deepest + 1
  match bracket.operand? with
  | none => items
  | some operand => max operand items + 1

def operate (bracket : Bracket) : Bracket :=
  { bracket with fresh := false, operand? := some bracket.depth, count := 0, deepest := 0 }

/-- The bracket whose text follows an opening bracket, and what follows its
start. -/
def start (mode : Mode) (text : Text) : Bracket × Text :=
  match mode.skip text with
  | '^' :: rest => (⟨true, true, none, 0, 0⟩, rest)
  | rest => (⟨false, true, none, 0, 0⟩, rest)

end Bracket

def classNames : List Text :=
  ["alnum", "alpha", "ascii", "blank", "cntrl", "digit", "graph", "lower", "print", "punct",
    "space", "upper", "word", "xdigit"].map String.toList

/-- Whether the named class that follows an opening bracket is negated, and
what follows it. -/
def namedClass? : Text → Option (Bool × Text)
  | ':' :: text =>
      let (negated, text) := match text with
        | '^' :: rest => (true, rest)
        | rest => (false, rest)
      match text.span (· ≠ ':') with
      | (name, ':' :: ']' :: rest) => if classNames.contains name then some (negated, rest) else none
      | _ => none
  | _ => none

def admitsClass (mode : Mode) (negated : Bool) : Bool :=
  if mode.unicode then !mode.ignoresCase else !negated

def bound? (mode : Mode) : Text → Option (Element × Text)
  | [] => none
  | '\\' :: rest => escape? mode rest
  | c :: rest => some (.character c false, rest)

/-- The next character behind blanks and one number sign. -/
def peek (mode : Mode) (text : Text) : Option Char :=
  if mode.spaced then
    match text.dropWhile Text.isBlank with
    | '#' :: rest => (rest.dropWhile Text.isBlank).head?
    | rest => rest.head?
  else text.head?

def admitsItem (mode : Mode) : Element → Bool
  | .character c _ => mode.admitsInBracket c
  | .kind negated => mode.admits (.kind negated)
  | _ => false

/-- What follows the character or range at the start of a text, if it may
stand in a bracket. -/
def afterItem? (mode : Mode) (text : Text) : Option Text :=
  match bound? mode text with
  | none => none
  | some (first, rest) =>
      let alone := if admitsItem mode first then some (mode.skip rest) else none
      match mode.skip rest with
      | '-' :: beyond =>
          if peek mode beyond = some ']' ∨ peek mode beyond = some '-' then alone
          else
            match first, bound? mode (mode.skip beyond) with
            | .character low _, some (.character high _, after) =>
                if low ≤ high ∧ mode.admitsInBracket low ∧ mode.admitsInBracket high then
                  some after
                else none
            | _, _ => none
      | _ => alone

/-- Whether two equal characters are an operator. -/
def isOperator (c : Char) (rest : Text) : Bool :=
  (c = '&' || c = '-' || c = '~') && rest.head? = some c

/-- The depth of a bracket and what follows it.  The brackets that are open
come innermost first, and no step leaves the text as long as it was. -/
def readBracket (mode : Mode) : Nat → List Bracket → Text → Option (Nat × Text)
  | 0, _, _ => none
  | _, [], _ => none
  | fuel + 1, bracket :: outer, text =>
      match mode.skip text with
      | [] => none
      | c :: rest =>
          if bracket.fresh ∧ c = '-' then
            if mode.admitsInBracket c then readBracket mode fuel (bracket.addDash :: outer) rest
            else none
          else if bracket.fresh ∧ bracket.count = 0 ∧ c = ']' then
            if mode.admitsInBracket c then readBracket mode fuel (bracket.add 0 :: outer) rest
            else none
          else if c = '[' then
            match namedClass? rest with
            | some (negated, after) =>
                if admitsClass mode negated then
                  readBracket mode fuel (bracket.add 0 :: outer) after
                else none
            | none =>
                let (opened, after) := Bracket.start mode rest
                readBracket mode fuel (opened :: bracket :: outer) after
          else if c = ']' then
            if bracket.negated ∧ !mode.unicode then none
            else
              match outer with
              | [] => some (bracket.depth + 1, rest)
              | next :: outer =>
                  readBracket mode fuel (next.add (bracket.depth + 1) :: outer) rest
          else if isOperator c rest then
            readBracket mode fuel (bracket.operate :: outer) (rest.drop 1)
          else
            match afterItem? mode (c :: rest) with
            | none => none
            | some after => readBracket mode fuel (bracket.add 0 :: outer) after

def bracket? (mode : Mode) (text : Text) : Option (Nat × Text) :=
  let (opened, after) := Bracket.start mode text
  readBracket mode (after.length + 1) [opened] after

end Pattern

end SqlDump
