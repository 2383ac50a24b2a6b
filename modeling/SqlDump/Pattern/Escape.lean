import SqlDump.Text.Blank

/-!
# Escapes in patterns

A pattern is a regular expression.  This module reads what a backslash starts,
and says in which mode each single element may stand.  Elements that rest on
knowledge of Unicode are refused: letter case and the classes of digits,
blanks and word characters are known for bytes only.
-/

namespace SqlDump

namespace Pattern

/-- How a part of a pattern is read: whether letter case counts, whether
characters or bytes are meant, and whether blanks and comments are passed
over. -/
structure Mode where
  ignoresCase : Bool
  unicode : Bool
  spaced : Bool
  deriving DecidableEq, Repr

/-- One element of a pattern.  A character may be written as the byte that it
is; a class of characters may be negated; a place may depend on what a word
is. -/
inductive Element where
  | character (c : Char) (asByte : Bool)
  | kind (negated : Bool)
  | place (ofWord : Bool)
  | any
  deriving DecidableEq, Repr

/-- The text from the first character that is neither blank nor part of a
comment.  A comment goes from a number sign to the end of its line. -/
def skipFrom (inComment : Bool) : Text → Text
  | [] => []
  | c :: rest =>
      if inComment then skipFrom (c ≠ '\n') rest
      else if c = '#' then skipFrom true rest
      else if Text.isBlank c then skipFrom false rest
      else c :: rest

namespace Mode

def initial : Mode :=
  ⟨false, true, false⟩

def skip (mode : Mode) (text : Text) : Text :=
  if mode.spaced then skipFrom false text else text

def set (mode : Mode) (flag : Char) (on : Bool) : Mode :=
  if flag = 'i' then { mode with ignoresCase := on }
  else if flag = 'u' then { mode with unicode := on }
  else if flag = 'x' then { mode with spaced := on }
  else mode

def setAll (mode : Mode) (on : Bool) : Text → Mode
  | [] => mode
  | flag :: flags =>
      if flag = '-' then mode.setAll false flags else (mode.set flag on).setAll on flags

def admits (mode : Mode) : Element → Bool
  | .character c asByte =>
      if mode.unicode then !mode.ignoresCase else !asByte || c.toNat < 0x80
  | .kind negated => !mode.unicode && !negated
  | .place ofWord => !(ofWord && mode.unicode)
  | .any => mode.unicode

def admitsInBracket (mode : Mode) (c : Char) : Bool :=
  if mode.unicode then !mode.ignoresCase else c.toNat < 0x80

end Mode

def hexValue? (c : Char) : Option Nat :=
  if '0' ≤ c ∧ c ≤ '9' then some (c.toNat - '0'.toNat)
  else if 'a' ≤ c ∧ c ≤ 'f' then some (c.toNat - 'a'.toNat + 10)
  else if 'A' ≤ c ∧ c ≤ 'F' then some (c.toNat - 'A'.toNat + 10)
  else none

def hexNumber? (mode : Mode) (number : Nat) : Nat → Text → Option (Nat × Text)
  | 0, text => some (number, text)
  | count + 1, text =>
      match mode.skip text with
      | [] => none
      | c :: rest => (hexValue? c).bind fun digit => hexNumber? mode (number * 16 + digit) count rest

def hexCharacter? (mode : Mode) (count : Nat) (text : Text) : Option (Element × Text) :=
  match hexNumber? mode 0 count text with
  | none => none
  | some (number, rest) =>
      if number.isValidChar then some (.character (Char.ofNat number) (count = 2), rest) else none

/-- Whether a character stands for itself behind a backslash: any ASCII
character but letters, digits and angle brackets. -/
def isLiteralEscape (c : Char) : Bool :=
  c.toNat < 0x80 && !c.isAlphanum && c ≠ '<' && c ≠ '>'

def controlEscape? : Char → Option Char
  | 'a' => some '\x07'
  | 'f' => some '\x0c'
  | 't' => some '\t'
  | 'n' => some '\n'
  | 'r' => some '\r'
  | 'v' => some '\x0b'
  | _ => none

def escape? (mode : Mode) : Text → Option (Element × Text)
  | [] => none
  | c :: rest =>
      if c = 'x' then hexCharacter? mode 2 rest
      else if c = 'u' then hexCharacter? mode 4 rest
      else if c = 'U' then hexCharacter? mode 8 rest
      else if c = 'd' ∨ c = 's' ∨ c = 'w' then some (.kind false, rest)
      else if c = 'D' ∨ c = 'S' ∨ c = 'W' then some (.kind true, rest)
      else if c = 'A' ∨ c = 'z' then some (.place false, rest)
      else if c = 'b' ∨ c = 'B' ∨ c = '<' ∨ c = '>' then some (.place true, rest)
      else if isLiteralEscape c then some (.character c false, rest)
      else (controlEscape? c).map fun control => (.character control false, rest)

end Pattern

end SqlDump
