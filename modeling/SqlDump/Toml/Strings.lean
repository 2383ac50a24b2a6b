import SqlDump.Text

/-!
# TOML strings and keys

Strings come in four forms: basic ones between double quotes, with escapes,
and literal ones between single quotes, without; each of them on one line or,
between three quotes, on several.  Keys are bare words or one-line strings,
with dots between them.

Every reader gives back what it has read and the rest of the text.
-/

namespace SqlDump

namespace Toml

def isSpace (c : Char) : Bool :=
  c = ' ' || c = '\t'

def skipSpaces (text : Text) : Text :=
  text.dropWhile isSpace

def afterBreak? : Text → Option Text
  | '\n' :: rest => some rest
  | '\r' :: '\n' :: rest => some rest
  | _ => none

/-- The characters of a comment: everything but control characters, except the
tab. -/
def isCommentChar (c : Char) : Bool :=
  c = '\t' || (0x20 ≤ c.toNat && c ≠ '\x7f')

def isBasicChar (c : Char) : Bool :=
  isCommentChar c && c ≠ '"' && c ≠ '\\'

def isLiteralChar (c : Char) : Bool :=
  isCommentChar c && c ≠ '\''

def isBareChar (c : Char) : Bool :=
  c.isAlphanum || c = '_' || c = '-'

def hexDigit? (c : Char) : Option Nat :=
  if c.isDigit then some (c.toNat - '0'.toNat)
  else if 'a' ≤ c ∧ c ≤ 'f' then some (c.toNat - 'a'.toNat + 10)
  else if 'A' ≤ c ∧ c ≤ 'F' then some (c.toNat - 'A'.toNat + 10)
  else none

def hexNumber? (digits : List Char) : Option Nat :=
  digits.foldlM (fun n c => (hexDigit? c).map (n * 16 + ·)) 0

/-- The character with the code point given in hexadecimal.  Surrogates are no
characters. -/
def scalar? (digits : List Char) : Option Char :=
  match hexNumber? digits with
  | none => none
  | some n => if n.isValidChar then some (Char.ofNat n) else none

def escape? : Char → Option Char
  | 'b' => some '\x08'
  | 't' => some '\t'
  | 'n' => some '\n'
  | 'f' => some '\x0c'
  | 'r' => some '\r'
  | '"' => some '"'
  | '\\' => some '\\'
  | _ => none

def cons? (c? : Option Char) (read? : Option (Text × Text)) : Option (Text × Text) :=
  match c?, read? with
  | some c, some (text, rest) => some (c :: text, rest)
  | _, _ => none

def basic? : Text → Option (Text × Text)
  | [] => none
  | '"' :: rest => some ([], rest)
  | '\\' :: 'u' :: a :: b :: c :: d :: rest => cons? (scalar? [a, b, c, d]) (basic? rest)
  | '\\' :: 'U' :: a :: b :: c :: d :: e :: f :: g :: h :: rest =>
      cons? (scalar? [a, b, c, d, e, f, g, h]) (basic? rest)
  | '\\' :: c :: rest => cons? (escape? c) (basic? rest)
  | c :: rest => cons? (if isBasicChar c then some c else none) (basic? rest)

def literal? (text : Text) : Option (Text × Text) :=
  match text.dropWhile isLiteralChar with
  | '\'' :: rest => some (text.takeWhile isLiteralChar, rest)
  | _ => none

/-- A basic string of several lines from behind its opening quotes.  Up to two
quotes stand for themselves, also right in front of the closing ones.  A
backslash at the end of a line skips to the next character that is neither
blank nor a line break; `skipping` says that this is going on. -/
def longBasic? : (skipping : Bool) → Text → Option (Text × Text)
  | _, [] => none
  | _, '"' :: '"' :: '"' :: '"' :: '"' :: rest => some (['"', '"'], rest)
  | _, '"' :: '"' :: '"' :: '"' :: rest => some (['"'], rest)
  | _, '"' :: '"' :: '"' :: rest => some ([], rest)
  | _, '"' :: rest => cons? (some '"') (longBasic? false rest)
  | skipping, '\r' :: '\n' :: rest =>
      if skipping then longBasic? true rest else cons? (some '\n') (longBasic? false rest)
  | skipping, '\n' :: rest =>
      if skipping then longBasic? true rest else cons? (some '\n') (longBasic? false rest)
  | _, '\\' :: 'u' :: a :: b :: c :: d :: rest =>
      cons? (scalar? [a, b, c, d]) (longBasic? false rest)
  | _, '\\' :: 'U' :: a :: b :: c :: d :: e :: f :: g :: h :: rest =>
      cons? (scalar? [a, b, c, d, e, f, g, h]) (longBasic? false rest)
  | _, '\\' :: c :: rest =>
      if (afterBreak? (skipSpaces (c :: rest))).isSome then longBasic? true (c :: rest)
      else cons? (escape? c) (longBasic? false rest)
  | skipping, c :: rest =>
      if skipping && isSpace c then longBasic? true rest
      else cons? (if isBasicChar c then some c else none) (longBasic? false rest)

def longLiteral? : Text → Option (Text × Text)
  | [] => none
  | '\'' :: '\'' :: '\'' :: '\'' :: '\'' :: rest => some (['\'', '\''], rest)
  | '\'' :: '\'' :: '\'' :: '\'' :: rest => some (['\''], rest)
  | '\'' :: '\'' :: '\'' :: rest => some ([], rest)
  | '\'' :: rest => cons? (some '\'') (longLiteral? rest)
  | '\r' :: '\n' :: rest => cons? (some '\n') (longLiteral? rest)
  | '\n' :: rest => cons? (some '\n') (longLiteral? rest)
  | c :: rest => cons? (if isLiteralChar c then some c else none) (longLiteral? rest)

def dropBreak (text : Text) : Text :=
  (afterBreak? text).getD text

def string? : Text → Option (Text × Text)
  | '"' :: '"' :: '"' :: rest => longBasic? false (dropBreak rest)
  | '"' :: rest => basic? rest
  | '\'' :: '\'' :: '\'' :: rest => longLiteral? (dropBreak rest)
  | '\'' :: rest => literal? rest
  | _ => none

def keyPart? : Text → Option (Text × Text)
  | [] => none
  | c :: rest =>
      if c = '"' then basic? rest
      else if c = '\'' then literal? rest
      else if isBareChar c then
        some (c :: rest.takeWhile isBareChar, rest.dropWhile isBareChar)
      else none

/-- A key: parts with dots between them, spaces around each part.  `most` is
the greatest number of parts. -/
def key? : (most : Nat) → Text → Option (List Text × Text)
  | 0, _ => none
  | most + 1, text =>
      match keyPart? (skipSpaces text) with
      | none => none
      | some (part, behind) =>
          match skipSpaces behind with
          | '.' :: rest => (key? most rest).map fun (parts, rest) => (part :: parts, rest)
          | rest => some ([part], rest)

/-- The greatest number of parts of a key, and of values inside one another. -/
def deepest : Nat :=
  79

/-- What follows the end of a line: spaces, a comment if there is one, and a
line break or the end of the text. -/
def afterLine? (text : Text) : Option Text :=
  let behind :=
    match skipSpaces text with
    | '#' :: comment => comment.dropWhile isCommentChar
    | rest => rest
  match behind with
  | [] => some []
  | rest => afterBreak? rest

end Toml

end SqlDump
