import SqlDump.Toml.Node

/-!
# TOML numbers

Integers are decimal with an optional sign, or hexadecimal, octal or binary
without one, and must fit sixty-four bits.  Floats have a fraction, an
exponent or both.  A single underscore may stand between two digits, and a
decimal number has no leading zeros.
-/

namespace SqlDump

namespace Toml

/-- Digits in an alphabet, an underscore allowed in front of each.  A text
that goes on with an underscore but no digit is refused. -/
def moreDigits? (isDigit : Char → Bool) : Text → Option (Text × Text)
  | '_' :: c :: rest =>
      if isDigit c then (moreDigits? isDigit rest).map fun (ds, rest) => (c :: ds, rest)
      else none
  | '_' :: [] => none
  | c :: rest =>
      if isDigit c then (moreDigits? isDigit rest).map fun (ds, rest) => (c :: ds, rest)
      else some ([], c :: rest)
  | [] => some ([], [])

def digits? (isDigit : Char → Bool) : Text → Option (Text × Text)
  | [] => none
  | c :: rest =>
      if isDigit c then (moreDigits? isDigit rest).map fun (ds, rest) => (c :: ds, rest)
      else none

/-- The digits of a decimal integer: a lone zero, or no zero in front. -/
def integerDigits? : Text → Option (Text × Text)
  | '0' :: rest => some (['0'], rest)
  | text => digits? Char.isDigit text

def sign : Text → Bool × Text
  | '-' :: rest => (true, rest)
  | '+' :: rest => (false, rest)
  | text => (false, text)

def digitValue (c : Char) : Nat :=
  if c.isDigit then c.toNat - '0'.toNat
  else if 'a' ≤ c then c.toNat - 'a'.toNat + 10
  else c.toNat - 'A'.toNat + 10

def numberOf (base : Nat) (digits : Text) : Nat :=
  digits.foldl (fun n c => n * base + digitValue c) 0

/-- The least integer that sixty-four bits hold, -2^63. -/
def leastInteger : Int :=
  -9223372036854775808

/-- The greatest integer that sixty-four bits hold, 2^63 - 1. -/
def greatestInteger : Int :=
  9223372036854775807

def integerNode? (n : Int) : Option Node :=
  if leastInteger ≤ n ∧ n ≤ greatestInteger then some (.integer n) else none

/-- A non-negative integer in another base, from behind the mark of the base. -/
def basedInteger? (base : Nat) (isDigit : Char → Bool) (text : Text) : Option (Node × Text) :=
  match digits? isDigit text with
  | none => none
  | some (digits, rest) => (integerNode? (numberOf base digits)).map fun node => (node, rest)

def isHexDigit (c : Char) : Bool :=
  c.isDigit || ('a' ≤ c && c ≤ 'f') || ('A' ≤ c && c ≤ 'F')

def isOctalDigit (c : Char) : Bool :=
  '0' ≤ c && c ≤ '7'

def isBinaryDigit (c : Char) : Bool :=
  c = '0' || c = '1'

/-- The exponent at the start of a text.  Without its letter there is none,
and the exponent is zero; behind the letter it has to follow. -/
def exponent? : Text → Option (Int × Text)
  | [] => some (0, [])
  | c :: rest =>
      if c = 'e' ∨ c = 'E' then
        let (negative, unsigned) := sign rest
        (digits? Char.isDigit unsigned).map fun (digits, rest) =>
          let n : Int := numberOf 10 digits
          (if negative then -n else n, rest)
      else some (0, c :: rest)

/-- The float node of a decimal.  A number beyond the greatest float is
refused, but one beyond the least is negative infinity. -/
def floatNode? (negative : Bool) (digits : Text) (exponent : Int) : Option Node :=
  match Magnitude.ofDecimal (numberOf 10 digits) exponent with
  | some magnitude => some (.float (.finite negative magnitude))
  | none => if negative then some (.float (.infinite true)) else none

def decimal? (text : Text) : Option (Node × Text) :=
  let (negative, unsigned) := sign text
  match unsigned with
  | 'i' :: 'n' :: 'f' :: rest => some (.float (.infinite negative), rest)
  | 'n' :: 'a' :: 'n' :: rest => some (.float .nan, rest)
  | _ =>
      match integerDigits? unsigned with
      | none => none
      | some (whole, '.' :: behind) =>
          match digits? Char.isDigit behind with
          | none => none
          | some (fraction, behind) =>
              match exponent? behind with
              | none => none
              | some (exponent, rest) =>
                  (floatNode? negative (whole ++ fraction) (exponent - fraction.length)).map
                    fun node => (node, rest)
      | some (whole, c :: behind) =>
          if c = 'e' ∨ c = 'E' then
            match exponent? (c :: behind) with
            | none => none
            | some (exponent, rest) =>
                (floatNode? negative whole exponent).map fun node => (node, rest)
          else
            let n : Int := numberOf 10 whole
            (integerNode? (if negative then -n else n)).map fun node => (node, c :: behind)
      | some (whole, []) =>
          let n : Int := numberOf 10 whole
          (integerNode? (if negative then -n else n)).map fun node => (node, [])

def number? : Text → Option (Node × Text)
  | '0' :: 'x' :: rest => basedInteger? 16 isHexDigit rest
  | '0' :: 'o' :: rest => basedInteger? 8 isOctalDigit rest
  | '0' :: 'b' :: rest => basedInteger? 2 isBinaryDigit rest
  | text => decimal? text

end Toml

end SqlDump
