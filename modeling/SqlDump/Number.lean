import SqlDump.Text

/-!
# Numbers

A finite number of the binary64 format is a significand below 2^53 times a
power of two.  `nearest` rounds a ratio of natural numbers to the nearest such
number, a half to the even significand.

A binary64 number is written with the fewest digits that read back as the same
number, and among those with the ones nearest to it; of two that are equally
near, the greater is taken.  The digits are written out by place, without an
exponent, and a number without a fraction ends in `.0`.

A number is spelled by digits with an optional sign, fraction and exponent, or
by a word for infinity or for no number at all.
-/

namespace SqlDump

/-- The absolute value of a finite binary64 number: `significand · 2^power`. -/
structure Magnitude where
  significand : Nat
  power : Int
  deriving DecidableEq, Repr

inductive Binary64 where
  | finite (negative : Bool) (magnitude : Magnitude)
  | infinite (negative : Bool)
  | nan
  deriving DecidableEq, Repr

namespace Magnitude

def leastPower : Int :=
  -1074

def greatestPower : Int :=
  971

/-- The least significand of a number with full precision, 2^52. -/
def leastNormal : Nat :=
  4503599627370496

def zero : Magnitude :=
  ⟨0, leastPower⟩

/-- The quotient rounded to the nearest integer, a half to the even one. -/
def roundHalfEven (num den : Nat) : Nat :=
  let quotient := num / den
  let twice := 2 * (num % den)
  if den < twice || (twice = den && quotient % 2 = 1) then quotient + 1 else quotient

def scaled (num den : Nat) (power : Int) : Nat × Nat :=
  if 0 ≤ power then (num, den * Nat.pow 2 power.toNat)
  else (num * Nat.pow 2 (-power).toNat, den)

/-- The power of two that leaves a ratio at least 2^52 and below 2^53. -/
def normalPower (num den : Nat) : Int :=
  let guess : Int := (num.log2 : Int) - den.log2 - 52
  let (n, d) := scaled num den guess
  if n < d * leastNormal then guess - 1 else guess

/-- The binary64 number nearest to a ratio, unless it is too great. -/
def nearest (num den : Nat) : Option Magnitude :=
  if num = 0 then some zero
  else
    let power := max (normalPower num den) leastPower
    let (n, d) := scaled num den power
    let rounded := roundHalfEven n d
    let magnitude : Magnitude :=
      if rounded = 2 * leastNormal then ⟨leastNormal, power + 1⟩ else ⟨rounded, power⟩
    if greatestPower < magnitude.power then none else some magnitude

def digitCount (n : Nat) : Nat :=
  (Nat.toDigits 10 n).length

/-- The number nearest to `digits · 10^exponent`, unless it is too great.
Exponents far outside the format are not raised to. -/
def ofDecimal (digits : Nat) (exponent : Int) : Option Magnitude :=
  if digits = 0 then some zero
  else
    let size := exponent + digitCount digits
    if 310 < size then none
    else if size < -330 then some zero
    else if 0 ≤ exponent then nearest (digits * Nat.pow 10 exponent.toNat) 1
    else nearest digits (Nat.pow 10 (-exponent).toNat)

/-! ## Shortest decimals -/

structure Decimal where
  digits : Nat
  exponent : Int
  deriving DecidableEq, Repr

def quarterUnit (magnitude : Magnitude) (exponent : Int) : Nat × Nat :=
  let (n, d) := scaled 1 1 (2 - magnitude.power)
  if 0 ≤ exponent then (n, d * Nat.pow 10 exponent.toNat)
  else (n * Nat.pow 10 (-exponent).toNat, d)

/-- How many quarter units below the number the decimals begin that read back
as it.  The gap below a power of two is half as wide. -/
def quartersBelow (magnitude : Magnitude) : Nat :=
  if magnitude.significand = leastNormal ∧ leastPower < magnitude.power then 1 else 2

/-- The decimal with the given exponent that reads back as the number and is
nearest to it, if there is one. -/
def onGrid? (magnitude : Magnitude) (exponent : Int) : Option Decimal :=
  let (unit, den) := magnitude.quarterUnit exponent
  let value := 4 * magnitude.significand * unit
  let low := value / den
  let least := value - magnitude.quartersBelow * unit
  let greatest := value + 2 * unit
  let even := magnitude.significand % 2 = 0
  let lowFits := decide (least < low * den) || (even && least = low * den)
  let highFits :=
    decide ((low + 1) * den < greatest) || (even && (low + 1) * den = greatest)
  let lowNearer := value - low * den < (low + 1) * den - value
  if lowFits && (lowNearer || !highFits) then some ⟨low, exponent⟩
  else if highFits then some ⟨low + 1, exponent⟩
  else none

def places (magnitude : Magnitude) : Int :=
  let (unit, den) := magnitude.quarterUnit 0
  let value := 4 * magnitude.significand * unit
  let guess : Int := (digitCount value : Int) - digitCount den
  let below :=
    if 0 ≤ guess then decide (value < den * Nat.pow 10 guess.toNat)
    else decide (value * Nat.pow 10 (-guess).toNat < den)
  if below then guess else guess + 1

/-- The first fitting decimal with `count` digits or more. -/
def fewest (magnitude : Magnitude) (places : Int) : (tries : Nat) → (count : Nat) → Decimal
  | 0, count => ⟨0, places - count⟩
  | tries + 1, count =>
      match magnitude.onGrid? (places - count) with
      | some decimal => decimal
      | none => fewest magnitude places tries (count + 1)

/-- The shortest decimal of a number.  Seventeen digits always suffice. -/
def shortest (magnitude : Magnitude) : Decimal :=
  if magnitude.significand = 0 then ⟨0, 0⟩ else fewest magnitude magnitude.places 17 1

def Decimal.positional (decimal : Decimal) : Text :=
  let digits := Text.ofNat decimal.digits
  if 0 ≤ decimal.exponent then
    digits ++ List.replicate decimal.exponent.toNat '0' ++ ".0".toList
  else
    let count := (-decimal.exponent).toNat
    let padded := List.replicate (count + 1 - digits.length) '0' ++ digits
    padded.take (padded.length - count) ++ '.' :: padded.drop (padded.length - count)

end Magnitude

namespace Magnitude.Decimal

def reduce : (tries : Nat) → Decimal → Decimal
  | 0, decimal => decimal
  | tries + 1, decimal =>
      if decimal.digits ≠ 0 ∧ decimal.digits % 10 = 0 then
        reduce tries ⟨decimal.digits / 10, decimal.exponent + 1⟩
      else decimal

end Magnitude.Decimal

namespace Binary64

def text : Binary64 → Text
  | .nan => "NaN".toList
  | .infinite negative => (if negative then "-inf" else "inf").toList
  | .finite negative magnitude =>
      let digits := (magnitude.shortest.reduce 17).positional
      if negative then '-' :: digits else digits

end Binary64

/-! ## Spellings -/

namespace Number

def withoutSign : Text → Text
  | '+' :: rest => rest
  | '-' :: rest => rest
  | text => text

def isExponent : Text → Bool
  | [] => true
  | c :: rest =>
      let digits := withoutSign rest
      (c = 'e' || c = 'E') && digits ≠ [] && digits.all Char.isDigit

def isDecimal (text : Text) : Bool :=
  let whole := text.takeWhile Char.isDigit
  match text.dropWhile Char.isDigit with
  | '.' :: behind =>
      (whole ≠ [] || behind.takeWhile Char.isDigit ≠ []) &&
        isExponent (behind.dropWhile Char.isDigit)
  | behind => whole ≠ [] && isExponent behind

def isSpelled (text : Text) : Bool :=
  let body := withoutSign text
  let word := body.map Char.toLower
  word = "inf".toList || word = "infinity".toList || word = "nan".toList || isDecimal body

end Number

end SqlDump
