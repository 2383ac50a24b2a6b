import SqlDump.Toml.Node

/-!
# TOML dates and times

A moment is a date, a time, or a date and a time with an optional offset from
universal time.  Dates are those of the calendar, a minute has sixty-one
seconds at most, and a fraction of a second has any number of digits.
-/

namespace SqlDump

namespace Toml

def twoDigits? (least greatest : Nat) : Text → Option (Nat × Text)
  | a :: b :: rest =>
      if a.isDigit && b.isDigit then
        let n := (a.toNat - '0'.toNat) * 10 + (b.toNat - '0'.toNat)
        if least ≤ n ∧ n ≤ greatest then some (n, rest) else none
      else none
  | _ => none

def afterFraction (text : Text) : Text :=
  match text with
  | '.' :: c :: rest => if c.isDigit then rest.dropWhile Char.isDigit else text
  | _ => text

def afterMinutes? (text : Text) : Option Text :=
  match twoDigits? 0 59 text with
  | some (_, ':' :: rest) => (twoDigits? 0 60 rest).map fun (_, rest) => afterFraction rest
  | _ => none

def afterTime? (text : Text) : Option Text :=
  match twoDigits? 0 23 text with
  | some (_, ':' :: rest) => afterMinutes? rest
  | _ => none

def afterOffset? (text : Text) : Option Text :=
  match text with
  | [] => some []
  | c :: rest =>
      if c = 'Z' ∨ c = 'z' then some rest
      else if c = '+' ∨ c = '-' then
        match twoDigits? 0 23 rest with
        | some (_, ':' :: rest) => (twoDigits? 0 59 rest).map (·.2)
        | _ => none
      else some text

def isLeapYear (year : Nat) : Bool :=
  year % 4 = 0 && (year % 100 ≠ 0 || year % 400 = 0)

def daysOfMonth (year month : Nat) : Nat :=
  if month = 2 then if isLeapYear year then 29 else 28
  else if month = 4 ∨ month = 6 ∨ month = 9 ∨ month = 11 then 30
  else 31

def afterDate? (text : Text) : Option Text :=
  match twoDigits? 0 99 text with
  | none => none
  | some (century, rest) =>
      match twoDigits? 0 99 rest with
      | some (year, '-' :: rest) =>
          match twoDigits? 1 12 rest with
          | some (month, '-' :: rest) =>
              (twoDigits? 1 (daysOfMonth (century * 100 + year) month) rest).map (·.2)
          | _ => none
      | _ => none

def isDelimiter (c : Char) : Bool :=
  c = 'T' || c = 't' || c = ' '

/-- What follows the moment at the start of a text.  Behind a date, a delimiter
without an hour belongs to what follows. -/
def afterMoment? (text : Text) : Option Text :=
  match afterDate? text with
  | some (c :: rest) =>
      if isDelimiter c then
        match twoDigits? 0 23 rest with
        | some (_, ':' :: minutes) => (afterMinutes? minutes).bind afterOffset?
        | _ => some (c :: rest)
      else some (c :: rest)
  | some [] => some []
  | none => afterTime? text

def moment? (text : Text) : Option (Node × Text) :=
  (afterMoment? text).map fun rest =>
    (.moment (text.take (text.length - rest.length)), rest)

end Toml

end SqlDump
