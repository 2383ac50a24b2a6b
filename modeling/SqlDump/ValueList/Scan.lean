import SqlDump.ValueList

/-!
# One-pass scan of a value list

A value list can be divided without a grammar: one pass over its characters
keeps track of whether a literal is open and of how many groups are open.  A
quote opens or closes a literal, so a doubled quote closes it and opens it
again.  Commas met with nothing open divide the list into pieces.

By the scan it can be said which values can stand in a value list just as they are,
and where the fault lies in a list that does not close all it opens: at a parenthesis
that closes nothing, at the outermost group that stays open, or at the literal that
stays open.
-/

namespace SqlDump

/-- What is open at a place in a text. -/
structure Scan where
  inLiteral : Bool
  depth : Nat
  deriving DecidableEq, Repr

namespace Scan

def clear : Scan :=
  ⟨false, 0⟩

/-- What is open behind a character, unless it closes a group that is not
open. -/
def step (scan : Scan) (c : Char) : Option Scan :=
  if c = '\'' then some { scan with inLiteral := !scan.inLiteral }
  else if scan.inLiteral then some scan
  else if c = '(' then some { scan with depth := scan.depth + 1 }
  else if c = ')' then
    match scan.depth with
    | 0 => none
    | depth + 1 => some { scan with depth := depth }
  else some scan

def run (scan : Scan) : Text → Option Scan
  | [] => some scan
  | c :: rest =>
      match scan.step c with
      | none => none
      | some next => run next rest

/-- Whether everything that a text opens is closed, and nothing else. -/
def balanced (text : Text) : Bool :=
  clear.run text = some clear

/-- The pieces of a text between the commas that are met with nothing open.
There is always at least one. -/
def pieces (scan : Scan) : Text → List Text
  | [] => [[]]
  | c :: rest =>
      if c = ',' ∧ scan = clear then [] :: pieces clear rest
      else
        match pieces ((scan.step c).getD scan) rest with
        | [] => [[c]]
        | piece :: others => (c :: piece) :: others

/-- What follows the character behind which nothing is open any more, for a
text that starts with something open. -/
def behindClose? (scan : Scan) : Text → Option Text
  | [] => none
  | c :: rest =>
      match scan.step c with
      | none => none
      | some next => if next = clear then some rest else behindClose? next rest

/-- Whether quotes come in pairs only, that is, every run of them has even
length. -/
def quotesPaired : Text → Bool
  | [] => true
  | '\'' :: '\'' :: rest => quotesPaired rest
  | '\'' :: _ => false
  | _ :: rest => quotesPaired rest

/-- Whether a text is a quote, a text with paired quotes, and a quote. -/
def isLiteral (text : Text) : Bool :=
  (Literal.inside? text).any quotesPaired

def valueOfPiece (piece : Text) : Value :=
  let text := Text.trim piece
  if isLiteral text then .quoted text else .bare text

def read? (text : Text) : Option (List Value) :=
  if text.isAllBlank then some []
  else if balanced text then some ((pieces clear text).map valueOfPiece)
  else none

theorem run_append (scan : Scan) (first second : Text) :
    scan.run (first ++ second) = (scan.run first).bind fun next => next.run second := by
  induction first generalizing scan with
  | nil => rfl
  | cons c rest ih =>
      simp only [List.cons_append, run]
      cases scan.step c with
      | none => rfl
      | some next => exact ih next

theorem pieces_ne_nil (scan : Scan) (text : Text) : scan.pieces text ≠ [] := by
  cases text with
  | nil => simp [pieces]
  | cons c rest =>
      simp only [pieces]
      split
      · simp
      · split <;> simp

theorem intercalate_pieces (scan : Scan) (text : Text) :
    List.intercalate [','] (scan.pieces text) = text := by
  induction text generalizing scan with
  | nil => simp [pieces, List.intercalate]
  | cons c rest ih =>
      simp only [pieces]
      split
      · next divided =>
          have same := ih clear
          cases parts : clear.pieces rest with
          | nil => exact absurd parts (pieces_ne_nil clear rest)
          | cons piece others =>
              rw [parts] at same
              simp [List.intercalate, List.intersperse, divided.1] at same ⊢
              exact same
      · have same := ih ((scan.step c).getD scan)
        cases parts : ((scan.step c).getD scan).pieces rest with
        | nil => exact absurd parts (pieces_ne_nil _ rest)
        | cons piece others =>
            rw [parts] at same
            cases others with
            | nil =>
                simp [List.intercalate] at same ⊢
                exact same
            | cons other more =>
                simp [List.intercalate, List.intersperse] at same ⊢
                exact same

end Scan

/-! ## Canonical values -/

namespace Value

/-- The value has the form in which it comes out of a value list. -/
structure IsCanonical (value : Value) : Prop where
  trimmed : Text.trim value.text = value.text
  balanced : Scan.balanced value.text = true
  undivided : Scan.clear.pieces value.text = [value.text]
  kind : (∃ text, value = .quoted text) ↔ Scan.isLiteral value.text = true

theorem isCanonical_null : IsCanonical null where
  trimmed := by decide
  balanced := by decide
  undivided := by decide
  kind := by
    constructor
    · rintro ⟨text, same⟩
      simp [null] at same
    · exact fun literal => absurd literal (by decide)

end Value

/-! ## Obstacles -/

namespace ValueList

open Scan (clear)

instance decidableEqReading : DecidableEq (Except Misread (List Value))
  | .ok _, .ok _ => decidable_of_iff _ ⟨congrArg Except.ok, Except.ok.inj⟩
  | .error _, .error _ => decidable_of_iff _ ⟨congrArg Except.error, Except.error.inj⟩
  | .ok _, .error _ => isFalse nofun
  | .error _, .ok _ => isFalse nofun

/-- Behind the front stands a parenthesis that closes nothing.  The scan gets
through the front, so that parenthesis is the first of its kind. -/
structure IsStray (text front rest : Text) : Prop where
  joined : text = front ++ ')' :: rest
  closed : clear.run front = some clear

/-- Behind the front, with nothing open around it, stands a parenthesis whose group
stays open: it is not closed anywhere up to the end of the text. -/
structure IsUnclosed (text front inner : Text) : Prop where
  joined : text = front ++ '(' :: inner
  closed : clear.run front = some clear
  stays : ∀ part : Text, part <+: inner →
    ∃ scan : Scan, clear.run (front ++ '(' :: part) = some scan ∧ 0 < scan.depth

/-- Behind the front, with nothing open around it, stands the opening quote of a
literal that stays open: behind it are pairs of quotes only.  It is not itself
the second quote of a pair. -/
structure IsUnterminated (text front inner : Text) : Prop where
  joined : text = front ++ '\'' :: inner
  closed : clear.run front = some clear
  apart : front.getLast? ≠ some '\''
  paired : Scan.quotesPaired inner = true

end ValueList

end SqlDump
