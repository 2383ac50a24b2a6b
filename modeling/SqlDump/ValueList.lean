import SqlDump.Text.Blank
import SqlDump.Value

/-!
# Value lists

A value list is a row of fields between commas.  A field is any sequence of
string literals, parenthesised groups and other characters, so a comma inside
a literal or a group separates nothing.  `read` reads a value list and `write`
writes one.

Each reader gives back the rest of the text.  It takes as much as it can and
stops, without an error of its own, in front of what it cannot take; only
`read` judges whether something is left.

A text that cannot be read is reported with the byte offset where reading stopped
and the reason for it.
-/

namespace SqlDump

structure Misread where
  position : Nat
  reason : Text
  deriving DecidableEq, Repr

namespace Misread

def message (misread : Misread) : Text :=
  "Parse error at position ".toList ++ Text.ofNat misread.position ++
    ": ".toList ++ misread.reason

end Misread

namespace ValueList

/-- A bounded text that starts with a character leaves a shorter rest. -/
theorem length_lt_of_val_eq {text : Text} {c : Char} {after : Text}
    {bounded : { rest : Text // rest.length ≤ text.length }} (same : bounded.val = c :: after) :
    after.length < text.length := by
  have bound := bounded.property
  rw [same] at bound
  exact bound

/-- What is left after the literals, groups and other characters inside a
group: the rest starts with the parenthesis that ends the group, or with a
quote or parenthesis that is never closed, or is empty. -/
def groupEnd (text : Text) : { rest : Text // rest.length ≤ text.length } :=
  match text with
  | [] => ⟨[], Nat.le_refl _⟩
  | '\'' :: inner =>
      match closed : Literal.close? inner with
      | some after =>
          have shorter : after.length < inner.length := Literal.length_lt_of_close? closed
          let ⟨rest, bound⟩ := groupEnd after
          ⟨rest, Nat.le_succ_of_le (Nat.le_trans bound (Nat.le_of_lt shorter))⟩
      | none => ⟨'\'' :: inner, Nat.le_refl _⟩
  | '(' :: inner =>
      match ended : (groupEnd inner).val with
      | ')' :: after =>
          have shorter : after.length < inner.length := length_lt_of_val_eq ended
          let ⟨rest, bound⟩ := groupEnd after
          ⟨rest, Nat.le_succ_of_le (Nat.le_trans bound (Nat.le_of_lt shorter))⟩
      | _ => ⟨'(' :: inner, Nat.le_refl _⟩
  | ')' :: after => ⟨')' :: after, Nat.le_refl _⟩
  | _ :: after =>
      let ⟨rest, bound⟩ := groupEnd after
      ⟨rest, Nat.le_succ_of_le bound⟩
termination_by text.length
decreasing_by
  · exact Nat.lt_succ_of_lt shorter
  · exact Nat.lt_succ_self _
  · exact Nat.lt_succ_of_lt shorter
  · exact Nat.lt_succ_self _

/-- The rest without the bound on its length. -/
theorem val_groupEnd (text : Text) :
    (groupEnd text).val =
      match text with
      | [] => []
      | '\'' :: inner =>
          match Literal.close? inner with
          | some after => (groupEnd after).val
          | none => '\'' :: inner
      | '(' :: inner =>
          match (groupEnd inner).val with
          | ')' :: after => (groupEnd after).val
          | _ => '(' :: inner
      | ')' :: after => ')' :: after
      | _ :: after => (groupEnd after).val := by
  rw [groupEnd.eq_def]
  split
  · rfl
  · next inner =>
      split
      · next after closed => simp only [closed]
      · next unclosed => simp only [unclosed]
  · next inner =>
      split
      · next after ended => simp only [ended]
      · next unmatched =>
          split
          · next after ended => exact absurd ended (unmatched after)
          · rfl
  · rfl
  · rfl

theorem groupEnd_nil : (groupEnd []).val = [] := by
  rw [val_groupEnd]

theorem groupEnd_close (after : Text) : (groupEnd (')' :: after)).val = ')' :: after := by
  rw [val_groupEnd]
  rfl

theorem groupEnd_literal {inner after : Text} (closed : Literal.close? inner = some after) :
    (groupEnd ('\'' :: inner)).val = (groupEnd after).val := by
  rw [val_groupEnd]
  simp only [closed]

theorem groupEnd_open_literal {inner : Text} (unclosed : Literal.close? inner = none) :
    (groupEnd ('\'' :: inner)).val = '\'' :: inner := by
  rw [val_groupEnd]
  simp only [unclosed]

theorem groupEnd_group {inner after : Text} (closed : (groupEnd inner).val = ')' :: after) :
    (groupEnd ('(' :: inner)).val = (groupEnd after).val := by
  rw [val_groupEnd]
  simp only [closed]

theorem groupEnd_open_group {inner : Text}
    (unclosed : ∀ after, (groupEnd inner).val ≠ ')' :: after) :
    (groupEnd ('(' :: inner)).val = '(' :: inner := by
  rw [val_groupEnd]
  -- the hypothesis leaves the last case of the inner match only
  simp only

theorem groupEnd_other {c : Char} {after : Text} (notQuote : c ≠ '\'') (notOpen : c ≠ '(')
    (notClose : c ≠ ')') : (groupEnd (c :: after)).val = (groupEnd after).val := by
  rw [val_groupEnd]
  split
  · next impossible => cases impossible
  · next same => exact absurd (List.cons.inj same).1 notQuote
  · next same => exact absurd (List.cons.inj same).1 notOpen
  · next same => exact absurd (List.cons.inj same).1 notClose
  · next same => rw [(List.cons.inj same).2]

def afterGroup? : Text → Option Text
  | '(' :: inner =>
      match (groupEnd inner).val with
      | ')' :: after => some after
      | _ => none
  | _ => none

theorem length_lt_of_afterGroup? {text rest : Text} (taken : afterGroup? text = some rest) :
    rest.length < text.length := by
  unfold afterGroup? at taken
  split at taken
  · next inner =>
      have bound := (groupEnd inner).property
      split at taken
      · next after ended =>
          simp only [Option.some.injEq] at taken
          rw [ended] at bound
          simp only [List.length_cons] at bound ⊢
          rw [← taken]
          omega
      · simp at taken
  · simp at taken

/-- Whether a character stands for itself in a field: it opens or ends no
literal, group or field. -/
def isPlain (c : Char) : Bool :=
  c ≠ '\'' && c ≠ ',' && c ≠ '(' && c ≠ ')'

/-- What follows the segment at the start of a text: a literal, a group, or a
longest run of plain characters. -/
def afterSegment? : Text → Option Text
  | [] => none
  | c :: rest =>
      if c = '\'' then Literal.after? (c :: rest)
      else if c = '(' then afterGroup? (c :: rest)
      else if isPlain c then some (rest.dropWhile isPlain)
      else none

theorem length_lt_of_afterSegment? {text rest : Text}
    (taken : afterSegment? text = some rest) : rest.length < text.length := by
  unfold afterSegment? at taken
  split at taken
  · simp at taken
  · next c tail =>
      split at taken
      · exact Literal.length_lt_of_after? taken
      · split at taken
        · exact length_lt_of_afterGroup? taken
        · split at taken
          · simp only [Option.some.injEq] at taken
            have := (List.dropWhile_sublist (l := tail) isPlain).length_le
            rw [← taken, List.length_cons]
            omega
          · simp at taken

/-- What follows the field at the start of a text.  A field may be empty. -/
def afterField (text : Text) : Text :=
  match _taken : afterSegment? text with
  | some rest => afterField rest
  | none => text
termination_by text.length
decreasing_by exact length_lt_of_afterSegment? _taken

theorem length_afterField_le (text : Text) : (afterField text).length ≤ text.length := by
  fun_induction afterField text with
  | case1 text rest taken ih =>
      have := length_lt_of_afterSegment? taken
      omega
  | case2 text none => exact Nat.le_refl _

def field (text : Text) : Text :=
  text.take (text.length - (afterField text).length)

def fields (text : Text) : List Text × Text :=
  match _left : afterField text with
  | ',' :: after =>
      let (others, rest) := fields after
      (field text :: others, rest)
  | rest => ([field text], rest)
termination_by text.length
decreasing_by
  have := length_afterField_le text
  rw [_left, List.length_cons] at this
  omega

/-- The value that a field stands for: blanks around it do not count, and it
is quoted exactly when the rest is one literal. -/
def valueOfField (raw : Text) : Value :=
  let text := Text.trim raw
  if Literal.isWhole text then .quoted text else .bare text

def obstacle : Char → Text
  | '\'' => "unterminated string literal".toList
  | '(' => "unclosed parenthesis".toList
  | c => "unexpected '".toList ++ c :: "'".toList

/-- The values of a value list.  A list of blanks only has no values. -/
def read (text : Text) : Except Misread (List Value) :=
  if text.isAllBlank then .ok []
  else
    match fields text with
    | (raws, []) => .ok (raws.map valueOfField)
    | (_, c :: rest) =>
        .error ⟨text.byteSize - Text.byteSize (c :: rest), obstacle c⟩

def write (values : List Value) : Text :=
  List.intercalate ", ".toList (values.map Value.text)

end ValueList

end SqlDump
