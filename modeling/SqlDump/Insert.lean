import SqlDump.Text.Search
import SqlDump.ValueList

/-!
# Insert statements

A single-row insert is a text of the form

    … INSERT OR REPLACE INTO "table" … VALUES (…);

`parse?` divides such a text into the table, the lead (everything before
`VALUES (`, so the column list and whatever stands before the insert belong to
it) and the text of the value list.  `write` puts the parts together again.
-/

namespace SqlDump

structure Insert where
  table : Text
  lead : Text
  values : Text
  deriving DecidableEq, Repr

namespace Insert

def opener : Text :=
  "VALUES (".toList

def terminator : Text :=
  ");".toList

/-- The words of an insert, in order, each followed by a gap. -/
def keywords : List Text :=
  ["INSERT".toList, "OR".toList, "REPLACE".toList, "INTO".toList]

/-- The characters of a gap between words: space, tab and line breaks. -/
def isGap (c : Char) : Bool :=
  c = ' ' || c = '\t' || c = '\r' || c = '\n'

/-- What follows the gap at the start of a text.  A gap is not empty. -/
def afterGap? : Text → Option Text
  | [] => none
  | c :: rest => if isGap c then some (rest.dropWhile isGap) else none

def afterWords? : List Text → Text → Option Text
  | [], text => some text
  | word :: words, text =>
      match Text.after? word text with
      | none => none
      | some rest =>
          match afterGap? rest with
          | none => none
          | some next => afterWords? words next

/-- The name between double quotes at the start of a text, and what follows
it.  A name is not empty and holds no double quote. -/
def quotedName? : Text → Option (Text × Text)
  | '"' :: inner =>
      match inner.takeWhile (· ≠ '"'), inner.dropWhile (· ≠ '"') with
      | c :: name, _ :: rest => some (c :: name, rest)
      | _, _ => none
  | _ => none

def head? (text : Text) : Option (Text × Text) :=
  match afterWords? keywords text with
  | none => none
  | some rest => quotedName? rest

/-- The table named by the leftmost insert head of a text, and what follows
that head. -/
def firstHead? : Text → Option (Text × Text)
  | [] => none
  | c :: rest =>
      match head? (c :: rest) with
      | some found => some found
      | none => firstHead? rest

/-- The parts of a single-row insert.  The value list starts at the first
opener behind the insert head, and the text has to end with the terminator. -/
def parse? (text : Text) : Option Insert :=
  match firstHead? text with
  | none => none
  | some (table, rest) =>
      match Text.split? opener rest with
      | none => none
      | some (_, body) =>
          match Text.before? terminator body with
          | none => none
          | some values =>
              some ⟨table, text.take (text.length - (opener ++ body).length), values⟩

def write (lead values : Text) : Text :=
  lead ++ opener ++ values ++ terminator

def ofValues (lead : Text) (values : List Value) : Text :=
  write lead (ValueList.write values)

theorem gap_append_of_afterGap? {text rest : Text} (taken : afterGap? text = some rest) :
    ∃ gap : Text, gap ≠ [] ∧ gap.all isGap = true ∧ gap ++ rest = text := by
  cases text with
  | nil => simp [afterGap?] at taken
  | cons c tail =>
      by_cases inGap : isGap c = true
      · simp only [afterGap?, inGap, if_true, Option.some.injEq] at taken
        refine ⟨c :: tail.takeWhile isGap, by simp, by simp [inGap], ?_⟩
        rw [← taken, List.cons_append, List.takeWhile_append_dropWhile]
      · simp [afterGap?, inGap] at taken

/-- A quoted name is what stands between the first two double quotes. -/
theorem append_of_quotedName? {text name rest : Text}
    (taken : quotedName? text = some (name, rest)) :
    name ≠ [] ∧ '"' ∉ name ∧ '"' :: (name ++ '"' :: rest) = text := by
  unfold quotedName? at taken
  split at taken
  · next inner =>
      split at taken
      · next c word d after before behind =>
          simp only [Option.some.injEq, Prod.mk.injEq] at taken
          obtain ⟨rfl, rfl⟩ := taken
          have outside : '"' ∉ c :: word := by
            have free := List.all_takeWhile (p := (· ≠ '"')) (l := inner)
            rw [before, List.all_eq_true] at free
            intro member
            simpa using free _ member
          have quote : d = '"' := by
            have := List.head?_dropWhile_not (· ≠ '"') inner
            simp only [behind] at this
            simpa using this
          refine ⟨by simp, outside, ?_⟩
          rw [← quote, ← behind, ← before, List.takeWhile_append_dropWhile, quote]
      · simp at taken
  · simp at taken

end Insert

end SqlDump
