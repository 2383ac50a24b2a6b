import SqlDump.Insert
import SqlDump.Input

/-!
# Gathering lines into statements

Lines are gathered until the text held contains the terminator `);`.  All of
that text, blanks at its end aside, is then one statement, and gathering
starts afresh.  The terminator counts wherever it stands, also inside a
literal.

The lines of a dump fall into segments that end at a line which contains the
terminator by itself; each segment is one statement.
-/

namespace SqlDump

/-- The text gathered since the last statement. -/
structure Gatherer where
  held : Text
  deriving DecidableEq, Repr

namespace Gatherer

def empty : Gatherer :=
  ⟨[]⟩

/-- Add a line.  A statement comes out as soon as one is complete. -/
def feed (gatherer : Gatherer) (line : Text) : Option Text × Gatherer :=
  let text := gatherer.held ++ line
  if Text.contains Insert.terminator text then (some text.trimEnd, empty)
  else (none, ⟨text⟩)

def feedAll (gatherer : Gatherer) : List Text → List (Option Text) × Gatherer
  | [] => ([], gatherer)
  | line :: lines =>
      let (step, next) := gatherer.feed line
      let (steps, last) := feedAll next lines
      (step :: steps, last)

def leftover? (gatherer : Gatherer) : Option Text :=
  if gatherer.held = [] then none else some gatherer.held

def statements (lines : List Text) : List Text × Gatherer :=
  let (steps, last) := empty.feedAll lines
  (steps.filterMap id, last)

theorem feedAll_append (gatherer : Gatherer) (first second : List Text) :
    gatherer.feedAll (first ++ second) =
      let (steps, next) := gatherer.feedAll first
      let (others, last) := next.feedAll second
      (steps ++ others, last) := by
  induction first generalizing gatherer with
  | nil => rfl
  | cons line lines ih => simp [feedAll, ih]

end Gatherer

/-! ## Segments

A list falls into segments, each of which ends at the first element of a given
kind.  Elements behind the last such element form no segment. -/

namespace Segments

/-- The segments of a list, and the elements behind the last of them. -/
def divide {α : Type} (ends : α → Bool) : List α → List (List α) × List α
  | [] => ([], [])
  | item :: items =>
      if ends item then
        let (segments, rest) := divide ends items
        ([item] :: segments, rest)
      else
        match divide ends items with
        | ([], rest) => ([], item :: rest)
        | (segment :: segments, rest) => ((item :: segment) :: segments, rest)

def ends (line : Text) : Bool :=
  Text.contains Insert.terminator line

def of (lines : List Text) : List (List Text) × List Text :=
  divide ends lines

def statement (segment : List Text) : Text :=
  Text.trimEnd segment.flatten

def statements (lines : List Text) : List Text × Text :=
  let (segments, rest) := of lines
  (segments.map statement, rest.flatten)

/-- The bytes behind the last line that ends a segment. -/
def unfinished (input : Input) : List UInt8 :=
  (divide (fun line => ends (Utf8.decodeLossy line)) input.lineBytes).2.flatten

theorem flatten_divide {α : Type} (ends : α → Bool) (items : List α) :
    (divide ends items).1.flatten ++ (divide ends items).2 = items := by
  induction items with
  | nil => rfl
  | cons item items ih =>
      simp only [divide]
      split
      · simpa using ih
      · split
        · next rest divided =>
            rw [divided] at ih
            simpa using ih
        · next segment segments rest divided =>
            rw [divided] at ih
            simpa using ih

theorem any_rest_divide {α : Type} (ends : α → Bool) (items : List α) :
    (divide ends items).2.any ends = false := by
  induction items with
  | nil => rfl
  | cons item items ih =>
      simp only [divide]
      split
      · exact ih
      · next open_ =>
          split
          · next rest divided =>
              rw [divided] at ih
              simpa [open_] using ih
          · next segment segments rest divided =>
              rw [divided] at ih
              exact ih

theorem divide_map {α β : Type} (ends : β → Bool) (convert : α → β) (items : List α) :
    divide ends (items.map convert) =
      ((divide (ends ∘ convert) items).1.map (List.map convert),
        (divide (ends ∘ convert) items).2.map convert) := by
  induction items with
  | nil => rfl
  | cons item items ih =>
      simp only [List.map_cons, divide, ih, Function.comp_apply]
      cases divided : divide (ends ∘ convert) items with
      | mk segments rest =>
          by_cases ended : ends (convert item) = true
          · simp [ended]
          · cases segments <;> simp [ended]

end Segments

end SqlDump
