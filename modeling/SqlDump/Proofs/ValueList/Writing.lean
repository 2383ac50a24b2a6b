import SqlDump.Proofs.ValueList.Reading

/-!
# Writing a value list

The values that come out of a value list are canonical, and canonical values
come out of the list that is written from them.  One list of canonical values
is no list at all: a single empty value is written as an empty list.
-/

namespace SqlDump

namespace Scan

theorem undivided?_of_mem_pieces {scan : Scan} {text piece : Text} {others : List Text}
    (ran : scan.run text = some clear) (divided : scan.pieces text = piece :: others) :
    scan.undivided? piece = some clear ∧
      ∀ other ∈ others, clear.undivided? other = some clear := by
  induction text generalizing scan piece others with
  | nil =>
      obtain ⟨rfl, rfl⟩ := List.cons.inj divided
      exact ⟨ran, by simp⟩
  | cons c rest ih =>
      rw [pieces] at divided
      rw [run] at ran
      cases stepped : scan.step c with
      | none => rw [stepped] at ran; cases ran
      | some next =>
          rw [stepped] at ran divided
          rw [Option.getD_some] at divided
          split at divided
          · next divides =>
              obtain ⟨rfl, rfl⟩ := List.cons.inj divided
              obtain ⟨rfl, rfl⟩ := divides
              have same : clear = next := Option.some.inj stepped
              subst same
              refine ⟨rfl, fun other member => ?_⟩
              cases parts : clear.pieces rest with
              | nil => exact absurd parts (pieces_ne_nil clear rest)
              | cons first more =>
                  obtain ⟨firstPassed, morePassed⟩ := ih ran parts
                  rw [parts] at member
                  rcases List.mem_cons.mp member with rfl | inMore
                  · exact firstPassed
                  · exact morePassed other inMore
          · next apart =>
              cases parts : next.pieces rest with
              | nil => exact absurd parts (pieces_ne_nil next rest)
              | cons first more =>
                  rw [parts] at divided
                  obtain ⟨rfl, rfl⟩ := List.cons.inj divided
                  obtain ⟨firstPassed, morePassed⟩ := ih ran parts
                  exact ⟨(undivided?_cons apart stepped first).trans firstPassed, morePassed⟩

theorem text_valueOfPiece (piece : Text) : (valueOfPiece piece).text = piece.trim := by
  rw [valueOfPiece]
  split <;> rfl

theorem isCanonical_valueOfPiece {piece : Text} (passed : clear.undivided? piece = some clear) :
    (valueOfPiece piece).IsCanonical where
  trimmed := by rw [text_valueOfPiece, Text.trim_trim]
  balanced := by
    rw [text_valueOfPiece, Scan.balanced, run_of_undivided? (undivided?_trim passed)]
    rfl
  undivided := by rw [text_valueOfPiece, pieces_of_undivided? (undivided?_trim passed)]
  kind := by
    rw [text_valueOfPiece, valueOfPiece]
    split
    · next literal => exact ⟨fun _ => literal, fun _ => ⟨_, rfl⟩⟩
    · next notLiteral =>
        constructor
        · rintro ⟨text, impossible⟩
          cases impossible
        · intro literal
          exact absurd literal notLiteral

end Scan

namespace Value

open Scan (clear)

/-- A canonical value is passed over with nothing open behind it. -/
theorem IsCanonical.passed {value : Value} (canonical : value.IsCanonical) :
    clear.undivided? value.text = some clear :=
  Scan.undivided?_of_pieces (of_decide_eq_true canonical.balanced) canonical.undivided

/-- A canonical value is the value of its own text, also with blanks in front. -/
theorem IsCanonical.valueOfPiece_append {value : Value} (canonical : value.IsCanonical)
    {blanks : Text} (blank : blanks.isAllBlank = true) :
    Scan.valueOfPiece (blanks ++ value.text) = value := by
  rw [Scan.valueOfPiece, Text.trim_append_of_isAllBlank blank, canonical.trimmed]
  cases value with
  | quoted text =>
      have literal : Scan.isLiteral text = true := canonical.kind.mp ⟨text, rfl⟩
      rw [Value.text, if_pos literal]
  | bare text =>
      have notLiteral : ¬ Scan.isLiteral text = true := by
        intro literal
        obtain ⟨other, impossible⟩ := canonical.kind.mpr literal
        cases impossible
      rw [Value.text, if_neg notLiteral]

/-- The only canonical value of blanks is the empty bare one. -/
theorem IsCanonical.eq_bare_nil {value : Value} (canonical : value.IsCanonical)
    (blank : value.text.isAllBlank = true) : value = .bare [] := by
  have empty : value.text = [] := by
    rw [← canonical.trimmed]
    exact (Text.trim_eq_nil_iff value.text).mpr blank
  have same := canonical.valueOfPiece_append Text.isAllBlank_nil
  rw [empty] at same
  exact same.symm

end Value

namespace ValueList

open Scan (clear)

theorem write_singleton (value : Value) : write [value] = value.text := by
  simp [write, List.intercalate]

theorem write_cons_cons (value other : Value) (rest : List Value) :
    write (value :: other :: rest) = value.text ++ ',' :: ' ' :: write (other :: rest) := by
  simp [write, List.intercalate]

/-- What comes out of a value list is canonical, and is not a single empty value. -/
theorem isCanonical_of_read {text : Text} {values : List Value}
    (found : read text = .ok values) :
    (∀ value ∈ values, value.IsCanonical) ∧ values ≠ [.bare []] := by
  rw [read_eq_ok_iff, Scan.read?] at found
  split at found
  · cases found
    exact ⟨by simp, by simp⟩
  · next solid =>
      split at found
      · next closed =>
          have same := Option.some.inj found
          subst same
          have ran : clear.run text = some clear := of_decide_eq_true closed
          cases parts : clear.pieces text with
          | nil => exact absurd parts (Scan.pieces_ne_nil clear text)
          | cons piece others =>
              obtain ⟨piecePassed, othersPassed⟩ := Scan.undivided?_of_mem_pieces ran parts
              constructor
              · intro value member
                obtain ⟨raw, rawMember, rfl⟩ := List.mem_map.mp member
                apply Scan.isCanonical_valueOfPiece
                rcases List.mem_cons.mp rawMember with rfl | inOthers
                · exact piecePassed
                · exact othersPassed raw inOthers
              · intro single
                obtain ⟨value, none_⟩ := List.cons.inj single
                have whole : piece = text := by
                  have joined := Scan.intercalate_pieces clear text
                  rw [parts, List.map_eq_nil_iff.mp none_] at joined
                  simpa [List.intercalate] using joined
                have empty := congrArg Value.text value
                rw [Scan.text_valueOfPiece, whole] at empty
                exact solid ((Text.trim_eq_nil_iff text).mp empty)
      · cases found

/-- A written list is divided just between its values. -/
theorem pieces_write {value : Value} {rest : List Value}
    (canonical : ∀ other ∈ value :: rest, other.IsCanonical) :
    clear.pieces (write (value :: rest)) =
      value.text :: rest.map fun other => ' ' :: other.text := by
  induction rest generalizing value with
  | nil =>
      have passed := (canonical value (List.mem_singleton.mpr rfl)).passed
      rw [write_singleton, Scan.pieces_of_undivided? passed]
      rfl
  | cons other rest ih =>
      have passed := (canonical value List.mem_cons_self).passed
      have later := ih fun member inRest => canonical member (List.mem_cons_of_mem value inRest)
      have space : clear.undivided? [' '] = some clear := rfl
      rw [write_cons_cons, Scan.pieces_append_comma passed, List.map_cons]
      exact congrArg _ (Scan.pieces_append_of_undivided? space later)

theorem run_write {values : List Value} (canonical : ∀ value ∈ values, value.IsCanonical) :
    clear.run (write values) = some clear := by
  induction values with
  | nil => rfl
  | cons value rest ih =>
      have passed := (canonical value List.mem_cons_self).passed
      have later := ih fun member inRest => canonical member (List.mem_cons_of_mem value inRest)
      cases rest with
      | nil => rw [write_singleton, Scan.run_of_undivided? passed]
      | cons other rest =>
          rw [write_cons_cons, Scan.run_append_of_undivided? passed]
          exact later

/-- A written list of blanks only has no value, or a single empty one. -/
theorem solid_write {value : Value} {rest : List Value}
    (canonical : ∀ other ∈ value :: rest, other.IsCanonical) (ne : value :: rest ≠ [.bare []]) :
    (write (value :: rest)).isAllBlank = false := by
  cases rest with
  | nil =>
      rw [write_singleton, Bool.eq_false_iff]
      intro blank
      exact ne (by rw [(canonical value (List.mem_singleton.mpr rfl)).eq_bare_nil blank])
  | cons other rest =>
      rw [write_cons_cons, Text.isAllBlank_append, Bool.and_eq_false_iff]
      exact Or.inr rfl

theorem read_write {values : List Value} (canonical : ∀ value ∈ values, value.IsCanonical)
    (ne : values ≠ [.bare []]) : read (write values) = .ok values := by
  cases values with
  | nil => rfl
  | cons value rest =>
      rw [read_eq_ok_iff, Scan.read?, solid_write canonical ne, if_neg Bool.false_ne_true,
        Scan.balanced, run_write canonical, decide_eq_true rfl, if_pos rfl,
        pieces_write canonical, List.map_cons, List.map_map]
      have first : Scan.valueOfPiece value.text = value :=
        (canonical value List.mem_cons_self).valueOfPiece_append Text.isAllBlank_nil
      have others : rest.map (Scan.valueOfPiece ∘ fun other => ' ' :: other.text) = rest := by
        have each : ∀ other ∈ rest, Scan.valueOfPiece (' ' :: other.text) = other := by
          intro other member
          have blank : Text.isAllBlank [' '] = true := rfl
          exact (canonical other (List.mem_cons_of_mem value member)).valueOfPiece_append blank
        exact (List.map_congr_left each).trans (List.map_id rest)
      rw [first, others]

/-- Reading and writing are inverse on exactly the lists that can be read: the
lists of canonical values other than that of a single empty value. -/
theorem read_iff_canonical_iff_read_write (values : List Value) :
    ((∃ text, read text = .ok values) ↔
      (∀ value ∈ values, value.IsCanonical) ∧ values ≠ [.bare []]) ∧
    ((∀ value ∈ values, value.IsCanonical) ∧ values ≠ [.bare []] ↔
      read (write values) = .ok values) := by
  constructor
  · constructor
    · rintro ⟨text, found⟩
      exact isCanonical_of_read found
    · rintro ⟨canonical, ne⟩
      exact ⟨write values, read_write canonical ne⟩
  · constructor
    · rintro ⟨canonical, ne⟩
      exact read_write canonical ne
    · intro found
      exact isCanonical_of_read found

end ValueList

end SqlDump
