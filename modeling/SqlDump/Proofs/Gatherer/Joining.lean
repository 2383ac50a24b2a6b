import SqlDump.Proofs.Gatherer.Segmentation

/-!
# Inputs that are joined at a line break

Behind a line break, more bytes change no line in front of it.  The statements of
both parts together are those of the front part, and then those of the lines that
the front part leaves unfinished with the other part behind them.
-/

namespace SqlDump

/-! ## Lines -/

namespace Input

def IsComplete (line : List UInt8) : Prop :=
  ∃ body : List UInt8, newline ∉ body ∧ line = body ++ [newline]

/-- The bytes are empty or end with a newline, so that a line starts behind them. -/
def EndsLine (bytes : List UInt8) : Prop :=
  bytes = [] ∨ ∃ body : List UInt8, bytes = body ++ [newline]

/-- Complete lines are read in front of the lines of what follows them. -/
theorem lineBytes_flatten_append {lines : List (List UInt8)}
    (complete : ∀ line ∈ lines, IsComplete line) (more : List UInt8) (fault? : Option Fault) :
    lineBytes ⟨lines.flatten ++ more, fault?⟩ = lines ++ lineBytes ⟨more, fault?⟩ := by
  induction lines with
  | nil => rfl
  | cons line lines ih =>
      obtain ⟨body, unbroken, rfl⟩ := complete line List.mem_cons_self
      rw [List.flatten_cons, List.append_assoc, List.append_assoc, List.singleton_append,
        lineBytes_append_newline unbroken,
        ih fun other member => complete other (List.mem_cons_of_mem _ member), List.cons_append]

theorem EndsLine.of_append {body rest : List UInt8} (ended : EndsLine (body ++ newline :: rest)) :
    EndsLine rest := by
  rcases List.eq_nil_or_concat rest with rfl | ⟨start, last, rfl⟩
  · exact Or.inl rfl
  · rcases ended with empty | ⟨front, same⟩
    · simp at empty
    · rw [List.concat_eq_append, ← List.cons_append, ← List.append_assoc] at same
      obtain ⟨_, lastEq⟩ := List.append_inj' same rfl
      exact Or.inr ⟨start, by rw [List.concat_eq_append, lastEq]⟩

theorem EndsLine.exists_lines {bytes : List UInt8} (ended : EndsLine bytes) :
    ∃ lines : List (List UInt8), (∀ line ∈ lines, IsComplete line) ∧ lines.flatten = bytes := by
  induction bytes using Text.lineInduction newline with
  | last body unbroken =>
      rcases ended with rfl | ⟨front, rfl⟩
      · exact ⟨[], nofun, rfl⟩
      · exact absurd (List.mem_append_right front (List.mem_singleton.mpr rfl)) unbroken
  | line body rest unbroken ih =>
      obtain ⟨lines, complete, rfl⟩ := ih ended.of_append
      refine ⟨(body ++ [newline]) :: lines, fun line member => ?_, by simp⟩
      rcases List.mem_cons.mp member with rfl | later
      · exact ⟨body, unbroken, rfl⟩
      · exact complete line later

end Input

/-! ## Segments -/

namespace Segments

/-- The segments of two lists are those of the first one, and then those of its
open rest and the second one. -/
theorem divide_append {α : Type} (ends : α → Bool) (first second : List α) :
    divide ends (first ++ second) =
      ((divide ends first).1 ++ (divide ends ((divide ends first).2 ++ second)).1,
        (divide ends ((divide ends first).2 ++ second)).2) := by
  induction first with
  | nil => rfl
  | cons item items ih =>
      rw [List.cons_append, divide, divide, ih]
      cases ended : ends item with
      | true => rfl
      | false =>
          cases divide ends items with
          | mk segments rest =>
              cases segments with
              | nil => simp [divide, ended]
              | cons segment segments => rfl

theorem exists_last_of_mem_divide {α : Type} {ends : α → Bool} {items segment : List α}
    (member : segment ∈ (divide ends items).1) :
    ∃ body last, segment = body ++ [last] ∧ ends last = true := by
  induction items generalizing segment with
  | nil => cases member
  | cons item items ih =>
      rw [divide] at member
      split at member
      · next ended =>
          rcases List.mem_cons.mp member with rfl | later
          · exact ⟨[], item, rfl, ended⟩
          · exact ih later
      · split at member
        · cases member
        · next first others rest divided =>
            rw [divided] at ih
            rcases List.mem_cons.mp member with rfl | later
            · obtain ⟨body, last, rfl, ended⟩ := ih List.mem_cons_self
              exact ⟨item :: body, last, rfl, ended⟩
            · exact ih (List.mem_cons_of_mem _ later)

/-- In front of the open rest, the last element is of the given kind. -/
theorem ends_of_getLast?_flatten {α : Type} {ends : α → Bool} {items : List α} {last : α}
    (found : (divide ends items).1.flatten.getLast? = some last) : ends last = true := by
  rcases List.eq_nil_or_concat (divide ends items).1 with none_ | ⟨others, segment, same⟩
  · rw [none_] at found
    cases found
  · have member : segment ∈ (divide ends items).1 := by
      rw [same, List.concat_eq_append]
      exact List.mem_append_right others (List.mem_singleton.mpr rfl)
    obtain ⟨body, final, rfl, ended⟩ := exists_last_of_mem_divide member
    rw [same, List.concat_eq_append, List.flatten_append, List.flatten_singleton,
      ← List.append_assoc, List.getLast?_concat] at found
    rwa [← Option.some.inj found]

theorem statements_append (first second : List Text) :
    statements (first ++ second) =
      ((statements first).1 ++ (statements ((of first).2 ++ second)).1,
        (statements ((of first).2 ++ second)).2) := by
  simp only [statements, of, divide_append ends first second, List.map_append]

theorem statements_append_of_endsLine {front : List UInt8} (ended : Input.EndsLine front)
    (back : List UInt8) :
    let joined := statements (Input.lines ⟨unfinished ⟨front, none⟩ ++ back, none⟩)
    statements (Input.lines ⟨front ++ back, none⟩) =
      ((statements (Input.lines ⟨front, none⟩)).1 ++ joined.1, joined.2) := by
  intro joined
  obtain ⟨lines, complete, rfl⟩ := ended.exists_lines
  have read : Input.lineBytes ⟨lines.flatten, none⟩ = lines := by
    have alone := Input.lineBytes_flatten_append complete [] none
    rw [List.append_nil] at alone
    exact alone.trans (List.append_nil lines)
  cases divided : divide (ends ∘ Utf8.decodeLossy) lines with
  | mk segments opened =>
      have kept := flatten_divide (ends ∘ Utf8.decodeLossy) lines
      rw [divided] at kept
      have openedComplete : ∀ line ∈ opened, Input.IsComplete line :=
        fun line member => complete line (kept ▸ List.mem_append_right _ member)
      have rest : unfinished ⟨lines.flatten, none⟩ = opened.flatten := by
        rw [unfinished, read]
        exact congrArg (fun parts => parts.2.flatten) divided
      have openedOf : (of (lines.map Utf8.decodeLossy)).2 = opened.map Utf8.decodeLossy := by
        rw [of, divide_map, divided]
      have joinedEq : joined = statements (opened.map Utf8.decodeLossy ++
          (Input.lineBytes ⟨back, none⟩).map Utf8.decodeLossy) := by
        rw [← List.map_append, ← Input.lineBytes_flatten_append openedComplete, ← rest]
        rfl
      rw [joinedEq, Input.lines, Input.lines, Input.lineBytes_flatten_append complete, read,
        List.map_append, statements_append, openedOf]

end Segments

/-! ## The last completed statement -/

namespace Gatherer

/-- The last line in front of the cut has completed a statement, unless there is
none, and no line behind the cut completes one. -/
structure IsLastCut (completed opened : List Text) : Prop where
  front : completed = [] ∨
    ∃ statement, (empty.feedAll completed).1.getLast? = some (some statement)
  back : ∀ step ∈ ((empty.feedAll completed).2.feedAll opened).1, step = none

theorem length_feedAll (gatherer : Gatherer) (lines : List Text) :
    (gatherer.feedAll lines).1.length = lines.length := by
  induction lines generalizing gatherer with
  | nil => rfl
  | cons line lines ih =>
      rw [feedAll, List.length_cons, List.length_cons, ih]

/-- Each line tells by itself whether a statement comes out behind it. -/
theorem isLastCut_of_ends {completed opened : List Text}
    (isHeld : IsHeld [] (completed ++ opened))
    (lastEnds : ∀ last, completed.getLast? = some last → Segments.ends last = true)
    (noEnd : opened.any Segments.ends = false) : IsLastCut completed opened := by
  have fed : (empty.feedAll (completed ++ opened)).1 =
      (empty.feedAll completed).1 ++ ((empty.feedAll completed).2.feedAll opened).1 := by
    rw [feedAll_append]
  have told := map_isSome_feedAll isHeld
  rw [show (⟨[]⟩ : Gatherer) = empty from rfl, fed, List.map_append, List.map_append] at told
  obtain ⟨frontTold, backTold⟩ := List.append_inj told (by simp [length_feedAll])
  constructor
  · cases found : completed.getLast? with
    | none => exact Or.inl (List.getLast?_eq_none_iff.mp found)
    | some last =>
        have lastTold := congrArg List.getLast? frontTold
        rw [List.getLast?_map, List.getLast?_map, found, Option.map_some,
          lastEnds last found] at lastTold
        obtain ⟨step, stepFound, given⟩ := Option.map_eq_some_iff.mp lastTold
        obtain ⟨statement, rfl⟩ := Option.isSome_iff_exists.mp given
        exact Or.inr ⟨statement, stepFound⟩
  · intro step member
    have stepTold : step.isSome ∈ opened.map Segments.ends :=
      backTold ▸ List.mem_map_of_mem member
    obtain ⟨line, lineMember, ended⟩ := List.mem_map.mp stepTold
    have notEnded := List.any_eq_false.mp noEnd line lineMember
    rw [ended, Bool.not_eq_true, Option.isSome_eq_false_iff, Option.isNone_iff_eq_none] at notEnded
    exact notEnded

/-- The unfinished bytes are the lines behind the last one that completes a statement. -/
theorem exists_isLastCut (input : Input) :
    ∃ completed opened : List (List UInt8), input.lineBytes = completed ++ opened ∧
      opened.flatten = Segments.unfinished input ∧
      IsLastCut (completed.map Utf8.decodeLossy) (opened.map Utf8.decodeLossy) := by
  have kept := Segments.flatten_divide (Segments.ends ∘ Utf8.decodeLossy) input.lineBytes
  have divided := Segments.divide_map Segments.ends Utf8.decodeLossy input.lineBytes
  refine ⟨_, _, kept.symm, rfl, isLastCut_of_ends ?_ ?_ ?_⟩
  · rw [← List.map_append, kept]
    exact isHeld_nil_lines input
  · intro last found
    refine @Segments.ends_of_getLast?_flatten _ Segments.ends input.lines last ?_
    rwa [Input.lines, divided, ← List.map_flatten]
  · have noEnd := Segments.any_rest_divide Segments.ends input.lines
    rwa [Input.lines, divided] at noEnd

end Gatherer

end SqlDump
