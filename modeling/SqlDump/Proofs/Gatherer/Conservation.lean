import Mathlib.Data.List.Induction
import SqlDump.Proofs.Gatherer.Joining
import SqlDump.Proofs.Text.Trimming

/-!
# What gathering keeps

Text may be fed to a gatherer in any chunks, not only in lines.  A terminator may
then come in two halves, or several of them at a time, but nothing that is fed is
lost and nothing comes out twice: behind each statement only blanks are dropped, and
what has not come out is held.
-/

namespace SqlDump

namespace Text

theorem contains_trimEnd {pattern text : Text} {c : Char} (last : pattern.getLast? = some c)
    (solid : isBlank c = false) (inside : contains pattern text = true) :
    contains pattern text.trimEnd = true := by
  obtain ⟨blanks, blank, joined⟩ := trimEnd_append_blanks text
  rw [contains_iff_isInfix] at inside ⊢
  obtain ⟨before, after, found⟩ := inside
  rcases List.append_eq_append_iff.mp (joined.trans found.symm) with
    ⟨beyond, longer, trimmed⟩ | ⟨beyond, shorter, _⟩
  · cases final : beyond.getLast? with
    | none =>
        rw [List.getLast?_eq_none_iff.mp final, List.append_nil] at longer
        exact ⟨before, [], by rw [List.append_nil, longer]⟩
    | some d =>
        -- the last character of the pattern would be one of the blanks
        have same : (before ++ pattern).getLast? = some d := by
          rw [longer, List.getLast?_append, final, Option.some_or]
        rw [List.getLast?_append, last, Option.some_or] at same
        have member : c ∈ blanks := by
          rw [trimmed, Option.some.inj same]
          exact List.mem_append_left after (List.mem_of_getLast? final)
        rw [List.all_eq_true.mp blank c member] at solid
        cases solid
  · exact ⟨before, beyond, shorter.symm⟩

theorem isBlank_of_getLast?_trimEnd {text : Text} {c : Char}
    (last : text.trimEnd.getLast? = some c) : isBlank c = false := by
  rcases trimEnd_cases text with empty | ⟨rest, d, solid, same⟩
  · rw [empty] at last
    cases last
  · rw [same, List.getLast?_concat] at last
    rwa [← Option.some.inj last]

end Text

namespace Gatherer

variable {gatherer : Gatherer} {chunk statement : Text}

/-! ## One chunk -/

/-- A statement comes out exactly if what is held then holds a terminator. -/
theorem isSome_feed (gatherer : Gatherer) (chunk : Text) :
    (gatherer.feed chunk).1.isSome =
      Text.contains Insert.terminator (gatherer.held ++ chunk) := by
  rw [feed]
  cases Text.contains Insert.terminator (gatherer.held ++ chunk) <;> rfl

/-- A statement is all that was held, without the blanks at its end; nothing is held
behind it. -/
theorem eq_of_feed_eq_some (came : (gatherer.feed chunk).1 = some statement) :
    Text.contains Insert.terminator (gatherer.held ++ chunk) = true ∧
      statement = (gatherer.held ++ chunk).trimEnd ∧ (gatherer.feed chunk).2 = empty := by
  rw [feed] at came ⊢
  split at came
  · next ended => exact ⟨ended, (Option.some.inj came).symm, by rw [if_pos ended]⟩
  · cases came

theorem eq_of_feed_eq_none (silent : (gatherer.feed chunk).1 = none) :
    Text.contains Insert.terminator (gatherer.held ++ chunk) = false ∧
      (gatherer.feed chunk).2 = ⟨gatherer.held ++ chunk⟩ := by
  rw [feed] at silent ⊢
  split at silent
  · cases silent
  · next opened => exact ⟨Bool.eq_false_iff.mpr opened, by rw [if_neg opened]⟩

theorem contains_of_feed_eq_some (came : (gatherer.feed chunk).1 = some statement) :
    Text.contains Insert.terminator statement = true ∧
      ∀ c, statement.getLast? = some c → Text.isBlank c = false := by
  obtain ⟨ended, rfl, _⟩ := eq_of_feed_eq_some came
  exact ⟨Text.contains_trimEnd rfl (by decide : Text.isBlank ';' = false) ended,
    fun _ => Text.isBlank_of_getLast?_trimEnd⟩

/-- No chunk leaves a terminator held. -/
theorem contains_held_feed (gatherer : Gatherer) (chunk : Text) :
    Text.contains Insert.terminator (gatherer.feed chunk).2.held = false := by
  cases came : (gatherer.feed chunk).1 with
  | none =>
      obtain ⟨opened, next⟩ := eq_of_feed_eq_none came
      rw [next]
      exact opened
  | some statement =>
      rw [(eq_of_feed_eq_some came).2.2]
      rfl

/-! ## All chunks -/

theorem steps_feedAll_append (gatherer : Gatherer) (first second : List Text) :
    (gatherer.feedAll (first ++ second)).1 =
      (gatherer.feedAll first).1 ++ ((gatherer.feedAll first).2.feedAll second).1 := by
  rw [feedAll_append]

theorem last_feedAll_append (gatherer : Gatherer) (first second : List Text) :
    (gatherer.feedAll (first ++ second)).2 = ((gatherer.feedAll first).2.feedAll second).2 := by
  rw [feedAll_append]

theorem contains_held_feedAll (opened : Text.contains Insert.terminator gatherer.held = false)
    (chunks : List Text) :
    Text.contains Insert.terminator (gatherer.feedAll chunks).2.held = false := by
  induction chunks generalizing gatherer with
  | nil => exact opened
  | cons chunk chunks ih => exact ih (contains_held_feed gatherer chunk)

theorem contains_of_mem_feedAll {chunks : List Text}
    (member : some statement ∈ (gatherer.feedAll chunks).1) :
    Text.contains Insert.terminator statement = true ∧
      ∀ c, statement.getLast? = some c → Text.isBlank c = false := by
  induction chunks generalizing gatherer with
  | nil => cases member
  | cons chunk chunks ih =>
      rcases List.mem_cons.mp member with now | later
      · exact contains_of_feed_eq_some now.symm
      · exact ih later

/-- What is held and what is fed comes out again, up to the blanks behind each
statement, or is held in the end. -/
theorem exists_blanks_feedAll (gatherer : Gatherer) (chunks : List Text) :
    ∃ parts : List (Text × Text),
      parts.map Prod.fst = (gatherer.feedAll chunks).1.filterMap id ∧
      (∀ part ∈ parts, part.2.isAllBlank = true) ∧
      parts.flatMap (fun part => part.1 ++ part.2) ++ (gatherer.feedAll chunks).2.held =
        gatherer.held ++ chunks.flatten := by
  induction chunks generalizing gatherer with
  | nil => exact ⟨[], rfl, nofun, (List.append_nil gatherer.held).symm⟩
  | cons chunk chunks ih =>
      obtain ⟨parts, statements, blank, joined⟩ := ih (gatherer.feed chunk).2
      have stepped : (gatherer.feedAll (chunk :: chunks)).1.filterMap id =
          (gatherer.feed chunk).1.toList ++ parts.map Prod.fst := by
        rw [statements]
        cases came : (gatherer.feed chunk).1 with
        | none => simp [feedAll, came]
        | some statement => simp [feedAll, came]
      have held : (gatherer.feedAll (chunk :: chunks)).2.held =
          ((gatherer.feed chunk).2.feedAll chunks).2.held := rfl
      rw [stepped, held, List.flatten_cons, ← List.append_assoc]
      cases came : (gatherer.feed chunk).1 with
      | none =>
          rw [(eq_of_feed_eq_none came).2] at joined ⊢
          exact ⟨parts, rfl, blank, joined⟩
      | some statement =>
          obtain ⟨_, rfl, next⟩ := eq_of_feed_eq_some came
          rw [next] at joined ⊢
          obtain ⟨gap, gapBlank, whole⟩ := Text.trimEnd_append_blanks (gatherer.held ++ chunk)
          refine ⟨((gatherer.held ++ chunk).trimEnd, gap) :: parts, rfl, ?_, ?_⟩
          · intro part member
            rcases List.mem_cons.mp member with rfl | later
            · exact gapBlank
            · exact blank part later
          · rw [List.flatMap_cons, whole, List.append_assoc, joined]
            rfl

/-! ## The chunks since the last statement -/

theorem held_feedAll_of_none {chunks : List Text}
    (silent : ∀ step ∈ (gatherer.feedAll chunks).1, step = none) :
    (gatherer.feedAll chunks).2.held = gatherer.held ++ chunks.flatten := by
  induction chunks generalizing gatherer with
  | nil => exact (List.append_nil gatherer.held).symm
  | cons chunk chunks ih =>
      have now : (gatherer.feed chunk).1 = none := silent _ List.mem_cons_self
      obtain ⟨_, same⟩ := eq_of_feed_eq_none now
      have later := @ih (gatherer.feed chunk).2 fun step member =>
        silent step (List.mem_cons_of_mem _ member)
      rw [List.flatten_cons, ← List.append_assoc]
      exact later.trans (by rw [same])

/-- Behind a chunk that completes a statement nothing is held. -/
theorem feedAll_eq_empty_of_getLast? {chunks : List Text}
    (last : (gatherer.feedAll chunks).1.getLast? = some (some statement)) :
    (gatherer.feedAll chunks).2 = empty := by
  rcases List.eq_nil_or_concat chunks with rfl | ⟨front, chunk, rfl⟩
  · cases last
  · rw [List.concat_eq_append] at last ⊢
    rw [steps_feedAll_append] at last
    have came : ((gatherer.feedAll front).2.feed chunk).1 = some statement :=
      Option.some.inj (List.getLast?_concat.symm.trans last)
    rw [last_feedAll_append]
    exact (eq_of_feed_eq_some came).2.2

theorem IsLastCut.held {completed opened : List Text} (cut : IsLastCut completed opened) :
    (empty.feedAll (completed ++ opened)).2.held = opened.flatten := by
  have afresh : (empty.feedAll completed).2 = empty := by
    rcases cut.front with rfl | ⟨statement, last⟩
    · rfl
    · exact feedAll_eq_empty_of_getLast? last
  rw [last_feedAll_append, held_feedAll_of_none cut.back, afresh]
  rfl

/-- Any chunks can be cut behind the last one that completes a statement. -/
theorem exists_isLastCut_chunks (chunks : List Text) :
    ∃ completed opened, chunks = completed ++ opened ∧ IsLastCut completed opened := by
  induction chunks using List.reverseRecOn with
  | nil => exact ⟨[], [], rfl, Or.inl rfl, nofun⟩
  | append_singleton chunks chunk ih =>
      obtain ⟨completed, opened, rfl, cut⟩ := ih
      cases came : ((empty.feedAll (completed ++ opened)).2.feed chunk).1 with
      | some statement =>
          refine ⟨completed ++ opened ++ [chunk], [], (List.append_nil _).symm,
            Or.inr ⟨statement, ?_⟩, nofun⟩
          rw [steps_feedAll_append, ← came]
          exact List.getLast?_concat
      | none =>
          refine ⟨completed, opened ++ [chunk], List.append_assoc _ _ _, cut.front, ?_⟩
          intro step member
          rw [steps_feedAll_append] at member
          rw [last_feedAll_append] at came
          rcases List.mem_append.mp member with early | late
          · exact cut.back step early
          · exact (List.mem_singleton.mp late).trans came

theorem getElem?_feedAll (gatherer : Gatherer) (front back : List Text) (chunk : Text) :
    (gatherer.feedAll (front ++ chunk :: back)).1[front.length]? =
      some ((gatherer.feedAll front).2.feed chunk).1 := by
  rw [steps_feedAll_append, ← length_feedAll gatherer front,
    List.getElem?_append_right (Nat.le_refl _), Nat.sub_self]
  rfl

/-- Gathering loses nothing and gives nothing out twice, whatever the chunks are.  A
statement comes out behind a chunk exactly if a terminator lies in all the chunks since
the last statement, this one with them; so none is held in between.  Each statement
holds a terminator and does not end in a blank.  The chunks together are the statements,
blanks behind each of them, and what is left, which holds no terminator.  If each chunk
but the last ends with a line break, it is told by each chunk itself whether a statement
comes out behind it. -/
theorem feedAll_conserves (chunks : List Text) :
    let steps := (empty.feedAll chunks).1
    let statements := steps.filterMap id
    let left := ((empty.feedAll chunks).2.leftover?).getD []
    (∀ (front back : List Text) (chunk : Text), chunks = front ++ chunk :: back →
      Text.contains Insert.terminator (empty.feedAll front).2.held = false ∧
      (∃ completed opened, front = completed ++ opened ∧ IsLastCut completed opened) ∧
      ∀ completed opened, front = completed ++ opened → IsLastCut completed opened →
        (empty.feedAll front).2.held = opened.flatten ∧
        (steps[front.length]?).map Option.isSome =
          some (Text.contains Insert.terminator (opened.flatten ++ chunk))) ∧
    (∀ statement ∈ statements, Text.contains Insert.terminator statement = true ∧
      ∀ c, statement.getLast? = some c → Text.isBlank c = false) ∧
    (∃ parts : List (Text × Text), parts.map Prod.fst = statements ∧
      (∀ part ∈ parts, part.2.isAllBlank = true) ∧
      parts.flatMap (fun part => part.1 ++ part.2) ++ left = chunks.flatten) ∧
    Text.contains Insert.terminator left = false ∧
    ((∀ chunk ∈ chunks.dropLast, ∃ body : Text, chunk = body ++ ['\n']) →
      steps.map Option.isSome = chunks.map (Text.contains Insert.terminator)) := by
  intro steps statements left
  have leftEq : left = (empty.feedAll chunks).2.held := by
    change ((empty.feedAll chunks).2.leftover?).getD [] = _
    rw [leftover?]
    split
    · next nothing => exact nothing.symm
    · rfl
  refine ⟨fun front back chunk split => ⟨?_, ?_, fun completed opened same cut => ?_⟩,
    fun statement member => ?_, ?_, ?_, fun broken => ?_⟩
  · exact contains_held_feedAll rfl front
  · exact exists_isLastCut_chunks front
  · have held : (empty.feedAll front).2.held = opened.flatten := same ▸ cut.held
    refine ⟨held, ?_⟩
    change ((empty.feedAll chunks).1[front.length]?).map Option.isSome = _
    rw [split, getElem?_feedAll, Option.map_some, isSome_feed, held]
  · obtain ⟨step, given, came⟩ := List.mem_filterMap.mp member
    cases came
    exact contains_of_mem_feedAll given
  · rw [leftEq]
    exact exists_blanks_feedAll empty chunks
  · rw [leftEq]
    exact contains_held_feedAll rfl chunks
  · have isHeld : IsHeld [] chunks := by
      refine ⟨rfl, fun line member => ?_⟩
      rcases (Text.mem_dropLast_cons.mp member).2 with rfl | later
      · exact Or.inl rfl
      · exact Or.inr (broken line later)
    exact map_isSome_feedAll isHeld

/-- A terminator in two halves completes a statement, and two of them only one. -/
example :
    empty.feedAll ["(1)".toList, "; (2);\t".toList, "(3".toList] =
      ([none, some "(1); (2);".toList, none], ⟨"(3".toList⟩) := by decide

end Gatherer

end SqlDump
