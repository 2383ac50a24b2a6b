import SqlDump.Proofs.Gatherer.Watch
import SqlDump.Proofs.Text.Lines
import SqlDump.Proofs.Text.Occurrences
import SqlDump.Proofs.Text.Trimming

/-!
# Gathered statements

A text is a statement if nothing can be trimmed from its end and it is watched
to its end with a terminator seen.  These are exactly the texts that gathering
gives out and gives out again: whatever is read, every gathered text is a
statement, and statements written one to a line are gathered again as they are.
-/

namespace SqlDump

structure IsStatement (text : Text) : Prop where
  trimmed : text.trimEnd = text
  watched : ∃ last, Watch.start.run text = some last ∧ last.ended = true

namespace Watch

/-- A text without a terminator that is watched to its end. -/
def IsOpen (text : Text) : Prop :=
  ∃ last, start.run text = some last ∧ last.ended = false

theorem isOpen_nil : IsOpen [] :=
  ⟨start, rfl, rfl⟩

theorem run_append_newline {text : Text} {watch : Watch} (ran : start.run text = some watch)
    (unended : watch.ended = false) : start.run (text ++ ['\n']) = some ⟨false, false⟩ := by
  rw [run_append, ran, Option.bind_some, run, step, unended]
  simp [run]

theorem IsOpen.append_newline {text : Text} (opened : IsOpen text) :
    IsOpen (text ++ ['\n']) := by
  obtain ⟨watch, ran, unended⟩ := opened
  exact ⟨⟨false, false⟩, run_append_newline ran unended, rfl⟩

theorem IsOpen.contains_terminator {text : Text} (opened : IsOpen text) :
    Text.contains Insert.terminator text = false := by
  obtain ⟨last, ran, unended⟩ := opened
  rw [← ended_of_run_start ran, unended]

end Watch

theorem isStatement_trimEnd {text : Text} {last : Watch}
    (ran : Watch.start.run text = some last) (ended : last.ended = true) :
    IsStatement text.trimEnd := by
  obtain ⟨blanks, blank, joined⟩ := Text.trimEnd_append_blanks text
  rw [← joined] at ran
  obtain ⟨next, first, second⟩ := Watch.exists_run_of_run_append ran
  refine ⟨Text.trimEnd_trimEnd text, next, first, ?_⟩
  rw [← (Watch.run_of_isAllBlank blank second).1, ended]

namespace Gatherer

/-- A line either completes a statement or leaves the gatherer open. -/
theorem feed_of_isLine {held line : Text} (opened : Watch.IsOpen held) (proper : line.IsLine) :
    (∃ statement, feed ⟨held⟩ line = (some statement, empty) ∧ IsStatement statement) ∨
      ∃ next, feed ⟨held⟩ line = (none, ⟨next⟩) ∧ Watch.IsOpen next := by
  obtain ⟨body, unbroken, shape⟩ := proper
  obtain ⟨watch, ranHeld, -⟩ := opened
  obtain ⟨last, ranBody⟩ := Watch.exists_run_of_notMem unbroken watch
  have ran : Watch.start.run (held ++ body) = some last := by
    rw [Watch.run_append, ranHeld]
    exact ranBody
  have blank : Text.isAllBlank ['\n'] = true := by decide
  cases ended : last.ended with
  | true =>
      have inside : Text.contains Insert.terminator (held ++ body) = true := by
        rw [← Watch.ended_of_run_start ran, ended]
      refine Or.inl ⟨(held ++ body).trimEnd, ?_, isStatement_trimEnd ran ended⟩
      rcases shape with same | same
      · rw [feed, same, if_pos inside]
      · rw [feed, same, ← List.append_assoc, if_pos (Text.contains_append inside ['\n']),
          Text.trimEnd_append_of_isAllBlank blank]
  | false =>
      have still : Watch.IsOpen (held ++ body) := ⟨last, ran, ended⟩
      refine Or.inr ?_
      rcases shape with same | same
      · refine ⟨held ++ body, ?_, still⟩
        simp [feed, same, still.contains_terminator]
      · have longer := still.append_newline
        rw [List.append_assoc] at longer
        refine ⟨held ++ (body ++ ['\n']), ?_, longer⟩
        simp [feed, same, longer.contains_terminator]

theorem isStatement_of_mem_feedAll {held : Text} {lines : List Text}
    (opened : Watch.IsOpen held) (proper : ∀ line ∈ lines, line.IsLine) {statement : Text}
    (gathered : some statement ∈ (feedAll ⟨held⟩ lines).1) : IsStatement statement := by
  induction lines generalizing held with
  | nil => cases gathered
  | cons line lines ih =>
      have others : ∀ line ∈ lines, line.IsLine :=
        fun other member => proper other (List.mem_cons_of_mem line member)
      rw [feedAll] at gathered
      rcases feed_of_isLine opened (proper line List.mem_cons_self) with
        ⟨first, fed, complete⟩ | ⟨next, fed, still⟩
      · simp only [fed, List.mem_cons, Option.some.injEq] at gathered
        rcases gathered with same | later
        · exact same ▸ complete
        · exact ih Watch.isOpen_nil others later
      · simp only [fed, List.mem_cons, reduceCtorEq, false_or] at gathered
        exact ih still others gathered

theorem isStatement_of_mem_statements {lines : List Text}
    (proper : ∀ line ∈ lines, line.IsLine) {statement : Text}
    (gathered : statement ∈ (statements lines).1) : IsStatement statement := by
  apply isStatement_of_mem_feedAll Watch.isOpen_nil proper
  simpa [statements, empty] using gathered

/-- The rest of a statement, with a line break behind it, completes it. -/
theorem feedAll_lines {held text : Text} {watch last : Watch}
    (ranHeld : Watch.start.run held = some watch) (unended : watch.ended = false)
    (ran : watch.run text = some last) (ended : last.ended = true) :
    ∃ steps, feedAll ⟨held⟩ (Text.lines (text ++ ['\n'])) = (steps, empty) ∧
      steps.filterMap id = [(held ++ text).trimEnd] := by
  induction text using Text.lineInduction '\n' generalizing held watch with
  | last body unbroken =>
      have whole : Watch.start.run (held ++ body) = some last := by
        rw [Watch.run_append, ranHeld]
        exact ran
      have inside : Text.contains Insert.terminator (held ++ body) = true := by
        rw [← Watch.ended_of_run_start whole, ended]
      rw [Text.lines_append_newline unbroken, Text.lines_nil, feedAll, feed, ← List.append_assoc,
        if_pos (Text.contains_append inside ['\n']),
        Text.trimEnd_append_of_isAllBlank (by decide)]
      exact ⟨_, rfl, rfl⟩
  | line body rest unbroken ih =>
      obtain ⟨next, ranBody, ranRest⟩ := Watch.exists_run_of_run_append ran
      -- The watch passes the line break, so no terminator stands before it.
      obtain ⟨still, ranLater⟩ := Watch.run_newline_cons ranRest
      have whole : Watch.start.run (held ++ body) = some next := by
        rw [Watch.run_append, ranHeld]
        exact ranBody
      have ranLonger := Watch.run_append_newline whole still
      rw [List.append_assoc] at ranLonger
      have opened : Watch.IsOpen (held ++ (body ++ ['\n'])) := ⟨_, ranLonger, rfl⟩
      obtain ⟨steps, fed, gathered⟩ := ih ranLonger rfl ranLater
      refine ⟨none :: steps, ?_, ?_⟩
      · have unfinished : feed ⟨held⟩ (body ++ ['\n']) = (none, ⟨held ++ (body ++ ['\n'])⟩) := by
          simp [feed, opened.contains_terminator]
        rw [List.append_assoc, List.cons_append, Text.lines_append_newline unbroken, feedAll,
          unfinished]
        simp only [fed]
      · rw [List.filterMap_cons_none rfl, gathered]
        simp only [List.append_assoc, List.cons_append, List.nil_append]

theorem statements_lines {text : Text} (complete : IsStatement text) :
    ∃ steps, empty.feedAll (Text.lines (text ++ ['\n'])) = (steps, empty) ∧
      steps.filterMap id = [text] := by
  obtain ⟨last, ran, ended⟩ := complete.watched
  obtain ⟨steps, fed, gathered⟩ := @feedAll_lines [] text _ last rfl rfl ran ended
  rw [List.nil_append, complete.trimmed] at gathered
  exact ⟨steps, fed, gathered⟩

def written (texts : List Text) : Text :=
  texts.flatMap fun text => text ++ ['\n']

/-- Statements that are written one to a line are gathered again, and nothing is left. -/
theorem statements_written {texts : List Text} (complete : ∀ text ∈ texts, IsStatement text) :
    statements (written texts).lines = (texts, empty) := by
  have all : ∃ steps, empty.feedAll (written texts).lines = (steps, empty) ∧
      steps.filterMap id = texts := by
    induction texts with
    | nil => exact ⟨[], rfl, rfl⟩
    | cons text texts ih =>
        have others : ∀ other ∈ texts, IsStatement other :=
          fun other member => complete other (List.mem_cons_of_mem text member)
        obtain ⟨first, fedFirst, gatheredFirst⟩ :=
          statements_lines (complete text List.mem_cons_self)
        obtain ⟨later, fedLater, gatheredLater⟩ := ih others
        refine ⟨first ++ later, ?_, ?_⟩
        · have joined : written (text :: texts) = text ++ '\n' :: written texts := by
            simp [written]
          rw [joined, Text.lines_append, feedAll_append, fedFirst]
          simp only [fedLater]
        · rw [List.filterMap_append, gatheredFirst, gatheredLater, List.singleton_append]
  obtain ⟨steps, fed, gathered⟩ := all
  rw [statements, fed]
  simp only [gathered]

end Gatherer

end SqlDump
