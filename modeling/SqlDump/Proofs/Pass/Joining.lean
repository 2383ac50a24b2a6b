import SqlDump.Proofs.Gatherer.Joining
import SqlDump.Proofs.Pass.Statements

/-!
# Passes over joined inputs

Nothing is kept from one statement to the next but the lines of a statement that
is not complete.  So a pass over two inputs, joined behind a line break, comes to
the pass over the first one and the pass over the second one with the unfinished
lines of the first in front of it.
-/

namespace SqlDump

namespace Tally

def add (first second : Tally) : Tally :=
  ⟨first.statements + second.statements, first.revised + second.revised,
    first.passed + second.passed, first.dropped + second.dropped⟩

theorem ofTreatments_append (first second : List Treatment) :
    ofTreatments (first ++ second) = (ofTreatments first).add (ofTreatments second) := by
  simp only [ofTreatments_eq_count, List.length_append, List.count_append, add]

end Tally

namespace Channels

theorem exists_fault_of_fail (channels : Channels) (actions : List Action) (fault : Fault) :
    ∃ met, (channels.perform (actions ++ [.fail fault])).2.2 = some met := by
  cases performed : channels.perform actions with
  | mk last rest =>
      obtain ⟨done, met?⟩ := rest
      cases met? with
      | none =>
          rw [perform_append_of_completed performed]
          exact ⟨fault, rfl⟩
      | some met =>
          rw [perform_append_of_fault performed]
          exact ⟨met, rfl⟩

end Channels

namespace Cleaner

/-! ## Reports -/

def reported (cleaner : Cleaner) (statement : Text) : List Notice :=
  (cleaner.process statement).2 ++
    [.handled cleaner.settings.table (cleaner.process statement).1.treatment]

/-- What is reported at the end of a pass that leaves some bytes over. -/
def farewell (cleaner : Cleaner) (summary : Summary) (left : Nat) : List Notice :=
  (if summary.unfinished then [.unfinished left] else []) ++
    [.finished cleaner.settings.table summary.tally]

theorem notices_treat (cleaner : Cleaner) (statement : Text) :
    (cleaner.treat statement).filterMap Action.notice? = cleaner.reported statement := by
  have echoed (word text : Text) : (cleaner.echo word text).filterMap Action.notice? = [] := by
    rw [echo]
    split <;> rfl
  have emitted (text? : Option Text) : (emit text?).filterMap Action.notice? = [] := by
    cases text? <;> rfl
  have noted (notices : List Notice) :
      (notices.map Action.note).filterMap Action.notice? = notices := by
    rw [List.filterMap_map]
    exact List.filterMap_some
  simp only [treat, List.filterMap_append, echoed, emitted, noted, List.nil_append,
    List.append_nil]
  rfl

theorem notices_close (cleaner : Cleaner) (statements : List Text) (rest : Text) :
    (cleaner.close (cleaner.summary statements ⟨rest⟩) ⟨rest⟩).filterMap Action.notice? =
      cleaner.farewell (cleaner.summary statements ⟨rest⟩) rest.byteSize := by
  rw [close, farewell, summary, List.filterMap_append, Gatherer.leftover?]
  by_cases empty : rest = []
  · rw [if_pos empty]
    rfl
  · rw [if_neg empty]
    rfl

/-- A pass without faults has succeeded.  It has reported on its statements, and then
on its end and on the bytes left over. -/
structure HasEnded (cleaner : Cleaner) (report : Report) (summary : Summary)
    (told : List Notice) (left : Nat) : Prop where
  result : report.result = .ok summary
  notices : report.notices = told ++ cleaner.farewell summary left

/-- A pass that succeeds, whatever its channels, has reported on one statement after
the other, and then on its end. -/
theorem hasEnded_of_ok {cleaner : Cleaner} {input : Input} {channels : Channels}
    {summary : Summary}
    (succeeded : (cleaner.run input channels).result = .ok summary) {statements : List Text}
    {rest : Text} (divided : Segments.statements input.lines = (statements, rest)) :
    summary = cleaner.summary statements ⟨rest⟩ ∧
      cleaner.HasEnded (cleaner.run input channels) summary
        (statements.flatMap cleaner.reported) rest.byteSize := by
  have gathered : Gatherer.statements input.lines = (statements, ⟨rest⟩) := by
    rw [Gatherer.statements_eq_segments, divided]
  have ended := succeeded
  rw [run_eq, gathered] at ended
  cases met : (channels.perform (cleaner.plan input)).2.2 with
  | some fault =>
      rw [met] at ended
      cases ended
  | none =>
      rw [met] at ended
      obtain rfl := Except.ok.inj ended
      refine ⟨rfl, succeeded, ?_⟩
      have readable : input.fault? = none := by
        cases broken : input.fault? with
        | none => rfl
        | some fault =>
            obtain ⟨other, stopped⟩ := channels.exists_fault_of_fail
              (statements.flatMap cleaner.treat) fault
            simp only [plan, gathered, broken, stopped] at met
            cases met
      rw [Report.notices, run_eq,
        (Channels.done_of_perform channels (cleaner.plan input)).1 met]
      simp only [plan, gathered, readable, List.filterMap_append, notices_close,
        List.filterMap_flatMap, notices_treat]

/-- A pass without faults reports on one statement after the other. -/
theorem hasEnded_run (cleaner : Cleaner) (bytes : List UInt8)
    (outputCapacity diagnosticsCapacity : Nat) {statements : List Text} {rest : Text}
    (divided : Segments.statements (Input.lines ⟨bytes, none⟩) = (statements, rest)) :
    cleaner.HasEnded
      (cleaner.run ⟨bytes, none⟩ (.faultless outputCapacity diagnosticsCapacity))
      (cleaner.summary statements ⟨rest⟩) (statements.flatMap cleaner.reported)
      rest.byteSize := by
  obtain ⟨_, ended, _⟩ := run_of_isFaultless cleaner bytes
    (Channels.isFaultless_faultless outputCapacity diagnosticsCapacity)
  rw [Gatherer.statements_eq_segments, divided] at ended
  exact (hasEnded_of_ok ended divided).2

/-! ## One pass in two -/

/-- The whole pass comes to the first one and then the second one. -/
structure IsJoin (cleaner : Cleaner) (first second whole : Report) : Prop where
  output : whole.channels.output.device.taken =
    first.channels.output.device.taken ++ second.channels.output.device.taken
  diagnostics : whole.channels.diagnostics.device.taken =
    first.channels.diagnostics.device.taken ++ second.channels.diagnostics.device.taken
  reports : ∃ (early late : Summary) (toldEarly toldLate : List Notice) (leftEarly leftLate : Nat),
    cleaner.HasEnded first early toldEarly leftEarly ∧
    cleaner.HasEnded second late toldLate leftLate ∧
    cleaner.HasEnded whole ⟨early.tally.add late.tally, late.unfinished⟩
      (toldEarly ++ toldLate) leftLate

theorem summary_append (cleaner : Cleaner) (first second : List Text) (left rest : Gatherer) :
    cleaner.summary (first ++ second) rest =
      ⟨(cleaner.summary first left).tally.add (cleaner.summary second rest).tally,
        (cleaner.summary second rest).unfinished⟩ := by
  simp only [summary, List.map_append, Tally.ofTreatments_append]

/-- What a pass does about statements in two parts. -/
theorem isJoin_of_statements (cleaner : Cleaner) {first second whole : List UInt8}
    (outputCapacity diagnosticsCapacity : Nat)
    (joined : Segments.statements (Input.lines ⟨whole, none⟩) =
      ((Segments.statements (Input.lines ⟨first, none⟩)).1 ++
        (Segments.statements (Input.lines ⟨second, none⟩)).1,
        (Segments.statements (Input.lines ⟨second, none⟩)).2)) :
    let pass bytes := cleaner.run ⟨bytes, none⟩ (.faultless outputCapacity diagnosticsCapacity)
    cleaner.IsJoin (pass first) (pass second) (pass whole) := by
  intro pass
  cases dividedFirst : Segments.statements (Input.lines ⟨first, none⟩) with
  | mk early left =>
      cases dividedSecond : Segments.statements (Input.lines ⟨second, none⟩) with
      | mk late rest =>
          rw [dividedFirst, dividedSecond] at joined
          obtain ⟨_, outputFirst, diagnosticsFirst⟩ := run_segments cleaner first
            outputCapacity diagnosticsCapacity dividedFirst (rfl : _ = pass first)
          obtain ⟨_, outputSecond, diagnosticsSecond⟩ := run_segments cleaner second
            outputCapacity diagnosticsCapacity dividedSecond (rfl : _ = pass second)
          obtain ⟨_, outputWhole, diagnosticsWhole⟩ := run_segments cleaner whole
            outputCapacity diagnosticsCapacity joined (rfl : _ = pass whole)
          have endedWhole :=
            cleaner.hasEnded_run whole outputCapacity diagnosticsCapacity joined
          rw [summary_append cleaner early late ⟨left⟩, List.flatMap_append] at endedWhole
          refine ⟨?_, ?_, _, _, _, _, _, _,
            cleaner.hasEnded_run first outputCapacity diagnosticsCapacity dividedFirst,
            cleaner.hasEnded_run second outputCapacity diagnosticsCapacity dividedSecond,
            endedWhole⟩
          · rw [outputWhole, outputFirst, outputSecond, ← Text.bytes_append,
              List.filterMap_append, Gatherer.written, List.flatMap_append]
            rfl
          · rw [diagnosticsWhole, diagnosticsFirst, diagnosticsSecond, ← Text.bytes_append,
              List.flatMap_append]
            cases cleaner.settings.echo <;> rfl

/-- A pass over an input may be cut at any line break.  The bytes in front of it that
stand behind the last line to complete a statement are unfinished; they are treated
together with what follows them.  Output, diagnostics, counts and the reports on
statements of the whole pass are those of the two passes put together, and text is
left over as in the second one.  If nothing is unfinished, the two inputs are
passed over on their own. -/
theorem run_joins_at_line_break (cleaner : Cleaner) {front : List UInt8}
    (ended : Input.EndsLine front) (back : List UInt8)
    (outputCapacity diagnosticsCapacity : Nat) :
    let pass bytes := cleaner.run ⟨bytes, none⟩ (.faultless outputCapacity diagnosticsCapacity)
    let unfinished := Segments.unfinished ⟨front, none⟩
    (∃ completed opened : List (List UInt8),
      Input.lineBytes ⟨front, none⟩ = completed ++ opened ∧ opened.flatten = unfinished ∧
      Gatherer.IsLastCut (completed.map Utf8.decodeLossy) (opened.map Utf8.decodeLossy)) ∧
    cleaner.IsJoin (pass front) (pass (unfinished ++ back)) (pass (front ++ back)) ∧
    (unfinished = [] → cleaner.IsJoin (pass front) (pass back) (pass (front ++ back))) := by
  intro pass unfinished
  have joined := isJoin_of_statements cleaner outputCapacity diagnosticsCapacity
    (Segments.statements_append_of_endsLine ended back)
  refine ⟨Gatherer.exists_isLastCut ⟨front, none⟩, joined, fun complete => ?_⟩
  rwa [show Segments.unfinished ⟨front, none⟩ = [] from complete, List.nil_append] at joined

/-- A cut inside a literal of the second statement. -/
theorem run_joins_inside_literal :
    let front := Text.bytes "SELECT 1);\nVALUES ('x\n".toList
    let back := Text.bytes "y');\n".toList
    let cleaner := ofSettings (.forTable "members".toList)
    let pass bytes := cleaner.run ⟨bytes, none⟩ (.faultless 0 0)
    Input.EndsLine front ∧
      Segments.unfinished ⟨front, none⟩ = Text.bytes "VALUES ('x\n".toList ∧
      cleaner.IsJoin (pass front) (pass (Text.bytes "VALUES ('x\ny');\n".toList))
        (pass (front ++ back)) := by
  intro front back cleaner pass
  have ended : Input.EndsLine front :=
    Or.inr ⟨Text.bytes "SELECT 1);\nVALUES ('x".toList, by decide⟩
  have rest : Segments.unfinished ⟨front, none⟩ = Text.bytes "VALUES ('x\n".toList := by decide
  have whole : Text.bytes "VALUES ('x\n".toList ++ back =
      Text.bytes "VALUES ('x\ny');\n".toList := by decide
  obtain ⟨_, joined, _⟩ := run_joins_at_line_break cleaner ended back 0 0
  rw [rest, whole] at joined
  exact ⟨ended, rest, joined⟩

end Cleaner

end SqlDump
