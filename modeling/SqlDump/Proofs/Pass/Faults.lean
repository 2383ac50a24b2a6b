import SqlDump.Proofs.Action.Outlets
import SqlDump.Proofs.Gatherer.Segmentation
import SqlDump.Proofs.Pass.Cleaning

/-!
# A pass with faults

Wherever a pass meets its first fault, in a write to either channel, in the
input or in a flush, it has written just the part of its trace that fits, and it
ends with that fault before its end is reported.
-/

namespace SqlDump

theorem Report.note_mem_done {report : Report} {notice : Notice}
    (reported : notice ∈ report.notices) : Action.note notice ∈ report.done := by
  obtain ⟨action, member, noted⟩ := List.mem_filterMap.mp reported
  cases action with
  | note other =>
      cases Option.some.inj noted
      exact member
  | write channel text => cases noted
  | flush channel => cases noted
  | fail fault => cases noted

namespace Cleaner

open Channels (fresh holding limits refusal? flushFault?)

variable {cleaner : Cleaner} {outlets : Channel → Outlet}

/-- What is done at the end of the input before the end of the pass is reported. -/
def wrapUp (rest : Gatherer) : List Action :=
  (match rest.leftover? with
    | some text => [.note (.unfinished text.byteSize)]
    | none => []) ++ [.flush .output, .flush .diagnostics]

theorem close_eq_wrapUp (cleaner : Cleaner) (summary : Summary) (rest : Gatherer) :
    cleaner.close summary rest =
      wrapUp rest ++ [.note (.finished cleaner.settings.table summary.tally)] := by
  rw [close, wrapUp, List.append_assoc]
  rfl

theorem ofActions_close (cleaner : Cleaner) (summary : Summary) (rest : Gatherer) :
    Trace.ofActions (cleaner.close summary rest) = [] := by
  rw [close]
  cases rest.leftover? <;> rfl

/-- The end of a pass writes nothing, and fails as the flushes do. -/
theorem perform_close_holding (cleaner : Cleaner) (summary : Summary) (rest : Gatherer)
    (outlets : Channel → Outlet) (written : Trace) :
    ∃ done, (holding outlets written).perform (cleaner.close summary rest) =
      (holding outlets written, done, flushFault? outlets) := by
  have flushed (notice : Notice) : ∃ done,
      (holding outlets written).perform [.flush .output, .flush .diagnostics, .note notice] =
        (holding outlets written, done, flushFault? outlets) := by
    rw [flushFault?]
    cases output : (outlets .output).flushFault? <;>
      cases diagnostics : (outlets .diagnostics).flushFault? <;>
      exact ⟨_, by
        simp only [Channels.perform, Channels.flush_holding, output, diagnostics]; rfl⟩
  rw [close]
  cases rest.leftover? with
  | none => exact flushed _
  | some text =>
      obtain ⟨done, performed⟩ := flushed (.finished cleaner.settings.table summary.tally)
      exact ⟨.note (.unfinished text.byteSize) :: done, by
        rw [List.singleton_append, Channels.perform, Channels.step]
        simp only [performed]⟩

/-- Each fault there may be, in the order in which a pass comes upon them. -/
theorem perform_plan (cleaner : Cleaner) (input : Input) (outlets : Channel → Outlet)
    {statements : List Text} {rest : Gatherer}
    (gathered : Gatherer.statements input.lines = (statements, rest)) :
    ∃ done, (fresh outlets).perform (cleaner.plan input) =
      (holding outlets ((cleaner.trace statements).within (limits outlets)), done,
        (refusal? outlets (cleaner.trace statements)).or
          (input.fault?.or (flushFault? outlets))) := by
  have plain := all_isPlain_treat cleaner statements
  rw [← Channels.holding_nil, ← ofActions_treatAll]
  simp only [plan, gathered]
  cases input.fault? with
  | some fault => exact Channels.perform_append_of_silent plain rfl
  | none =>
      obtain ⟨done, closed⟩ := perform_close_holding cleaner (cleaner.summary statements rest) rest
        outlets (Trace.ofActions (statements.flatMap cleaner.treat))
      exact Channels.perform_append_of_silent plain closed

theorem dropLast_plan_isPrefix (cleaner : Cleaner) (input : Input)
    {statements : List Text} {rest : Gatherer}
    (gathered : Gatherer.statements input.lines = (statements, rest)) :
    (cleaner.plan input).dropLast <+: statements.flatMap cleaner.treat ++ wrapUp rest := by
  simp only [plan, gathered]
  cases input.fault? with
  | some fault =>
      rw [List.dropLast_concat]
      exact List.prefix_append _ _
  | none =>
      have same : (statements.flatMap cleaner.treat ++
          cleaner.close (cleaner.summary statements rest) rest).dropLast =
            statements.flatMap cleaner.treat ++ wrapUp rest := by
        rw [close_eq_wrapUp, ← List.append_assoc, List.dropLast_concat]
      exact same ▸ List.prefix_refl _

/-- Before its end, only the rule of a pass may report an end. -/
theorem mem_process_of_finished {statements : List Text} {rest : Gatherer} {table : Text}
    {tally : Tally} (reported : Action.note (.finished table tally) ∈
      statements.flatMap cleaner.treat ++ wrapUp rest) :
    ∃ statement ∈ statements, Notice.finished table tally ∈ (cleaner.process statement).2 := by
  rw [List.mem_append] at reported
  rcases reported with treated | atEnd
  · obtain ⟨statement, member, treated⟩ := List.mem_flatMap.mp treated
    refine ⟨statement, member, ?_⟩
    have echoed (word text : Text) :
        Action.note (.finished table tally) ∉ cleaner.echo word text := by
      rw [echo]
      split <;> simp
    have emitted (text? : Option Text) : Action.note (.finished table tally) ∉ emit text? := by
      cases text? <;> simp [emit]
    simpa [treat, echoed, emitted] using treated
  · rw [wrapUp] at atEnd
    cases left : rest.leftover? <;> simp [left] at atEnd

/-- A pass with outlets, from what is gathered from its input. -/
theorem run_fresh (cleaner : Cleaner) (input : Input) (outlets : Channel → Outlet)
    {statements : List Text} {rest : Gatherer}
    (gathered : Gatherer.statements input.lines = (statements, rest)) {report : Report}
    (ran : cleaner.run input (fresh outlets) = report) :
    (∀ channel, (report.channels.sink channel).device.taken =
        Trace.on channel ((cleaner.trace statements).within (limits outlets))) ∧
      report.result =
        (match (refusal? outlets (cleaner.trace statements)).or
            (input.fault?.or (flushFault? outlets)) with
        | some fault => .error fault
        | none => .ok (cleaner.summary statements rest)) ∧
      ∀ fault, report.result = .error fault →
        report.done <+: statements.flatMap cleaner.treat ++ wrapUp rest := by
  obtain ⟨done, performed⟩ := perform_plan cleaner input outlets gathered
  have early := (Channels.done_of_perform (fresh outlets) (cleaner.plan input)).2
  rw [performed] at early
  rw [← ran, run_eq, performed, gathered]
  refine ⟨fun channel => ?_, rfl, fun fault failed => ?_⟩
  · rw [Channels.sink_holding]
    rfl
  · split at failed
    · next met found =>
        exact (early met found).trans (dropLast_plan_isPrefix cleaner input gathered)
    · cases failed

/-- A pass over what can be read of an input, with no faults at all. -/
theorem run_readable (cleaner : Cleaner) (input : Input) {statements : List Text}
    {rest : Gatherer} (gathered : Gatherer.statements input.lines = (statements, rest))
    {report : Report} (ran : cleaner.run input.readable (.faultless 0 0) = report) :
    report.done = statements.flatMap cleaner.treat ++ wrapUp rest ++
        [.note (.finished cleaner.settings.table (cleaner.summary statements rest).tally)] ∧
      report.result = .ok (cleaner.summary statements rest) ∧
      ∀ channel, (report.channels.sink channel).device.taken =
        Trace.on channel (cleaner.trace statements) := by
  have same : input.readable = ⟨input.readable.bytes, none⟩ := rfl
  obtain ⟨done, ended, taken⟩ := run_of_isFaultless cleaner input.readable.bytes
    (Channels.isFaultless_faultless 0 0)
  rw [← Input.lines_readable] at gathered
  rw [← same, ran] at done
  rw [← same, ran, gathered] at ended
  rw [← same, ran, gathered] at taken
  refine ⟨?_, ended, fun channel => ?_⟩
  · rw [done, plan, gathered, List.append_assoc, ← close_eq_wrapUp]
    rfl
  · rw [taken, Channels.received_faultless, List.nil_append]

/-- A pass with any number of faults writes the longest part of its trace that
stays within the room of both outlets.  The trace is what the pass writes
without faults over what can be read of its input.  The pass succeeds exactly if
there is no fault at all; otherwise it ends with the first one, before its end
is reported.  If one channel alone is limited, it gets the first of the bytes
that it would get without faults. -/
theorem run_stops_at_first_fault (cleaner : Cleaner) (input : Input)
    (outlets : Channel → Outlet) :
    let undisturbed := cleaner.run input.readable (.faultless 0 0)
    let trace := Trace.ofActions undisturbed.done
    let limits := Channels.limits outlets
    let written := trace.within limits
    let report := cleaner.run input (.fresh outlets)
    (trace = cleaner.trace (Segments.statements input.lines).1 ∧
      (∃ summary, undisturbed.result = .ok summary) ∧
      ∀ channel, (undisturbed.channels.sink channel).device.taken = Trace.on channel trace) ∧
    (limits.IsLongestWithin trace written ∧
      ∀ channel, (report.channels.sink channel).device.taken = Trace.on channel written) ∧
    report.result =
      (match (refusal? outlets trace).or (input.fault?.or (flushFault? outlets)) with
      | some fault => .error fault
      | none => undisturbed.result) ∧
    ((∃ summary, report.result = .ok summary) ↔
      limits.Fits trace ∧ input.fault? = none ∧
        ∀ channel, (outlets channel).flushFault? = none) ∧
    (∀ fault, report.result = .error fault → ∃ steps tally,
      undisturbed.done = steps ++ [.note (.finished cleaner.settings.table tally)] ∧
        report.done <+: steps ∧
        ∀ table tally, .finished table tally ∈ report.notices →
          ∃ statement ∈ (Segments.statements input.lines).1,
            .finished table tally ∈ (cleaner.process statement).2) ∧
    ∀ channel room, limits.room channel = some room →
      (∀ other, other ≠ channel → limits.room other = none) →
        (report.channels.sink channel).device.taken =
          (undisturbed.channels.sink channel).device.taken.take room := by
  intro undisturbed trace limits written report
  have gathered := Gatherer.statements_eq_segments input
  obtain ⟨planned, finished, takenAll⟩ :=
    run_readable cleaner input gathered (rfl : _ = undisturbed)
  obtain ⟨taken, ended, early⟩ := run_fresh cleaner input outlets gathered (rfl : _ = report)
  have traced : trace = cleaner.trace (Segments.statements input.lines).1 := by
    change Trace.ofActions undisturbed.done = _
    rw [planned, List.append_assoc, ← close_eq_wrapUp, Trace.ofActions_append,
      ofActions_treatAll, ofActions_close, List.append_nil]
  have limited : limits = Channels.limits outlets := rfl
  have cut : written = trace.within limits := rfl
  clear_value written limits trace report undisturbed
  subst traced limited cut
  refine ⟨⟨rfl, ⟨_, finished⟩, takenAll⟩, ⟨Trace.Limits.isLongestWithin_within _ _, taken⟩, ?_, ?_,
    fun fault failed => ⟨_, _, planned, early fault failed, fun table tally reported => ?_⟩,
    fun channel room bounded alone => ?_⟩
  · rw [ended, finished]
  · rw [← Channels.refusal?_eq_none_iff, ← Channels.flushFault?_eq_none_iff,
      ← Option.or_eq_none_iff, ← Option.or_eq_none_iff, ended]
    split
    · next fault found => simp [found]
    · next found => simp [found]
  · exact mem_process_of_finished ((early fault failed).subset (Report.note_mem_done reported))
  · rw [taken, takenAll, Trace.Limits.on_within bounded alone]

end Cleaner

end SqlDump
