import SqlDump.Proofs.Gatherer.Segmentation
import SqlDump.Proofs.Pass.Cleaning

/-!
# A pass, statement by statement

Without faults, a pass treats the statements of the segments of its input one
after the other.  What it writes and what it counts is put together from the
outcomes of these statements alone, so it does not matter whether and how they
are echoed.
-/

namespace SqlDump

namespace Cleaner

def withEcho (cleaner : Cleaner) (echo color : Bool) : Cleaner :=
  { cleaner with settings := { cleaner.settings with echo := echo, color := color } }

theorem process_withEcho (cleaner : Cleaner) (echo color : Bool) :
    (cleaner.withEcho echo color).process = cleaner.process := rfl

theorem left?_withEcho (cleaner : Cleaner) (echo color : Bool) :
    (cleaner.withEcho echo color).left? = cleaner.left? := rfl

theorem summary_withEcho (cleaner : Cleaner) (echo color : Bool) :
    (cleaner.withEcho echo color).summary = cleaner.summary := rfl

theorem label_eq_or_dimmed (cleaner : Cleaner) (word : Text) :
    cleaner.label word = word ∨ cleaner.settings.color = true ∧
      cleaner.label word = "\x1b[2m".toList ++ word ++ "\x1b[0m".toList := by
  rw [label]
  split
  · next dimmed => exact Or.inr ⟨(Bool.and_eq_true_iff.mp dimmed).1, rfl⟩
  · exact Or.inl rfl

theorem summary_eq_count (cleaner : Cleaner) (statements : List Text) (rest : Text) :
    let kinds := statements.map fun statement => (cleaner.process statement).1.treatment
    cleaner.summary statements ⟨rest⟩ =
      ⟨⟨statements.length, kinds.count .revised, kinds.count .passed, kinds.count .dropped⟩,
        decide (rest ≠ [])⟩ := by
  intro kinds
  rw [summary, Tally.ofTreatments_eq_count, List.length_map, Gatherer.leftover?]
  by_cases empty : rest = []
  · simp [empty, kinds]
  · simp [empty, kinds]

/-- What a pass without faults comes to, in terms of the segments of its input. -/
theorem run_segments (cleaner : Cleaner) (bytes : List UInt8)
    (outputCapacity diagnosticsCapacity : Nat) {statements : List Text} {rest : Text}
    (divided : Segments.statements (Input.lines ⟨bytes, none⟩) = (statements, rest))
    {report : Report} (ran : cleaner.run ⟨bytes, none⟩
      (.faultless outputCapacity diagnosticsCapacity) = report) :
    report.result = .ok (cleaner.summary statements ⟨rest⟩) ∧
      report.channels.output.device.taken =
        Text.bytes (Gatherer.written (statements.filterMap cleaner.left?)) ∧
      report.channels.diagnostics.device.taken =
        Text.bytes (if cleaner.settings.echo then statements.flatMap cleaner.echoed else []) := by
  obtain ⟨_, ended, taken⟩ := run_of_isFaultless cleaner bytes
    (Channels.isFaultless_faultless outputCapacity diagnosticsCapacity)
  rw [ran, Gatherer.statements_eq_segments, divided] at ended taken
  have output := taken .output
  have diagnostics := taken .diagnostics
  rw [Channels.received_faultless, List.nil_append, Channels.sink_output,
    on_output_trace] at output
  rw [Channels.received_faultless, List.nil_append, Channels.sink_diagnostics,
    on_diagnostics_trace] at diagnostics
  exact ⟨ended, output, diagnostics⟩

/-- A pass without faults treats each statement of the segments of its input by
itself.  It succeeds.  The output holds what is left of the statements, one text
to a line; the diagnostics hold their echo, or nothing if echo is off.  Each
statement is counted once, and the input is unfinished exactly if text is left
behind the last segment.  Only the diagnostics depend on echo and color, and
color only dims the labels. -/
theorem run_treats_segments (cleaner : Cleaner) (bytes : List UInt8)
    (outputCapacity diagnosticsCapacity : Nat) :
    let lines := (Input.lineBytes ⟨bytes, none⟩).map Utf8.decodeLossy
    let statements := (Segments.statements lines).1
    let rest := (Segments.statements lines).2
    let outcomes := statements.map fun statement => (cleaner.process statement).1
    let kinds := outcomes.map Outcome.treatment
    let channels := Channels.faultless outputCapacity diagnosticsCapacity
    let report := cleaner.run ⟨bytes, none⟩ channels
    (report.result = .ok ⟨⟨statements.length, kinds.count .revised, kinds.count .passed,
        kinds.count .dropped⟩, decide (rest ≠ [])⟩ ∧
      statements.length =
        kinds.count .revised + kinds.count .passed + kinds.count .dropped) ∧
    report.channels.output.device.taken =
      Text.bytes ((outcomes.filterMap Outcome.text?).flatMap (· ++ ['\n'])) ∧
    report.channels.diagnostics.device.taken =
      Text.bytes (if cleaner.settings.echo then statements.flatMap cleaner.echoed else []) ∧
    (∀ word, cleaner.label word = word ∨ cleaner.settings.color = true ∧
      cleaner.label word = "\x1b[2m".toList ++ word ++ "\x1b[0m".toList) ∧
    ∀ echo color,
      (cleaner.withEcho echo color).process = cleaner.process ∧
      ((cleaner.withEcho echo color).run ⟨bytes, none⟩ channels).result = report.result ∧
      ((cleaner.withEcho echo color).run ⟨bytes, none⟩ channels).channels.output.device.taken =
        report.channels.output.device.taken := by
  intro lines statements rest outcomes kinds channels report
  have divided : Segments.statements (Input.lines ⟨bytes, none⟩) = (statements, rest) := rfl
  have ran : cleaner.run ⟨bytes, none⟩ channels = report := rfl
  have fresh : channels = .faultless outputCapacity diagnosticsCapacity := rfl
  clear_value statements rest report channels
  subst fresh
  obtain ⟨ended, output, diagnostics⟩ :=
    run_segments cleaner bytes outputCapacity diagnosticsCapacity divided ran
  have kindsEq : kinds =
      statements.map fun statement => (cleaner.process statement).1.treatment :=
    List.map_map
  have texts : outcomes.filterMap Outcome.text? = statements.filterMap cleaner.left? :=
    List.filterMap_map
  have balanced : statements.length =
      kinds.count .revised + kinds.count .passed + kinds.count .dropped := by
    have each := Tally.balanced_ofTreatments kinds
    rw [Tally.ofTreatments_eq_count, kindsEq, List.length_map, ← kindsEq] at each
    exact each
  refine ⟨⟨?_, balanced⟩, ?_, diagnostics, label_eq_or_dimmed cleaner, fun echo color => ?_⟩
  · rw [kindsEq, ← summary_eq_count cleaner statements rest]
    exact ended
  · rw [texts]
    exact output
  · obtain ⟨endedToo, outputToo, _⟩ := run_segments (cleaner.withEcho echo color) bytes
      outputCapacity diagnosticsCapacity divided rfl
    rw [summary_withEcho] at endedToo
    rw [left?_withEcho] at outputToo
    exact ⟨process_withEcho cleaner echo color, endedToo.trans ended.symm,
      outputToo.trans output.symm⟩

end Cleaner

end SqlDump
