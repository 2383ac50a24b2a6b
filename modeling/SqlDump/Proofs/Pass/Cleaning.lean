import SqlDump.Pass
import SqlDump.Proofs.Action.Bounded
import SqlDump.Proofs.Rule.Settling

/-!
# What a pass writes

Without faults, a pass writes its trace: the echo of its statements to one
channel, and to the other what its cleaner leaves of each statement, one text to
a line, and nothing else.  If the rule settles, these are statements
again, and a second pass gathers and passes exactly these.
-/

namespace SqlDump

/-- The channels at the start of a pass where nothing can go wrong, with
buffers of any size. -/
def Channels.faultless (outputCapacity diagnosticsCapacity : Nat) : Channels :=
  ⟨.buffered .unlimited outputCapacity, .buffered .unlimited diagnosticsCapacity⟩

theorem Channels.isFaultless_faultless (outputCapacity diagnosticsCapacity : Nat) :
    (Channels.faultless outputCapacity diagnosticsCapacity).IsFaultless :=
  ⟨⟨rfl, rfl⟩, ⟨rfl, rfl⟩⟩

theorem Channels.received_faultless (outputCapacity diagnosticsCapacity : Nat) :
    ∀ channel,
      ((Channels.faultless outputCapacity diagnosticsCapacity).sink channel).received = []
  | .output => rfl
  | .diagnostics => rfl

namespace Cleaner

variable {cleaner : Cleaner}

/-- What the cleaner leaves of the statements of an input, one text to a line. -/
def cleaned (cleaner : Cleaner) (input : Input) : Text :=
  Gatherer.written ((Gatherer.statements input.lines).1.filterMap cleaner.left?)

/-! ## The actions of a pass -/

theorem all_isPlain_treat (cleaner : Cleaner) (statements : List Text) :
    (statements.flatMap cleaner.treat).all Action.isPlain = true := by
  have echoed (word text : Text) : (cleaner.echo word text).all Action.isPlain = true := by
    rw [echo]
    split <;> rfl
  have emitted (text? : Option Text) : (emit text?).all Action.isPlain = true := by
    cases text? <;> rfl
  rw [List.all_flatMap, List.all_eq_true]
  intro statement _
  simp only [treat, List.all_append, echoed, emitted, List.all_map, Bool.true_and, Bool.and_true]
  exact Bool.and_eq_true_iff.mpr ⟨List.all_eq_true.mpr fun _ _ => rfl, rfl⟩

/-! ## A pass without faults -/

theorem remainder_eq_written (cleaner : Cleaner) (statement : Text) :
    cleaner.remainder statement = Gatherer.written (cleaner.left? statement).toList := by
  rw [remainder, left?]
  cases (cleaner.process statement).1.text? with
  | none => rfl
  | some text => exact (List.append_nil _).symm

/-- The output gets what is left of the statements, one text to a line. -/
theorem on_output_trace (cleaner : Cleaner) (statements : List Text) :
    Trace.on .output (cleaner.trace statements) =
      Text.bytes (Gatherer.written (statements.filterMap cleaner.left?)) := by
  induction statements with
  | nil => rfl
  | cons statement statements ih =>
      have echoedApart : Trace.on .output (if cleaner.settings.echo then
          Trace.ofText .diagnostics (cleaner.echoed statement) else []) = [] := by
        split
        · rw [Trace.on_ofText, if_neg (by decide)]
        · rfl
      rw [trace_cons, Trace.on_append, ih, Trace.on_append, echoedApart, Trace.on_ofText, if_pos rfl,
        List.nil_append, ← Text.bytes_append, remainder_eq_written]
      cases left : cleaner.left? statement with
      | none => simp [Gatherer.written, left]
      | some text => simp [Gatherer.written, left]

/-- The diagnostics get the echo of the statements, if echo is on. -/
theorem on_diagnostics_trace (cleaner : Cleaner) (statements : List Text) :
    Trace.on .diagnostics (cleaner.trace statements) =
      Text.bytes (if cleaner.settings.echo then statements.flatMap cleaner.echoed else []) := by
  induction statements with
  | nil => cases cleaner.settings.echo <;> rfl
  | cons statement statements ih =>
      have remainderApart : Trace.on .diagnostics
          (Trace.ofText .output (cleaner.remainder statement)) = [] := by
        rw [Trace.on_ofText, if_neg (by decide)]
      rw [trace_cons, Trace.on_append, ih, Trace.on_append, remainderApart, List.append_nil]
      split
      · rw [Trace.on_ofText, if_pos rfl, List.flatMap_cons, Text.bytes_append]
      · rfl

/-- The end of a pass brings all that the channels have received to their devices. -/
theorem perform_close {channels : Channels} (faultless : channels.IsFaultless)
    (cleaner : Cleaner) (summary : Summary) (rest : Gatherer) :
    ∃ last, channels.perform (cleaner.close summary rest) =
        (last, cleaner.close summary rest, none) ∧
      ∀ channel, (last.sink channel).device.taken = (channels.sink channel).received := by
  obtain ⟨output, flushed, _, taken⟩ := Sink.flush_of_isFaultless faultless.output
  obtain ⟨diagnostics, flushedToo, _, takenToo⟩ := Sink.flush_of_isFaultless faultless.diagnostics
  have performed (notice : Notice) :
      channels.perform [.flush .output, .flush .diagnostics, .note notice] =
        (⟨output, diagnostics⟩, [.flush .output, .flush .diagnostics, .note notice], none) := by
    simp only [Channels.perform, Channels.step, flushed, flushedToo]
  refine ⟨⟨output, diagnostics⟩, ?_, fun channel => ?_⟩
  · rw [close]
    cases rest.leftover? with
    | none => exact performed _
    | some text =>
        have noted : channels.perform [.note (.unfinished text.byteSize)] =
            (channels, [.note (.unfinished text.byteSize)], none) := rfl
        have whole := Channels.perform_append_of_completed noted
          [.flush .output, .flush .diagnostics,
            .note (.finished cleaner.settings.table summary.tally)]
        rwa [performed] at whole
  · cases channel with
    | output => exact taken
    | diagnostics => exact takenToo

/-- A pass without faults completes its plan, ends with the summary of its
statements, and writes its trace. -/
theorem run_of_isFaultless (cleaner : Cleaner) (bytes : List UInt8) {channels : Channels}
    (faultless : channels.IsFaultless) :
    (cleaner.run ⟨bytes, none⟩ channels).done = cleaner.plan ⟨bytes, none⟩ ∧
      (cleaner.run ⟨bytes, none⟩ channels).result =
        .ok (cleaner.summary (Gatherer.statements (Input.lines ⟨bytes, none⟩)).1
          (Gatherer.statements (Input.lines ⟨bytes, none⟩)).2) ∧
      ∀ channel, ((cleaner.run ⟨bytes, none⟩ channels).channels.sink channel).device.taken =
        (channels.sink channel).received ++
          Trace.on channel
            (cleaner.trace (Gatherer.statements (Input.lines ⟨bytes, none⟩)).1) := by
  cases gathered : Gatherer.statements (Input.lines ⟨bytes, none⟩) with
  | mk statements rest =>
      obtain ⟨middle, performed, middleFaultless, received⟩ :=
        Channels.perform_of_isFaultless faultless (all_isPlain_treat cleaner statements)
      obtain ⟨last, closed, taken⟩ :=
        perform_close middleFaultless cleaner (cleaner.summary statements rest) rest
      have planned : cleaner.plan ⟨bytes, none⟩ = statements.flatMap cleaner.treat ++
          cleaner.close (cleaner.summary statements rest) rest := by
        simp only [plan, gathered]
      have whole := Channels.perform_append_of_completed performed
        (cleaner.close (cleaner.summary statements rest) rest)
      rw [closed] at whole
      simp only [run, gathered, planned, whole, true_and]
      intro channel
      rw [taken, received, ofActions_treatAll]

theorem run_faultless (cleaner : Cleaner) (bytes : List UInt8)
    (outputCapacity diagnosticsCapacity : Nat) :
    (cleaner.run ⟨bytes, none⟩ (.faultless outputCapacity diagnosticsCapacity)).result =
        .ok (cleaner.summary (Gatherer.statements (Input.lines ⟨bytes, none⟩)).1
          (Gatherer.statements (Input.lines ⟨bytes, none⟩)).2) ∧
      (cleaner.run ⟨bytes, none⟩
          (.faultless outputCapacity diagnosticsCapacity)).channels.output.device.taken =
        Text.bytes (cleaner.cleaned ⟨bytes, none⟩) := by
  obtain ⟨_, ended, taken⟩ := run_of_isFaultless cleaner bytes
    (Channels.isFaultless_faultless outputCapacity diagnosticsCapacity)
  have output := taken .output
  rw [Channels.received_faultless, List.nil_append, Channels.sink_output, on_output_trace] at output
  exact ⟨ended, output⟩

/-! ## A second pass -/

theorem passed_of_mem_remaining (settling : cleaner.IsSettling) (bytes : List UInt8)
    {text : Text} (member : text ∈
      (Gatherer.statements (Input.lines ⟨bytes, none⟩)).1.filterMap cleaner.left?) :
    IsStatement text ∧ (cleaner.process text).1 = .passed text := by
  obtain ⟨statement, gathered, left⟩ := List.mem_filterMap.mp member
  have complete : IsStatement statement :=
    Gatherer.isStatement_of_mem_statements (fun _ => Input.isLine_of_mem_lines) gathered
  exact passed_of_left? settling complete left

/-- What a pass has written is gathered text by text, and nothing is left over. -/
theorem statements_cleaned (settling : cleaner.IsSettling) (bytes : List UInt8) :
    Gatherer.statements (Text.lines (cleaner.cleaned ⟨bytes, none⟩)) =
      ((Gatherer.statements (Input.lines ⟨bytes, none⟩)).1.filterMap cleaner.left?,
        Gatherer.empty) :=
  Gatherer.statements_written fun _ member =>
    (passed_of_mem_remaining settling bytes member).1

/-- A second pass treats what the first pass has left. -/
theorem cleaned_bytes_cleaned (settling : cleaner.IsSettling) (other : Cleaner)
    (bytes : List UInt8) :
    other.cleaned ⟨(cleaner.cleaned ⟨bytes, none⟩).bytes, none⟩ =
      Gatherer.written (((Gatherer.statements (Input.lines ⟨bytes, none⟩)).1.filterMap
        cleaner.left?).filterMap other.left?) := by
  have gathered := statements_cleaned settling bytes
  rw [Text.lines] at gathered
  rw [cleaned, gathered]

end Cleaner

/-- The cleaned form of a dump is what the cleaner of the table leaves of it. -/
theorem clean_eq_cleaned (table dump : Text) :
    clean table dump =
      (Cleaner.ofSettings { Settings.forTable table with echo := false }).cleaned
        ⟨dump.bytes, none⟩ := by
  have received := (Cleaner.run_faultless
    (Cleaner.ofSettings { Settings.forTable table with echo := false }) dump.bytes 0 0).2
  rw [← Utf8.decodeLossy_bytes (Cleaner.cleaned _ _), ← received]
  rfl

end SqlDump
