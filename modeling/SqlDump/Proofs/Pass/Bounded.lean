import SqlDump.Proofs.Action.Bounded
import SqlDump.Proofs.Pass.Cleaning

/-!
# A pass to a device with bounded room

With a buffer in front of it, a device with bounded room gets the first bytes of
what is left of the statements.  The pass comes to its end exactly if the device
has room for all of them.
-/

namespace SqlDump

namespace Cleaner

variable {channels : Channels} {total? : Option Nat}

theorem perform_flushes_of_isBounded (bounded : channels.IsBounded total?) (notice : Notice) :
    (∃ last done,
      channels.perform [.flush .output, .flush .diagnostics, .note notice] = (last, done, none) ∧
      last.output.IsBounded total? ∧ last.output.held = [] ∧
      last.output.device.taken = channels.output.received) ∨
    ∃ last done fault,
      channels.perform [.flush .output, .flush .diagnostics, .note notice] =
        (last, done, some fault) ∧
      last.output.IsOverrun channels.output.received total? := by
  rcases Sink.flush_of_isBounded bounded.output with
    ⟨output, flushed, still, empty, taken⟩ | ⟨output, fault, flushed, overrun⟩
  · obtain ⟨diagnostics, flushedToo, _⟩ := Sink.flush_of_isFaultless bounded.diagnostics
    refine Or.inl ⟨⟨output, diagnostics⟩,
      [.flush .output, .flush .diagnostics, .note notice], ?_, still, empty, taken⟩
    simp only [Channels.perform, Channels.step, flushed, flushedToo]
  · refine Or.inr ⟨{ channels with output := output }, [], fault, ?_, overrun⟩
    simp only [Channels.perform, Channels.step, flushed]

theorem perform_close_of_isBounded (bounded : channels.IsBounded total?) (cleaner : Cleaner)
    (summary : Summary) (rest : Gatherer) :
    (∃ last done, channels.perform (cleaner.close summary rest) = (last, done, none) ∧
      last.output.IsBounded total? ∧ last.output.held = [] ∧
      last.output.device.taken = channels.output.received) ∨
    ∃ last done fault, channels.perform (cleaner.close summary rest) = (last, done, some fault) ∧
      last.output.IsOverrun channels.output.received total? := by
  have flushes := perform_flushes_of_isBounded bounded
    (.finished cleaner.settings.table summary.tally)
  rw [close]
  cases rest.leftover? with
  | none => exact flushes
  | some text =>
      rw [List.singleton_append, Channels.perform, Channels.step]
      dsimp only
      rcases flushes with ⟨last, done, performed, brought⟩ | ⟨last, done, fault, performed, overrun⟩
      · rw [performed]
        exact Or.inl ⟨last, _, rfl, brought⟩
      · rw [performed]
        exact Or.inr ⟨last, _, fault, rfl, overrun⟩

/-- A pass brings what is left of the statements to the device of the output and
succeeds, or overruns that device and fails. -/
theorem run_of_isBounded (cleaner : Cleaner) (bytes : List UInt8)
    (bounded : channels.IsBounded total?) {written : List UInt8}
    (joined : written = channels.output.received ++ Text.bytes (cleaner.cleaned ⟨bytes, none⟩))
    {report : Report} (ran : cleaner.run ⟨bytes, none⟩ channels = report) :
    ((∃ summary, report.result = .ok summary) ∧ report.channels.output.held = [] ∧
      report.channels.output.device.taken = written ∧
      ∀ total, total? = some total → written.length ≤ total) ∨
    ∃ fault, report.result = .error fault ∧ report.channels.output.IsOverrun written total? := by
  rw [← ran, run_eq, plan]
  rw [cleaned] at joined
  cases gathered : Gatherer.statements (Input.lines ⟨bytes, none⟩) with
  | mk statements rest =>
      rw [gathered, ← on_output_trace, ← ofActions_treatAll] at joined
      dsimp only
      rcases Channels.perform_of_isBounded bounded (all_isPlain_treat cleaner statements) with
        ⟨middle, performed, still, received⟩ | ⟨last, done, fault, performed, overrun⟩
      · rw [Channels.perform_append_of_completed performed, joined, ← received]
        rcases perform_close_of_isBounded still cleaner (cleaner.summary statements rest) rest with
          ⟨last, done, closed, still, empty, taken⟩ | ⟨last, done, fault, closed, overrun⟩
        · rw [closed]
          refine Or.inl ⟨⟨_, rfl⟩, empty, taken, fun total bounded => ?_⟩
          rw [← taken]
          exact still.within total bounded
        · rw [closed]
          exact Or.inr ⟨fault, rfl, overrun⟩
      · rw [Channels.perform_append_of_fault performed, joined]
        exact Or.inr ⟨fault, rfl, overrun⟩

end Cleaner

end SqlDump
