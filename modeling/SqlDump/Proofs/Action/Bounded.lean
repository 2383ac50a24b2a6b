import SqlDump.Action
import SqlDump.Proofs.Action.Buffers

/-!
# Channels with a bounded output

Where only the room behind the output is bounded, all actions are completed as
long as their bytes fit, and otherwise the device behind the output has taken the
first of them.

Where nothing can go wrong, all actions are completed, and what a channel has
received so far is what was written to it.  A buffer keeps part of that back,
and a flush brings all of it to the device.
-/

namespace SqlDump

namespace Sink

structure IsFaultless (sink : Sink) : Prop where
  room : sink.device.room = none
  flushed : sink.flushFault? = none

/-- A device takes any number of bytes exactly if its room has no bound. -/
theorem isBounded_none_iff {sink : Sink} : sink.IsBounded none ↔ sink.IsFaultless := by
  constructor
  · exact fun bounded => ⟨bounded.room, bounded.flushed⟩
  · exact fun faultless => ⟨faultless.room, nofun, faultless.flushed⟩

theorem not_isOverrun_none {sink : Sink} {written : List UInt8} :
    ¬ sink.IsOverrun written none := by
  rintro ⟨⟨total, impossible, _⟩, _⟩
  cases impossible

theorem write_of_isFaultless {sink : Sink} (faultless : sink.IsFaultless) (bytes : List UInt8) :
    ∃ next, sink.write bytes = (next, none) ∧ next.IsFaultless ∧
      next.received = sink.received ++ bytes := by
  rcases write_of_isBounded (isBounded_none_iff.mpr faultless) bytes with
    ⟨next, written, still, received⟩ | ⟨next, fault, _, overrun⟩
  · exact ⟨next, written, isBounded_none_iff.mp still, received⟩
  · exact absurd overrun not_isOverrun_none

theorem flush_of_isFaultless {sink : Sink} (faultless : sink.IsFaultless) :
    ∃ next, sink.flush = (next, none) ∧ next.IsFaultless ∧ next.device.taken = sink.received := by
  rcases flush_of_isBounded (isBounded_none_iff.mpr faultless) with
    ⟨next, flushed, still, _, taken⟩ | ⟨next, fault, _, overrun⟩
  · exact ⟨next, flushed, isBounded_none_iff.mp still, taken⟩
  · exact absurd overrun not_isOverrun_none

end Sink

namespace Channels

structure IsFaultless (channels : Channels) : Prop where
  output : channels.output.IsFaultless
  diagnostics : channels.diagnostics.IsFaultless

theorem IsFaultless.sink {channels : Channels} (faultless : channels.IsFaultless) :
    ∀ channel, (channels.sink channel).IsFaultless
  | .output => faultless.output
  | .diagnostics => faultless.diagnostics

theorem IsFaultless.set {channels : Channels} (faultless : channels.IsFaultless) {sink : Sink}
    (sinkFaultless : sink.IsFaultless) : ∀ channel, (channels.set channel sink).IsFaultless
  | .output => ⟨sinkFaultless, faultless.diagnostics⟩
  | .diagnostics => ⟨faultless.output, sinkFaultless⟩

theorem step_of_isFaultless {channels : Channels} (faultless : channels.IsFaultless)
    {action : Action} (plain : action.isPlain = true) :
    ∃ next, channels.step action = (next, none) ∧ next.IsFaultless ∧
      ∀ channel, (next.sink channel).received =
        (channels.sink channel).received ++ Trace.on channel (Trace.ofAction action) := by
  cases action with
  | write target text =>
      obtain ⟨sink, written, sinkFaultless, received⟩ :=
        Sink.write_of_isFaultless (faultless.sink target) text.bytes
      refine ⟨channels.set target sink, ?_, faultless.set sinkFaultless target, fun channel => ?_⟩
      · rw [step_write, written]
      · rw [sink_set, Trace.ofAction_write, Trace.on_ofText]
        split
        · next same => rw [received, same]
        · exact (List.append_nil _).symm
  | flush channel => cases plain
  | note notice => exact ⟨channels, rfl, faultless, fun _ => (List.append_nil _).symm⟩
  | fail fault => cases plain

/-- All actions are completed, and their bytes are received in order. -/
theorem perform_of_isFaultless {channels : Channels} (faultless : channels.IsFaultless)
    {actions : List Action} (plain : actions.all Action.isPlain = true) :
    ∃ last, channels.perform actions = (last, actions, none) ∧ last.IsFaultless ∧
      ∀ channel, (last.sink channel).received =
        (channels.sink channel).received ++ Trace.on channel (Trace.ofActions actions) := by
  induction actions generalizing channels with
  | nil => exact ⟨channels, rfl, faultless, fun _ => (List.append_nil _).symm⟩
  | cons action actions ih =>
      rw [List.all_cons, Bool.and_eq_true] at plain
      obtain ⟨next, stepped, nextFaultless, nextReceived⟩ :=
        step_of_isFaultless faultless plain.1
      obtain ⟨last, performed, lastFaultless, lastReceived⟩ := ih nextFaultless plain.2
      refine ⟨last, ?_, lastFaultless, fun channel => ?_⟩
      · simp only [perform, stepped, performed]
      · rw [lastReceived, nextReceived, List.append_assoc, Trace.ofActions_cons, Trace.on_append]

/-! ## A bounded output -/

/-- Only the room behind the output is bounded. -/
structure IsBounded (channels : Channels) (total? : Option Nat) : Prop where
  output : channels.output.IsBounded total?
  diagnostics : channels.diagnostics.IsFaultless

variable {channels : Channels} {total? : Option Nat}

theorem step_of_isBounded (bounded : channels.IsBounded total?) {action : Action}
    (plain : action.isPlain = true) :
    (∃ next, channels.step action = (next, none) ∧ next.IsBounded total? ∧
      next.output.received =
        channels.output.received ++ Trace.on .output (Trace.ofAction action)) ∨
    ∃ next fault, channels.step action = (next, some fault) ∧
      next.output.IsOverrun
        (channels.output.received ++ Trace.on .output (Trace.ofAction action)) total? := by
  cases action with
  | write channel text =>
      rw [step_write, Trace.ofAction_write, Trace.on_ofText]
      cases channel with
      | output =>
          rw [if_pos rfl]
          rcases Sink.write_of_isBounded bounded.output text.bytes with
            ⟨sink, written, still, received⟩ | ⟨sink, fault, written, overrun⟩
          · rw [sink_output, written]
            exact Or.inl ⟨_, rfl, ⟨still, bounded.diagnostics⟩, received⟩
          · rw [sink_output, written]
            exact Or.inr ⟨_, fault, rfl, overrun⟩
      | diagnostics =>
          obtain ⟨sink, written, still, _⟩ :=
            Sink.write_of_isFaultless bounded.diagnostics text.bytes
          rw [sink_diagnostics, written, if_neg (by decide)]
          exact Or.inl ⟨_, rfl, ⟨bounded.output, still⟩, (List.append_nil _).symm⟩
  | flush channel => cases plain
  | note notice => exact Or.inl ⟨channels, rfl, bounded, (List.append_nil _).symm⟩
  | fail fault => cases plain

/-- All actions are completed, or some of their bytes overrun the output. -/
theorem perform_of_isBounded (bounded : channels.IsBounded total?) {actions : List Action}
    (plain : actions.all Action.isPlain = true) :
    (∃ last, channels.perform actions = (last, actions, none) ∧ last.IsBounded total? ∧
      last.output.received =
        channels.output.received ++ Trace.on .output (Trace.ofActions actions)) ∨
    ∃ last done fault, channels.perform actions = (last, done, some fault) ∧
      last.output.IsOverrun
        (channels.output.received ++ Trace.on .output (Trace.ofActions actions)) total? := by
  induction actions generalizing channels with
  | nil => exact Or.inl ⟨channels, rfl, bounded, (List.append_nil _).symm⟩
  | cons action actions ih =>
      rw [List.all_cons, Bool.and_eq_true] at plain
      rw [Trace.ofActions_cons, Trace.on_append, ← List.append_assoc]
      rcases step_of_isBounded bounded plain.1 with
        ⟨next, stepped, still, received⟩ | ⟨next, fault, stepped, overrun⟩
      · rw [← received]
        rcases ih still plain.2 with
          ⟨last, performed, lastBounded, lastReceived⟩ | ⟨last, done, fault, performed, overrun⟩
        · exact Or.inl ⟨last, by simp only [perform, stepped, performed], lastBounded, lastReceived⟩
        · refine Or.inr ⟨last, action :: done, fault, ?_, overrun⟩
          simp only [perform, stepped, performed]
      · exact Or.inr ⟨next, [], fault, by simp only [perform, stepped], overrun.append _⟩

end Channels

end SqlDump
