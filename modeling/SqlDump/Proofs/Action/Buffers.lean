import SqlDump.Device

/-!
# Buffers in front of a device

Behind a buffer a device takes the first bytes of all that is written, as many as
it has room for.  A byte too many may be held back for a while, but it meets the
fault at the latest when the buffer is flushed.
-/

namespace SqlDump

/-- The bytes that fit are taken, and the others are refused. -/
theorem Device.write_of_room {device : Device} {room : Nat} (bounded : device.room = some room)
    (bytes : List UInt8) :
    device.write bytes =
      ({ device with taken := device.taken ++ bytes.take room, room := some (room - bytes.length) },
        if bytes.length ≤ room then none else some device.refusal) := by
  rw [write, bounded]
  dsimp only
  split
  · next fits => rw [List.take_of_length_le fits]
  · next excess => rw [Nat.sub_eq_zero_of_le (Nat.le_of_not_le excess)]

namespace Sink

/-- What was written to the sink, whether passed on or held back. -/
def received (sink : Sink) : List UInt8 :=
  sink.device.taken ++ sink.held

/-- The device behind the sink takes `total?` bytes in all, or any number if there is
none, and flushing it cannot fail. -/
structure IsBounded (sink : Sink) (total? : Option Nat) : Prop where
  room : sink.device.room = total?.map (· - sink.device.taken.length)
  within : ∀ total, total? = some total → sink.device.taken.length ≤ total
  flushed : sink.flushFault? = none

/-- The sink was written more than its device takes, and holds nothing back. -/
structure IsOverrun (sink : Sink) (written : List UInt8) (total? : Option Nat) : Prop where
  taken : ∃ total, total? = some total ∧ total < written.length ∧
    sink.device.taken = written.take total
  held : sink.held = []

variable {sink : Sink} {written : List UInt8} {total? : Option Nat}

theorem isBounded_buffered (room? : Option Nat) (refusal : Fault) (capacity : Nat) :
    (buffered ⟨[], room?, refusal⟩ capacity).IsBounded room? where
  room := by cases room? <;> rfl
  within _ _ := Nat.zero_le _
  flushed := rfl

/-- What comes later does not matter to a device that is full. -/
theorem IsOverrun.append (overrun : sink.IsOverrun written total?) (more : List UInt8) :
    sink.IsOverrun (written ++ more) total? := by
  obtain ⟨total, bounded, excess, taken⟩ := overrun.taken
  refine ⟨⟨total, bounded, ?_, ?_⟩, overrun.held⟩
  · rw [List.length_append]
    exact Nat.lt_add_right _ excess
  · rw [taken, List.take_append_of_le_length (Nat.le_of_lt excess)]

/-- Bytes come to the device if they fit behind those that it has taken, and overrun
it if they do not. -/
theorem write_device_of_isBounded (bounded : sink.IsBounded total?) (empty : sink.held = [])
    (bytes : List UInt8) :
    (∃ device, sink.device.write bytes = (device, none) ∧
      { sink with device := device }.IsBounded total? ∧
      device.taken = sink.device.taken ++ bytes) ∨
    ∃ device fault, sink.device.write bytes = (device, some fault) ∧
      { sink with device := device }.IsOverrun (sink.device.taken ++ bytes) total? := by
  have room := bounded.room
  cases total? with
  | none =>
      rw [Device.write, room]
      exact Or.inl ⟨_, rfl, ⟨rfl, nofun, bounded.flushed⟩, rfl⟩
  | some total =>
      have within := bounded.within total rfl
      rw [Device.write_of_room room]
      by_cases fits : bytes.length ≤ total - sink.device.taken.length
      · rw [if_pos fits, List.take_of_length_le fits]
        refine Or.inl ⟨_, rfl, ⟨?_, ?_, bounded.flushed⟩, rfl⟩
        · rw [Option.map_some, List.length_append, Nat.sub_sub]
        · rintro _ ⟨⟩
          rw [List.length_append]
          omega
      · rw [if_neg fits]
        refine Or.inr ⟨_, _, rfl, ⟨total, rfl, ?_, ?_⟩, empty⟩
        · rw [List.length_append]
          omega
        · have sum : sink.device.taken.length + (total - sink.device.taken.length) = total := by
            omega
          rw [← List.take_length_add_append, sum]

theorem drain_of_isBounded (bounded : sink.IsBounded total?) :
    (∃ next, sink.drain = (next, none) ∧ next.IsBounded total? ∧ next.held = [] ∧
      next.device.taken = sink.received) ∨
    ∃ next fault, sink.drain = (next, some fault) ∧ next.IsOverrun sink.received total? := by
  have emptied : ({ sink with held := [] } : Sink).IsBounded total? :=
    ⟨bounded.room, bounded.within, bounded.flushed⟩
  rcases write_device_of_isBounded emptied rfl sink.held with
    ⟨device, written, still, taken⟩ | ⟨device, fault, written, overrun⟩
  · refine Or.inl ⟨{ sink with device := device, held := [] }, ?_, still, rfl, taken⟩
    rw [drain, written]
  · refine Or.inr ⟨{ sink with device := device, held := [] }, fault, ?_, overrun⟩
    rw [drain, written]

/-- Written bytes are received behind the others, or overrun the device. -/
theorem write_of_isBounded (bounded : sink.IsBounded total?) (bytes : List UInt8) :
    (∃ next, sink.write bytes = (next, none) ∧ next.IsBounded total? ∧
      next.received = sink.received ++ bytes) ∨
    ∃ next fault, sink.write bytes = (next, some fault) ∧
      next.IsOverrun (sink.received ++ bytes) total? := by
  rw [write]
  split
  · refine Or.inl ⟨_, rfl, ⟨bounded.room, bounded.within, bounded.flushed⟩, ?_⟩
    exact (List.append_assoc _ _ _).symm
  · rcases drain_of_isBounded bounded with
      ⟨drained, drainedEq, still, empty, taken⟩ | ⟨next, fault, drainedEq, overrun⟩
    · rw [drainedEq]
      dsimp only
      split
      · refine Or.inl ⟨_, rfl, ⟨still.room, still.within, still.flushed⟩, ?_⟩
        rw [received, taken]
      · rcases write_device_of_isBounded still empty bytes with
          ⟨device, written, stillToo, takenToo⟩ | ⟨device, fault, written, overrun⟩
        · rw [written]
          refine Or.inl ⟨{ drained with device := device }, rfl, stillToo, ?_⟩
          rw [received, empty, takenToo, taken, List.append_nil]
        · rw [written]
          rw [taken] at overrun
          exact Or.inr ⟨{ drained with device := device }, fault, rfl, overrun⟩
    · rw [drainedEq]
      exact Or.inr ⟨next, fault, rfl, overrun.append bytes⟩

/-- A flush tells whether all that was received fits. -/
theorem flush_of_isBounded (bounded : sink.IsBounded total?) :
    (∃ next, sink.flush = (next, none) ∧ next.IsBounded total? ∧ next.held = [] ∧
      next.device.taken = sink.received) ∨
    ∃ next fault, sink.flush = (next, some fault) ∧ next.IsOverrun sink.received total? := by
  rw [flush]
  rcases drain_of_isBounded bounded with
    ⟨next, drained, still, empty, taken⟩ | ⟨next, fault, drained, overrun⟩
  · rw [drained]
    refine Or.inl ⟨next, ?_, still, empty, taken⟩
    dsimp only
    rw [still.flushed]
  · rw [drained]
    exact Or.inr ⟨next, fault, rfl, overrun⟩

/-- Where nothing is held back, draining changes nothing on the device. -/
theorem taken_drain_of_held_eq_nil (empty : sink.held = []) :
    sink.drain.1.device.taken = sink.device.taken := by
  rw [drain, empty, Device.write]
  cases sink.device.room with
  | none => exact List.append_nil _
  | some room => exact List.append_nil _

end Sink

end SqlDump
