import SqlDump.Proofs.Action.Limits

/-!
# Outlets

An outlet passes every text on at once, as far as there is room for it, and may
fail to be flushed.  What actions write to two outlets is their trace, up to the
first byte that does not fit; there the outlet refuses, and nothing more is
written.
-/

namespace SqlDump

/-- Somewhere to write to: how many bytes it takes, with which fault it refuses
more, and the fault that a flush meets. -/
structure Outlet where
  room : Option Nat
  refusal : Fault
  flushFault? : Option Fault

namespace Outlet

def fresh (outlet : Outlet) : Sink :=
  .direct ⟨[], outlet.room, outlet.refusal⟩ outlet.flushFault?

def holding (outlet : Outlet) (bytes : List UInt8) : Sink :=
  .direct ⟨bytes, outlet.room.map (· - bytes.length), outlet.refusal⟩ outlet.flushFault?

theorem holding_nil (outlet : Outlet) : outlet.holding [] = outlet.fresh := by
  simp [holding, fresh]

theorem drain_holding (outlet : Outlet) (bytes : List UInt8) :
    (outlet.holding bytes).drain = (outlet.holding bytes, none) := by
  cases room : outlet.room with
  | none => simp [holding, room, Sink.drain, Sink.direct, Device.write]
  | some count => simp [holding, room, Sink.drain, Sink.direct, Device.write]

/-- Flushing changes nothing and may fail. -/
theorem flush_holding (outlet : Outlet) (bytes : List UInt8) :
    (outlet.holding bytes).flush = (outlet.holding bytes, outlet.flushFault?) := by
  rw [Sink.flush, drain_holding]
  rfl

theorem write_holding (outlet : Outlet) (bytes more : List UInt8) :
    (outlet.holding bytes).write more =
      ({ outlet.holding bytes with device := ((outlet.holding bytes).device.write more).1 },
        ((outlet.holding bytes).device.write more).2) := by
  have unbuffered : (outlet.holding bytes).capacity = 0 := rfl
  rw [Sink.write, unbuffered, if_neg (by simp), drain_holding]
  rfl

theorem write_of_fits {outlet : Outlet} {bytes more : List UInt8}
    (fits : ∀ room, outlet.room = some room → (bytes ++ more).length ≤ room) :
    (outlet.holding bytes).write more = (outlet.holding (bytes ++ more), none) := by
  rw [write_holding]
  cases room : outlet.room with
  | none => simp [holding, room, Sink.direct, Device.write]
  | some count =>
      have bound := fits count room
      rw [List.length_append] at bound
      have left : more.length ≤ count - bytes.length := by omega
      simp [holding, room, Sink.direct, Device.write, left, Nat.sub_sub]

/-- Of bytes that do not fit, those are taken that there is room for. -/
theorem write_of_not_fits {outlet : Outlet} {bytes more : List UInt8} {room : Nat}
    (bounded : outlet.room = some room) (before : bytes.length ≤ room)
    (excess : room < (bytes ++ more).length) :
    (outlet.holding bytes).write more =
      (outlet.holding (bytes ++ more.take (room - bytes.length)), some outlet.refusal) := by
  rw [List.length_append] at excess
  have short : ¬ more.length ≤ room - bytes.length := by omega
  have filled : room - (bytes ++ more.take (room - bytes.length)).length = 0 := by
    rw [List.length_append, List.length_take]
    omega
  rw [write_holding, holding, holding, bounded, Option.map_some, Option.map_some, filled]
  simp [Sink.direct, Device.write, short]

end Outlet

namespace Channels

/-- The channels with the outlets, after the bytes of a trace were written. -/
def holding (outlets : Channel → Outlet) (written : Trace) : Channels :=
  ⟨(outlets .output).holding (Trace.on .output written),
    (outlets .diagnostics).holding (Trace.on .diagnostics written)⟩

def fresh (outlets : Channel → Outlet) : Channels :=
  ⟨(outlets .output).fresh, (outlets .diagnostics).fresh⟩

theorem holding_nil (outlets : Channel → Outlet) : holding outlets [] = fresh outlets := by
  have empty (channel : Channel) : Trace.on channel [] = [] := rfl
  rw [holding, empty, empty, Outlet.holding_nil, Outlet.holding_nil]
  rfl

def limits (outlets : Channel → Outlet) : Trace.Limits :=
  ⟨(outlets .output).room, (outlets .diagnostics).room⟩

theorem room_limits (outlets : Channel → Outlet) :
    ∀ channel, (limits outlets).room channel = (outlets channel).room
  | .output => rfl
  | .diagnostics => rfl

theorem sink_holding (outlets : Channel → Outlet) (written : Trace) :
    ∀ channel, ((holding outlets written).sink channel) =
      (outlets channel).holding (Trace.on channel written)
  | .output => rfl
  | .diagnostics => rfl

/-- Bytes for one channel leave the other one as it is. -/
theorem set_holding (outlets : Channel → Outlet) (written : Trace) (channel : Channel)
    (bytes : List UInt8) :
    (holding outlets written).set channel
        ((outlets channel).holding (Trace.on channel written ++ bytes)) =
      holding outlets (written ++ bytes.map fun byte => (channel, byte)) := by
  cases channel <;> simp [set, holding, Trace.on_append, Trace.on_map]

theorem flush_holding (outlets : Channel → Outlet) (written : Trace) (channel : Channel) :
    (holding outlets written).step (.flush channel) =
      (holding outlets written, (outlets channel).flushFault?) := by
  have same := set_holding outlets written channel []
  rw [List.append_nil, List.map_nil, List.append_nil] at same
  rw [step_flush, sink_holding, Outlet.flush_holding, same]

variable {outlets : Channel → Outlet} {written : Trace}

theorem step_of_fits {action : Action} (plain : action.isPlain = true)
    (fits : (limits outlets).Fits (written ++ Trace.ofAction action)) :
    (holding outlets written).step action =
      (holding outlets (written ++ Trace.ofAction action), none) := by
  cases action with
  | write channel text =>
      have fitsChannel : ∀ room, (outlets channel).room = some room →
          (Trace.on channel written ++ text.bytes).length ≤ room := by
        intro room bounded
        have bound := fits channel room ((room_limits outlets channel).trans bounded)
        rwa [Trace.on_append, Trace.ofAction_write, Trace.on_ofText, if_pos rfl] at bound
      rw [step_write, sink_holding, Outlet.write_of_fits fitsChannel, set_holding]
      rfl
  | note notice =>
      have silent : Trace.ofAction (.note notice) = [] := rfl
      rw [silent, List.append_nil]
      rfl
  | flush channel => cases plain
  | fail fault => cases plain

/-- Of the bytes of an action that do not fit, those are written that do, and the
outlet for the next one refuses. -/
theorem step_of_not_fits {action : Action} (plain : action.isPlain = true)
    (fits : (limits outlets).Fits written)
    (excess : ¬ (limits outlets).Fits (written ++ Trace.ofAction action)) :
    ∃ last channel,
      (limits outlets).IsCut (written ++ Trace.ofAction action) last channel ∧
        (holding outlets written).step action =
          (holding outlets last, some (outlets channel).refusal) := by
  cases action with
  | write channel text =>
      obtain ⟨full, room, bounded, excess⟩ := Trace.Limits.exists_of_not_fits excess
      have before := fits full room bounded
      rw [Trace.on_append, Trace.ofAction_write, Trace.on_ofText] at excess
      split at excess
      · next same =>
          subst same
          refine ⟨_, channel, Trace.Limits.isCut_append fits bounded excess, ?_⟩
          rw [room_limits] at bounded
          rw [step_write, sink_holding, Outlet.write_of_not_fits bounded before excess, set_holding]
      · rw [List.append_nil] at excess
        exact absurd before (Nat.not_le.mpr excess)
  | note notice =>
      have silent : Trace.ofAction (.note notice) = [] := rfl
      rw [silent, List.append_nil] at excess
      exact absurd fits excess
  | flush channel => cases plain
  | fail fault => cases plain

theorem perform_of_fits {actions : List Action} (plain : actions.all Action.isPlain = true)
    (fits : (limits outlets).Fits (written ++ Trace.ofActions actions)) :
    (holding outlets written).perform actions =
      (holding outlets (written ++ Trace.ofActions actions), actions, none) := by
  induction actions generalizing written with
  | nil =>
      have silent : Trace.ofActions [] = [] := rfl
      rw [silent, List.append_nil]
      rfl
  | cons action actions ih =>
      rw [List.all_cons, Bool.and_eq_true] at plain
      rw [Trace.ofActions_cons, ← List.append_assoc] at fits ⊢
      have stepped := step_of_fits plain.1 (fits.of_isPrefix (List.prefix_append _ _))
      simp only [perform, stepped, ih plain.2 fits]

/-- Actions whose bytes do not fit write those that do, and then meet the fault of
the outlet for the next byte. -/
theorem perform_of_not_fits {actions : List Action} (plain : actions.all Action.isPlain = true)
    (fits : (limits outlets).Fits written)
    (excess : ¬ (limits outlets).Fits (written ++ Trace.ofActions actions)) :
    ∃ last channel done,
      (limits outlets).IsCut (written ++ Trace.ofActions actions) last channel ∧
        (holding outlets written).perform actions =
          (holding outlets last, done, some (outlets channel).refusal) := by
  induction actions generalizing written with
  | nil =>
      have silent : Trace.ofActions [] = [] := rfl
      rw [silent, List.append_nil] at excess
      exact absurd fits excess
  | cons action actions ih =>
      rw [List.all_cons, Bool.and_eq_true] at plain
      rw [Trace.ofActions_cons, ← List.append_assoc] at excess ⊢
      by_cases fitsFirst : (limits outlets).Fits (written ++ Trace.ofAction action)
      · obtain ⟨last, channel, done, cut, performed⟩ := ih plain.2 fitsFirst excess
        refine ⟨last, channel, action :: done, cut, ?_⟩
        simp only [perform, step_of_fits plain.1 fitsFirst, performed]
      · obtain ⟨last, channel, cut, stepped⟩ := step_of_not_fits plain.1 fits fitsFirst
        refine ⟨last, channel, [], cut.append _, ?_⟩
        simp only [perform, stepped]

/-- The fault of the outlet for the first byte that does not fit, if there is one. -/
def refusal? (outlets : Channel → Outlet) (trace : Trace) : Option Fault :=
  (trace.drop (trace.within (limits outlets)).length).head?.map fun entry =>
    (outlets entry.1).refusal

theorem refusal?_eq_none_iff {trace : Trace} :
    refusal? outlets trace = none ↔ (limits outlets).Fits trace := by
  rw [refusal?, Option.map_eq_none_iff, List.head?_eq_none_iff, List.drop_eq_nil_iff,
    Trace.Limits.fits_iff_within_eq]
  constructor
  · exact (Trace.within_isPrefix _ trace).eq_of_length_le
  · exact fun whole => Nat.le_of_eq (congrArg List.length whole.symm)

theorem refusal?_of_isCut {trace last : Trace} {channel : Channel}
    (cut : (limits outlets).IsCut trace last channel) :
    refusal? outlets trace = some (outlets channel).refusal := by
  have first := cut.head?_drop
  rw [cut.isLongestWithin.eq_within] at first
  obtain ⟨entry, found, rfl⟩ := Option.map_eq_some_iff.mp first
  rw [refusal?, found]
  rfl

/-- The first of the faults that flushing both outlets meets, if there is one. -/
def flushFault? (outlets : Channel → Outlet) : Option Fault :=
  (outlets .output).flushFault?.or (outlets .diagnostics).flushFault?

theorem flushFault?_eq_none_iff :
    flushFault? outlets = none ↔ ∀ channel, (outlets channel).flushFault? = none := by
  rw [flushFault?, Option.or_eq_none_iff]
  exact ⟨fun ⟨output, diagnostics⟩ channel => by cases channel <;> assumption,
    fun none_ => ⟨none_ .output, none_ .diagnostics⟩⟩

/-- Actions in front of others that write nothing: if their bytes fit, the others
decide on the fault. -/
theorem perform_append_of_silent {first second done : List Action} {fault? : Option Fault}
    (plain : first.all Action.isPlain = true)
    (silent : (holding outlets (Trace.ofActions first)).perform second =
      (holding outlets (Trace.ofActions first), done, fault?)) :
    ∃ all, (holding outlets []).perform (first ++ second) =
      (holding outlets ((Trace.ofActions first).within (limits outlets)), all,
        (refusal? outlets (Trace.ofActions first)).or fault?) := by
  by_cases fits : (limits outlets).Fits (Trace.ofActions first)
  · have performed := @perform_of_fits outlets [] first plain fits
    rw [List.nil_append] at performed
    rw [perform_append_of_completed performed, silent, fits.within_eq, refusal?_eq_none_iff.mpr fits]
    exact ⟨_, rfl⟩
  · obtain ⟨last, channel, done, cut, performed⟩ :=
      perform_of_not_fits plain (Trace.Limits.fits_nil _) fits
    rw [List.nil_append] at cut
    rw [perform_append_of_fault performed, ← cut.isLongestWithin.eq_within, refusal?_of_isCut cut]
    exact ⟨_, rfl⟩

end Channels

end SqlDump
