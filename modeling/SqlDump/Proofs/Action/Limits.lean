import SqlDump.Action

/-!
# Limits on a trace

Of the parts with which a trace starts and that stay within the room of both
channels one is the longest.  It ends where the next byte is for a channel that
is full, and there is such a byte unless the whole trace fits.
-/

namespace SqlDump

namespace Trace

namespace Limits

def room (limits : Limits) : Channel → Option Nat
  | .output => limits.output
  | .diagnostics => limits.diagnostics

/-- No channel gets more bytes than it has room for. -/
def Fits (limits : Limits) (trace : Trace) : Prop :=
  ∀ channel room, limits.room channel = some room → (on channel trace).length ≤ room

structure IsLongestWithin (limits : Limits) (whole part : Trace) : Prop where
  isPrefix : part <+: whole
  fits : limits.Fits part
  longest : ∀ other : Trace, other <+: whole → limits.Fits other → other <+: part

/-- A trace is cut where its next byte is for a channel that is full. -/
structure IsCut (limits : Limits) (whole part : Trace) (channel : Channel) : Prop where
  next : ∃ byte, part ++ [(channel, byte)] <+: whole
  fits : limits.Fits part
  full : limits.room channel = some (on channel part).length

variable {limits left : Limits} {channel : Channel} {whole part : Trace}

theorem fits_nil (limits : Limits) : limits.Fits [] :=
  fun _ _ _ => Nat.zero_le _

theorem Fits.of_isPrefix (fits : limits.Fits whole) (initial : part <+: whole) :
    limits.Fits part :=
  fun channel room bounded =>
    Nat.le_trans (on_isPrefix channel initial).length_le (fits channel room bounded)

theorem exists_of_not_fits (excess : ¬ limits.Fits whole) :
    ∃ channel room, limits.room channel = some room ∧ room < (on channel whole).length := by
  apply Classical.byContradiction
  intro within
  exact excess fun channel room bounded =>
    Nat.le_of_not_lt fun more => within ⟨channel, room, bounded, more⟩

theorem room_of_take? (taken : limits.take? channel = some left) (other : Channel) :
    limits.room other = (left.room other).map (· + if channel = other then 1 else 0) := by
  obtain ⟨output, diagnostics⟩ := limits
  cases channel with
  | output =>
      match output, taken with
      | none, taken => cases taken; cases other <;> simp [room]
      | some (count + 1), taken => cases taken; cases other <;> simp [room]
  | diagnostics =>
      match diagnostics, taken with
      | none, taken => cases taken; cases other <;> simp [room]
      | some (count + 1), taken => cases taken; cases other <;> simp [room]

theorem room_of_take?_eq_none (full : limits.take? channel = none) :
    limits.room channel = some 0 := by
  obtain ⟨output, diagnostics⟩ := limits
  cases channel with
  | output =>
      match output, full with
      | some 0, _ => rfl
  | diagnostics =>
      match diagnostics, full with
      | some 0, _ => rfl

theorem fits_cons_iff (taken : limits.take? channel = some left) (byte : UInt8) (rest : Trace) :
    limits.Fits ((channel, byte) :: rest) ↔ left.Fits rest := by
  constructor
  · intro fits other room bounded
    have bound := fits other (room + if channel = other then 1 else 0)
      (by rw [room_of_take? taken, bounded, Option.map_some])
    rw [on_cons] at bound
    split at bound
    · exact Nat.le_of_succ_le_succ bound
    · exact bound
  · intro fits other room bounded
    rw [room_of_take? taken, Option.map_eq_some_iff] at bounded
    obtain ⟨remaining, boundedLeft, rfl⟩ := bounded
    have bound := fits other remaining boundedLeft
    rw [on_cons]
    split
    · exact Nat.succ_le_succ bound
    · exact bound

theorem not_fits_cons (full : limits.take? channel = none) (byte : UInt8) (rest : Trace) :
    ¬ limits.Fits ((channel, byte) :: rest) := by
  intro fits
  have bound := fits channel 0 (room_of_take?_eq_none full)
  rw [on_cons, if_pos rfl] at bound
  exact Nat.not_succ_le_zero _ bound

/-- Taking bytes as long as they fit gives the longest part that fits. -/
theorem isLongestWithin_within (limits : Limits) (trace : Trace) :
    limits.IsLongestWithin trace (trace.within limits) := by
  induction trace generalizing limits with
  | nil => exact ⟨List.nil_prefix, fits_nil limits, fun _ initial _ => initial⟩
  | cons entry rest ih =>
      obtain ⟨channel, byte⟩ := entry
      rw [within]
      split
      · next full =>
          refine ⟨List.nil_prefix, fits_nil limits, fun other initial fits => ?_⟩
          cases other with
          | nil => exact List.nil_prefix
          | cons first others =>
              obtain ⟨rfl, _⟩ := List.cons_prefix_cons.mp initial
              exact absurd fits (not_fits_cons full byte others)
      · next left taken =>
          obtain ⟨isPrefix, fits, longest⟩ := ih left
          refine ⟨List.cons_prefix_cons.mpr ⟨rfl, isPrefix⟩,
            (fits_cons_iff taken byte _).mpr fits, fun other initial otherFits => ?_⟩
          cases other with
          | nil => exact List.nil_prefix
          | cons first others =>
              obtain ⟨rfl, initialRest⟩ := List.cons_prefix_cons.mp initial
              exact List.cons_prefix_cons.mpr
                ⟨rfl, longest others initialRest ((fits_cons_iff taken byte others).mp otherFits)⟩

/-- Behind the first byte that does not fit, also the other channel gets nothing. -/
example : within ⟨some 1, none⟩ [(.output, 1), (.diagnostics, 2), (.output, 3), (.diagnostics, 4)] =
    [(.output, 1), (.diagnostics, 2)] := by decide

theorem IsLongestWithin.eq_within (longest : limits.IsLongestWithin whole part) :
    part = whole.within limits := by
  have taken := isLongestWithin_within limits whole
  have shorter := taken.longest part longest.isPrefix longest.fits
  have longer := longest.longest _ taken.isPrefix taken.fits
  exact shorter.eq_of_length_le longer.length_le

theorem Fits.within_eq (fits : limits.Fits whole) : whole.within limits = whole := by
  have all : limits.IsLongestWithin whole whole :=
    ⟨List.prefix_refl whole, fits, fun _ initial _ => initial⟩
  exact all.eq_within.symm

theorem fits_iff_within_eq : limits.Fits whole ↔ whole.within limits = whole :=
  ⟨Fits.within_eq, fun same => same ▸ (isLongestWithin_within limits whole).fits⟩

/-- If only one channel is limited, it gets the first bytes for it. -/
theorem on_within {trace : Trace} {room : Nat} (bounded : limits.room channel = some room)
    (alone : ∀ other, other ≠ channel → limits.room other = none) :
    on channel (trace.within limits) = (on channel trace).take room := by
  induction trace generalizing limits room with
  | nil => exact List.take_nil.symm
  | cons entry rest ih =>
      obtain ⟨target, byte⟩ := entry
      rw [within]
      split
      · next full =>
          have empty := room_of_take?_eq_none full
          by_cases same : target = channel
          · rw [same, bounded] at empty
            cases empty
            rfl
          · rw [alone target same] at empty
            cases empty
      · next left taken =>
          have aloneLeft : ∀ other, other ≠ channel → left.room other = none := by
            intro other ne
            have unbounded := room_of_take? taken other
            rw [alone other ne] at unbounded
            exact Option.map_eq_none_iff.mp unbounded.symm
          rw [room_of_take? taken, Option.map_eq_some_iff] at bounded
          obtain ⟨remaining, boundedLeft, rfl⟩ := bounded
          rw [on_cons, on_cons, ih boundedLeft aloneLeft]
          split <;> rfl

/-- Bytes for one channel are cut where its room ends. -/
theorem isCut_append {written : Trace} {bytes : List UInt8} {room : Nat}
    (fits : limits.Fits written) (bounded : limits.room channel = some room)
    (excess : room < (on channel written ++ bytes).length) :
    limits.IsCut (written ++ bytes.map fun byte => (channel, byte))
      (written ++ (bytes.take (room - (on channel written).length)).map fun byte =>
        (channel, byte)) channel := by
  have before := fits channel room bounded
  rw [List.length_append] at excess
  have inside : room - (on channel written).length < bytes.length := by omega
  refine ⟨⟨bytes[room - (on channel written).length], ?_⟩, fun other space boundedOther => ?_, ?_⟩
  · rw [List.append_assoc, List.prefix_append_right_inj, List.map_take]
    refine ⟨(bytes.drop (room - (on channel written).length + 1)).map fun byte =>
      (channel, byte), ?_⟩
    rw [← List.map_take, List.append_assoc, List.singleton_append, ← List.map_cons,
      ← List.map_append, List.getElem_cons_drop, List.take_append_drop]
  · rw [on_append, on_map]
    split
    · next same =>
        subst same
        cases Option.some.inj (bounded.symm.trans boundedOther)
        rw [List.length_append, List.length_take]
        omega
    · rw [List.append_nil]
      exact fits other space boundedOther
  · rw [on_append, on_map, if_pos rfl, List.length_append, List.length_take, bounded]
    congr 1
    omega

/-- The cut stays where it is when the trace goes on. -/
theorem IsCut.append (cut : limits.IsCut whole part channel) (more : Trace) :
    limits.IsCut (whole ++ more) part channel := by
  obtain ⟨byte, next⟩ := cut.next
  exact ⟨⟨byte, next.trans (List.prefix_append whole more)⟩, cut.fits, cut.full⟩

/-- Where the next byte does not fit, the longest part ends. -/
theorem IsCut.isLongestWithin (cut : limits.IsCut whole part channel) :
    limits.IsLongestWithin whole part := by
  obtain ⟨byte, next⟩ := cut.next
  refine ⟨(List.prefix_append part _).trans next, cut.fits, fun other initial fits => ?_⟩
  rcases List.prefix_or_prefix_of_prefix initial next with shorter | longer
  · rcases List.prefix_concat_iff.mp shorter with rfl | within
    · have bound := fits channel _ cut.full
      rw [on_append, List.length_append, on_cons, if_pos rfl] at bound
      exact absurd bound (by simp)
    · exact within
  · have bound := fits.of_isPrefix longer channel _ cut.full
    rw [on_append, List.length_append, on_cons, if_pos rfl] at bound
    exact absurd bound (by simp)

/-- The cut comes right before a byte for the full channel. -/
theorem IsCut.head?_drop (cut : limits.IsCut whole part channel) :
    ((whole.drop part.length).head?.map fun entry => entry.1) = some channel := by
  obtain ⟨byte, rest, rfl⟩ := cut.next
  rw [List.append_assoc, List.drop_left]
  rfl

end Limits

end Trace

end SqlDump
