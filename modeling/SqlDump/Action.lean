import SqlDump.Device
import SqlDump.Notice

/-!
# Actions

A pass is a list of actions: texts written to one of two channels, flushes,
and notices in between.  Performing the list stops at the first fault, and no
later action has any effect.
-/

namespace SqlDump

inductive Channel where
  | output
  | diagnostics
  deriving DecidableEq, Repr

inductive Action where
  | write (channel : Channel) (text : Text)
  | flush (channel : Channel)
  | note (notice : Notice)
  | fail (fault : Fault)
  deriving DecidableEq, Repr

namespace Action

def notice? : Action → Option Notice
  | .note notice => some notice
  | _ => none

/-- Whether the action is to write or to report something. -/
def isPlain : Action → Bool
  | .write .. => true
  | .note _ => true
  | .flush _ => false
  | .fail _ => false

end Action

structure Channels where
  output : Sink
  diagnostics : Sink
  deriving DecidableEq, Repr

namespace Channels

def sink (channels : Channels) : Channel → Sink
  | .output => channels.output
  | .diagnostics => channels.diagnostics

theorem sink_output (channels : Channels) : channels.sink .output = channels.output := rfl

theorem sink_diagnostics (channels : Channels) :
    channels.sink .diagnostics = channels.diagnostics := rfl

def set (channels : Channels) : Channel → Sink → Channels
  | .output, sink => { channels with output := sink }
  | .diagnostics, sink => { channels with diagnostics := sink }

theorem sink_set (channels : Channels) (target channel : Channel) (sink : Sink) :
    (channels.set target sink).sink channel =
      if target = channel then sink else channels.sink channel := by
  cases target <;> cases channel <;> rfl

def step (channels : Channels) : Action → Channels × Option Fault
  | .write .output text =>
      let (sink, fault?) := channels.output.write text.bytes
      ({ channels with output := sink }, fault?)
  | .write .diagnostics text =>
      let (sink, fault?) := channels.diagnostics.write text.bytes
      ({ channels with diagnostics := sink }, fault?)
  | .flush .output =>
      let (sink, fault?) := channels.output.flush
      ({ channels with output := sink }, fault?)
  | .flush .diagnostics =>
      let (sink, fault?) := channels.diagnostics.flush
      ({ channels with diagnostics := sink }, fault?)
  | .note _ => (channels, none)
  | .fail fault => (channels, some fault)

theorem step_write (channels : Channels) (channel : Channel) (text : Text) :
    channels.step (.write channel text) =
      (channels.set channel ((channels.sink channel).write text.bytes).1,
        ((channels.sink channel).write text.bytes).2) := by
  cases channel <;> rfl

theorem step_flush (channels : Channels) (channel : Channel) :
    channels.step (.flush channel) =
      (channels.set channel (channels.sink channel).flush.1,
        (channels.sink channel).flush.2) := by
  cases channel <;> rfl

/-- Perform actions up to the first fault.  The actions that were completed
come out beside the channels. -/
def perform (channels : Channels) : List Action → Channels × List Action × Option Fault
  | [] => (channels, [], none)
  | action :: actions =>
      match channels.step action with
      | (channels, some fault) => (channels, [], some fault)
      | (channels, none) =>
          let (last, done, fault?) := perform channels actions
          (last, action :: done, fault?)

theorem perform_append_of_completed {channels next : Channels} {first done : List Action}
    (completed : channels.perform first = (next, done, none)) (second : List Action) :
    channels.perform (first ++ second) =
      ((next.perform second).1, done ++ (next.perform second).2.1,
        (next.perform second).2.2) := by
  induction first generalizing channels done with
  | nil =>
      rw [perform] at completed
      obtain ⟨rfl, rest⟩ := Prod.mk.inj completed
      obtain ⟨rfl, _⟩ := Prod.mk.inj rest
      rfl
  | cons action first ih =>
      rw [perform] at completed
      rw [List.cons_append, perform]
      split at completed
      · cases completed
      · next middle stepped =>
          cases performed : middle.perform first with
          | mk last rest =>
              obtain ⟨others, fault?⟩ := rest
              simp only [performed] at completed
              obtain ⟨rfl, more⟩ := Prod.mk.inj completed
              obtain ⟨rfl, rfl⟩ := Prod.mk.inj more
              simp only [ih performed, List.cons_append]

/-- Behind a fault nothing is performed. -/
theorem perform_append_of_fault {channels last : Channels} {first done : List Action}
    {fault : Fault} (failed : channels.perform first = (last, done, some fault))
    (second : List Action) : channels.perform (first ++ second) = (last, done, some fault) := by
  induction first generalizing channels done with
  | nil => cases failed
  | cons action first ih =>
      rw [perform] at failed
      rw [List.cons_append, perform]
      split at failed
      · next next stepped => exact failed
      · next middle stepped =>
          cases performed : middle.perform first with
          | mk last rest =>
              obtain ⟨others, fault?⟩ := rest
              simp only [performed] at failed
              obtain ⟨rfl, more⟩ := Prod.mk.inj failed
              obtain ⟨rfl, rfl⟩ := Prod.mk.inj more
              simp only [ih performed]

/-- Without a fault all is completed, and with one at least the last action is not. -/
theorem done_of_perform (channels : Channels) (actions : List Action) :
    ((channels.perform actions).2.2 = none → (channels.perform actions).2.1 = actions) ∧
      ∀ fault, (channels.perform actions).2.2 = some fault →
        (channels.perform actions).2.1 <+: actions.dropLast := by
  induction actions generalizing channels with
  | nil => exact ⟨fun _ => rfl, nofun⟩
  | cons action actions ih =>
      rw [perform]
      split
      · exact ⟨nofun, fun _ _ => List.nil_prefix⟩
      · next next stepped =>
          refine ⟨fun completed => congrArg (action :: ·) ((ih next).1 completed),
            fun fault failed => ?_⟩
          cases actions with
          | nil => cases failed
          | cons other others =>
              exact List.cons_prefix_cons.mpr ⟨rfl, (ih next).2 fault failed⟩

end Channels

/-! ## Traces

The trace of a pass is the sequence of all bytes it would write, each with its
channel, in order.  Limits on the two channels cut a trace at the first byte
that no longer fits. -/

/-- Bytes with the channels they go to, in order. -/
abbrev Trace := List (Channel × UInt8)

namespace Trace

def ofAction : Action → Trace
  | .write channel text => text.bytes.map fun byte => (channel, byte)
  | _ => []

def ofActions (actions : List Action) : Trace :=
  actions.flatMap ofAction

def ofText (channel : Channel) (text : Text) : Trace :=
  text.bytes.map fun byte => (channel, byte)

def on (channel : Channel) (trace : Trace) : List UInt8 :=
  (trace.filter (·.1 = channel)).map (·.2)

/-- Room on the two channels, without bound if there is none. -/
structure Limits where
  output : Option Nat
  diagnostics : Option Nat
  deriving DecidableEq, Repr

namespace Limits

/-- The room left behind one more byte, if it fits. -/
def take? (limits : Limits) : Channel → Option Limits
  | .output =>
      match limits.output with
      | none => some limits
      | some 0 => none
      | some (room + 1) => some { limits with output := some room }
  | .diagnostics =>
      match limits.diagnostics with
      | none => some limits
      | some 0 => none
      | some (room + 1) => some { limits with diagnostics := some room }

end Limits

/-- The longest initial part of a trace that stays within the limits. -/
def within (limits : Limits) : Trace → Trace
  | [] => []
  | (channel, byte) :: rest =>
      match limits.take? channel with
      | none => []
      | some left => (channel, byte) :: within left rest

theorem within_isPrefix (limits : Limits) (trace : Trace) :
    trace.within limits <+: trace := by
  induction trace generalizing limits with
  | nil => exact List.prefix_refl _
  | cons entry rest ih =>
      obtain ⟨channel, byte⟩ := entry
      simp only [within]
      split
      · exact List.nil_prefix
      · next left taken => simpa using ih left

theorem ofActions_cons (action : Action) (actions : List Action) :
    ofActions (action :: actions) = ofAction action ++ ofActions actions :=
  List.flatMap_cons

theorem ofActions_append (first second : List Action) :
    ofActions (first ++ second) = ofActions first ++ ofActions second := by
  simp [ofActions]

theorem ofActions_notes (notices : List Notice) : ofActions (notices.map Action.note) = [] := by
  induction notices with
  | nil => rfl
  | cons notice notices ih => exact ih

theorem ofAction_write (channel : Channel) (text : Text) :
    ofAction (.write channel text) = ofText channel text := rfl

theorem ofText_append (channel : Channel) (first second : Text) :
    ofText channel (first ++ second) = ofText channel first ++ ofText channel second := by
  rw [ofText, Text.bytes_append, List.map_append]
  rfl

theorem on_append (channel : Channel) (first second : Trace) :
    on channel (first ++ second) = on channel first ++ on channel second := by
  rw [on, List.filter_append, List.map_append]
  rfl

/-- A channel carries the bytes for it, and no others. -/
theorem on_map (channel target : Channel) (bytes : List UInt8) :
    on channel (bytes.map fun byte => (target, byte)) =
      if target = channel then bytes else [] := by
  rw [on, List.filter_map, List.map_map]
  split
  · next same =>
      have all : List.filter ((fun entry : Channel × UInt8 => decide (entry.1 = channel)) ∘
          fun byte => (target, byte)) bytes = bytes :=
        List.filter_eq_self.mpr fun _ _ => decide_eq_true same
      rw [all]
      exact List.map_id bytes
  · next apart =>
      have none_ : List.filter ((fun entry : Channel × UInt8 => decide (entry.1 = channel)) ∘
          fun byte => (target, byte)) bytes = [] :=
        List.filter_eq_nil_iff.mpr fun _ _ => by simpa using apart
      rw [none_, List.map_nil]

theorem on_ofText (channel target : Channel) (text : Text) :
    on channel (ofText target text) = if target = channel then text.bytes else [] :=
  on_map channel target text.bytes

theorem on_cons (channel : Channel) (entry : Channel × UInt8) (rest : Trace) :
    on channel (entry :: rest) =
      if entry.1 = channel then entry.2 :: on channel rest else on channel rest := by
  rw [on, List.filter_cons]
  by_cases same : entry.1 = channel
  · rw [if_pos (decide_eq_true same), if_pos same]
    rfl
  · rw [if_neg (by simpa using same), if_neg same]
    rfl

theorem on_isPrefix (channel : Channel) {part whole : Trace} (initial : part <+: whole) :
    on channel part <+: on channel whole := by
  obtain ⟨rest, rfl⟩ := initial
  rw [on_append]
  exact List.prefix_append _ _

end Trace

end SqlDump
