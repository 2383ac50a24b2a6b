import SqlDump.Text

/-!
# Devices and sinks

A device takes bytes until it has no room left.  A sink stands in front of a
device; with a capacity above zero it holds bytes back and passes them on when
the next text does not fit or when it is flushed.

What goes wrong when a file or a channel is used is a fault, with the words in which
it is reported.
-/

namespace SqlDump

inductive Fault where
  | readFailed
  | writeFailed
  | flushFailed
  | deviceFull
  | isDirectory
  | notDirectory
  | notFound
  | nameTooLong
  | nulInName
  | notUtf8
  | other (words : Text)
  deriving DecidableEq, Repr

namespace Fault

def message : Fault → Text
  | .readFailed => "read failed".toList
  | .writeFailed => "write failed".toList
  | .flushFailed => "flush failed".toList
  | .deviceFull => "No space left on device (os error 28)".toList
  | .isDirectory => "Is a directory (os error 21)".toList
  | .notDirectory => "Not a directory (os error 20)".toList
  | .notFound => "No such file or directory (os error 2)".toList
  | .nameTooLong => "File name too long (os error 36)".toList
  | .nulInName => "file name contained an unexpected NUL byte".toList
  | .notUtf8 => "stream did not contain valid UTF-8".toList
  | .other words => words

def sentence (fault : Fault) : Text :=
  "IO error: ".toList ++ fault.message

end Fault

/-- Something that bytes are written to.  `room` is how many it still takes,
without bound if there is none. -/
structure Device where
  taken : List UInt8
  room : Option Nat
  refusal : Fault
  deriving DecidableEq, Repr

namespace Device

def unlimited : Device :=
  ⟨[], none, .writeFailed⟩

/-- A device that takes a number of bytes and then refuses. -/
def limited (room : Nat) (refusal : Fault) : Device :=
  ⟨[], some room, refusal⟩

/-- Write bytes.  Those that fit are taken even if the write fails. -/
def write (device : Device) (bytes : List UInt8) : Device × Option Fault :=
  match device.room with
  | none => ({ device with taken := device.taken ++ bytes }, none)
  | some room =>
      if bytes.length ≤ room then
        ({ device with taken := device.taken ++ bytes, room := some (room - bytes.length) }, none)
      else
        ({ device with taken := device.taken ++ bytes.take room, room := some 0 },
          some device.refusal)

end Device

structure Sink where
  device : Device
  capacity : Nat
  held : List UInt8
  flushFault? : Option Fault
  deriving DecidableEq, Repr

namespace Sink

/-- A sink that passes every text on at once. -/
def direct (device : Device) (flushFault? : Option Fault) : Sink :=
  ⟨device, 0, [], flushFault?⟩

def buffered (device : Device) (capacity : Nat) : Sink :=
  ⟨device, capacity, [], none⟩

def drain (sink : Sink) : Sink × Option Fault :=
  let (device, fault?) := sink.device.write sink.held
  ({ sink with device := device, held := [] }, fault?)

/-- Write bytes that come as one text.  They are held back if they fit beside
what is held already and would not fill the buffer by themselves. -/
def write (sink : Sink) (bytes : List UInt8) : Sink × Option Fault :=
  if sink.held.length + bytes.length ≤ sink.capacity ∧ bytes.length < sink.capacity then
    ({ sink with held := sink.held ++ bytes }, none)
  else
    match sink.drain with
    | (sink, some fault) => (sink, some fault)
    | (sink, none) =>
        if bytes.length < sink.capacity then ({ sink with held := bytes }, none)
        else
          let (device, fault?) := sink.device.write bytes
          ({ sink with device := device }, fault?)

def flush (sink : Sink) : Sink × Option Fault :=
  match sink.drain with
  | (sink, some fault) => (sink, some fault)
  | (sink, none) => (sink, sink.flushFault?)

end Sink

end SqlDump
