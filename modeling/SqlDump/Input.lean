import SqlDump.Device
import SqlDump.Text.Utf8

/-!
# Input

An input is a sequence of bytes, after which reading either meets the end or
fails.  It is read line by line, and each line is decoded by itself.
-/

namespace SqlDump

/-- The bytes that can be read, and the fault met behind them, if any. -/
structure Input where
  bytes : List UInt8
  fault? : Option Fault
  deriving DecidableEq, Repr

namespace Input

def newline : UInt8 :=
  0x0A

/-- The complete lines, each with its newline, and what follows the last of
them.  `begun` holds the bytes of the current line, newest first. -/
def cutFrom (begun : List UInt8) : List UInt8 → List (List UInt8) × List UInt8
  | [] => ([], begun.reverse)
  | byte :: bytes =>
      if byte = newline then
        let (lines, rest) := cutFrom [] bytes
        ((byte :: begun).reverse :: lines, rest)
      else cutFrom (byte :: begun) bytes

def cut (bytes : List UInt8) : List (List UInt8) × List UInt8 :=
  cutFrom [] bytes

/-- The lines that a reader receives, as bytes.  The last line may lack its
newline at the end of input, but is lost if reading fails inside it. -/
def lineBytes (input : Input) : List (List UInt8) :=
  match cut input.bytes with
  | (lines, rest) =>
      if rest = [] ∨ input.fault?.isSome then lines else lines ++ [rest]

def lines (input : Input) : List Text :=
  input.lineBytes.map Utf8.decodeLossy

end Input

end SqlDump
