import SqlDump.Text

/-!
# Decoding UTF-8

The decoder takes one byte after another.  Bytes that cannot belong to a
character are replaced: each longest start of a character that is not
completed, and each byte that starts none, becomes one replacement character.
Nothing that follows is lost, since the byte that breaks a character is then
read as the start of the next one.

Which text stands for bytes, some of which may belong to no character, is said
here without a decoder.  Where a character starts it is read.  Where none
starts, the longest start of some character is replaced, or one byte if there is
no such start, and reading goes on behind it.
-/

namespace SqlDump

namespace Utf8

/-- What has been read of a character that is not complete: its bits so far,
how many bytes are owed after the next one, and the range of the next one. -/
structure Pending where
  bits : Nat
  owed : Nat
  low : UInt8
  high : UInt8
  deriving DecidableEq, Repr

/-- What the first byte of a longer character announces. -/
def announced? (byte : UInt8) : Option Pending :=
  if byte < 0xC2 then none
  else if byte ≤ 0xDF then some ⟨(byte - 0xC0).toNat, 0, 0x80, 0xBF⟩
  else if byte = 0xE0 then some ⟨0, 1, 0xA0, 0xBF⟩
  else if byte = 0xED then some ⟨0x0D, 1, 0x80, 0x9F⟩
  else if byte ≤ 0xEF then some ⟨(byte - 0xE0).toNat, 1, 0x80, 0xBF⟩
  else if byte = 0xF0 then some ⟨0, 2, 0x90, 0xBF⟩
  else if byte ≤ 0xF3 then some ⟨(byte - 0xF0).toNat, 2, 0x80, 0xBF⟩
  else if byte = 0xF4 then some ⟨4, 2, 0x80, 0x8F⟩
  else none

def replacement : Char :=
  Char.ofNat 0xFFFD

/-- The decoder between two bytes.  The characters read so far are kept newest
first, and `intact` says that none of them is a replacement made here. -/
structure Decoder where
  pending? : Option Pending
  written : List Char
  intact : Bool
  deriving DecidableEq, Repr

namespace Decoder

def start : Decoder :=
  ⟨none, [], true⟩

def put (decoder : Decoder) (c : Char) : Decoder :=
  ⟨none, c :: decoder.written, decoder.intact⟩

def replace (decoder : Decoder) : Decoder :=
  ⟨none, replacement :: decoder.written, false⟩

def begin (decoder : Decoder) (byte : UInt8) : Decoder :=
  if byte < 0x80 then decoder.put (Char.ofNat byte.toNat)
  else
    match announced? byte with
    | some pending => { decoder with pending? := some pending }
    | none => decoder.replace

def feed (decoder : Decoder) (byte : UInt8) : Decoder :=
  match decoder.pending? with
  | none => decoder.begin byte
  | some pending =>
      if pending.low ≤ byte ∧ byte ≤ pending.high then
        let bits := pending.bits * 64 + (byte - 0x80).toNat
        match pending.owed with
        | 0 => decoder.put (Char.ofNat bits)
        | owed + 1 => { decoder with pending? := some ⟨bits, owed, 0x80, 0xBF⟩ }
      else decoder.replace.begin byte

/-- End of input: a character that is not complete is replaced. -/
def finish (decoder : Decoder) : Decoder :=
  match decoder.pending? with
  | none => decoder
  | some _ => decoder.replace

def text (decoder : Decoder) : Text :=
  decoder.written.reverse

def run (decoder : Decoder) (bytes : List UInt8) : Decoder :=
  bytes.foldl feed decoder

theorem run_append (decoder : Decoder) (first second : List UInt8) :
    decoder.run (first ++ second) = (decoder.run first).run second :=
  List.foldl_append

end Decoder

def decodeLossy (bytes : List UInt8) : Text :=
  (Decoder.start.run bytes).finish.text

def decode? (bytes : List UInt8) : Option Text :=
  let decoder := (Decoder.start.run bytes).finish
  if decoder.intact then some decoder.text else none

/-! ## Lossy decoding -/

/-- The bytes are a character up to some byte of it. -/
def IsStart (part : List UInt8) : Prop :=
  ∃ c : Char, part <+: String.utf8EncodeChar c

/-- The part is what is replaced where no character starts, `rest` being the
bytes behind it. -/
structure IsSubpart (part rest : List UInt8) : Prop where
  proper : part ≠ []
  /-- No character starts here. -/
  broken : ∀ c : Char, ¬ String.utf8EncodeChar c <+: part ++ rest
  /-- It is the start of a character or a single byte. -/
  start : IsStart part ∨ part.length = 1
  /-- No longer start of a character starts here. -/
  longest : ∀ longer : List UInt8, longer <+: part ++ rest → IsStart longer →
    longer.length ≤ part.length

/-- The text stands for the bytes. -/
inductive Lossy : List UInt8 → Text → Prop where
  | nil : Lossy [] []
  | char {rest : List UInt8} {text : Text} (c : Char) (lossy : Lossy rest text) :
      Lossy (String.utf8EncodeChar c ++ rest) (c :: text)
  | subpart {part rest : List UInt8} {text : Text} (isSubpart : IsSubpart part rest)
      (lossy : Lossy rest text) : Lossy (part ++ rest) (replacement :: text)

theorem IsStart.of_prefix {part longer : List UInt8} (start : IsStart longer)
    (front : part <+: longer) : IsStart part := by
  obtain ⟨c, inside⟩ := start
  exact ⟨c, front.trans inside⟩

end Utf8

end SqlDump
