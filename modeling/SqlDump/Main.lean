import SqlDump.CommandLine
import Std.Time

/-!
# Running the program

The outermost layer: it gathers arguments, environment, files and the standard
input, and writes out the response.
-/

namespace SqlDump

namespace CommandLine

def faultOf : IO.Error → Fault
  | .noFileOrDirectory .. => .notFound
  | .resourceExhausted _ code words => if code = 28 then .deviceFull else .other words.toList
  | .inappropriateType _ code words =>
      if code = 20 then .notDirectory
      else if code = 21 then .isDirectory
      else .other words.toList
  | other => .other other.toString.toList

/-- The bytes of a stream up to its end, or up to a fault. -/
partial def readAll (stream : IO.FS.Stream) (read : ByteArray) : IO Input := do
  match ← (stream.read 65536).toBaseIO with
  | .error error => return ⟨read.toList, some (faultOf error)⟩
  | .ok bytes =>
      if bytes.isEmpty then return ⟨read.toList, none⟩ else readAll stream (read ++ bytes)

def loadConfig (invocation : Invocation) : IO (Option (Except LoadError Settings)) := do
  match invocation.config? with
  | none => return none
  | some path =>
      match ← (IO.FS.readBinFile (String.ofList path)).toBaseIO with
      | .error error => return some (Settings.ofFile (.error (faultOf error)))
      | .ok bytes => return some (Settings.ofFile (.ok bytes.toList))

def timeNow : IO Text := do
  let time := Std.Time.DateTime.ofTimestampWithZone (← Std.Time.Timestamp.now) .GMT
  return (time.format "uuuu-MM-dd'T'HH:mm:ss.SSSSSS'Z'").toList

/-- The device that a failed operation has shown to refuse everything. -/
def refusing (error : IO.Error) : Device :=
  .limited 0 (faultOf error)

def writeOutput (response : Response) : IO Unit := do
  let output ← IO.getStdout
  output.write ⟨response.output.toArray⟩
  output.flush

def writeDiagnostics (response : Response) : IO Unit := do
  let errors ← IO.getStderr
  match response.diagnostics? with
  | some text => errors.putStr (String.ofList text)
  | none => errors.putStrLn "error: unexpected arguments; for more, try --help"

/-- Write out the response of a pass, or the one that its surroundings call for if they
refuse the first one, and give its exit code. -/
def deliver (respond : Surroundings → Response) (around : Surroundings) : IO UInt32 := do
  let around ← try
      writeOutput (respond around)
      pure around
    catch error => pure { around with device := refusing error }
  try
    writeDiagnostics (respond around)
    return (respond around).code.toUInt32
  catch error => return (respond { around with errors := refusing error }).code.toUInt32

end CommandLine

end SqlDump

open SqlDump CommandLine in
def main (arguments : List String) : IO UInt32 := do
  let environment? := (← IO.getEnv "INSERT_REWRITE_CONFIG").map String.toList
  match CommandLine.read (arguments.map String.toList) environment? with
  | .pass invocation =>
      let loaded? ← loadConfig invocation
      let around : Surroundings :=
        { filter? := (← IO.getEnv "RUST_LOG").map String.toList
          input := ← readAll (← IO.getStdin) .empty
          device := .unlimited
          time := ← timeNow
          errors := .unlimited
          terminal := ← (← IO.getStderr).isTty }
      deliver (answer invocation loaded?) around
  | request =>
      let response := inform environment? .unlimited request
      try
        writeOutput response
        writeDiagnostics response
      catch _ => pure ()
      return response.code.toUInt32
