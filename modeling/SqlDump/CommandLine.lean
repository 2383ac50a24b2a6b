import SqlDump.CommandLine.Arguments
import SqlDump.CommandLine.Help
import SqlDump.Files
import SqlDump.Notice.Log
import SqlDump.Pass

/-!
# The command line program

The program reads its settings, makes one pass over the standard input and
answers with an exit code and the bytes on its two output channels.  Echo
lines and log lines share the diagnostics channel in the order in which they
come about.
-/

namespace SqlDump

namespace CommandLine

/-- What the program leaves behind.  The diagnostics of a misuse are not
described. -/
structure Response where
  code : Nat
  output : List UInt8
  diagnostics? : Option Text
  deriving DecidableEq, Repr

/-- What surrounds a run of the program: the wish for a filter, the standard
input, the device behind the standard output, the time shown in the log, and the
device behind the standard error, which may be a terminal. -/
structure Surroundings where
  filter? : Option Text
  input : Input
  device : Device
  time : Text
  errors : Device := .unlimited
  terminal : Bool := false

def bufferSize : Nat :=
  8192

/-- The code of a program whose report is refused. -/
def abortCode : Nat :=
  101

def errorLabel (color : Bool) : Text :=
  if color then "\x1b[1;31mError:\x1b[0m".toList else "Error:".toList

def errorLine (color : Bool) (words : Text) : Text :=
  errorLabel color ++ ' ' :: words ++ ['\n']

/-- The end with an error, which is reported on the standard error. -/
def fail (errors : Device) (color : Bool) (words : Text) (output : List UInt8) : Response :=
  match errors.write (errorLine color words).bytes with
  | (errors, none) => ⟨1, output, some (Utf8.decodeLossy errors.taken)⟩
  | (errors, some _) => ⟨abortCode, output, some (Utf8.decodeLossy errors.taken)⟩

def logLine (around : Surroundings) (notice : Notice) : Text :=
  if (Filter.wanted around.filter?).shows notice then notice.line around.terminal around.time
  else []

/-- The settings of a run without a file.  A terminal gets colors. -/
def defaultSettings (terminal : Bool) : Settings :=
  { Settings.default with color := terminal }

def settingsFor (invocation : Invocation) (settings : Settings) : Settings :=
  match invocation.table? with
  | none => settings
  | some table => { settings with table := table }

/-- What ends a pass early: a fault of its own, or a line of the log that is refused. -/
inductive Stop where
  | fault (fault : Fault)
  | silenced
  deriving DecidableEq, Repr

/-- Perform actions until something stops them, with a line on the diagnostics channel
for every notice. -/
def performLogged (line : Notice → Text) (channels : Channels) :
    List Action → Channels × Option Stop
  | [] => (channels, none)
  | .note notice :: actions =>
      match channels.step (.write .diagnostics (line notice)) with
      | (channels, some _) => (channels, some .silenced)
      | (channels, none) => performLogged line channels actions
  | action :: actions =>
      match channels.step action with
      | (channels, some fault) => (channels, some (.fault fault))
      | (channels, none) => performLogged line channels actions

def pass (settings : Settings) (around : Surroundings) : Response :=
  let cleaner := Cleaner.ofSettings settings
  let channels : Channels :=
    ⟨.buffered around.device bufferSize, .direct around.errors none⟩
  let opening := Notice.starting settings.table settings.echo :: cleaner.opening
  let (last, stop?) := performLogged (logLine around) channels
    (opening.map Action.note ++ cleaner.plan around.input)
  -- what the buffer still holds is passed on however the pass ends
  let output := last.output.drain.1.device.taken
  let diagnostics := last.diagnostics.device
  match stop? with
  | none => ⟨0, output, some (Utf8.decodeLossy diagnostics.taken)⟩
  | some (.fault fault) =>
      fail diagnostics settings.color
        ("Rewrite failed: ".toList ++ fault.sentence ++ ": ".toList ++ fault.message) output
  | some .silenced => ⟨abortCode, output, some (Utf8.decodeLossy diagnostics.taken)⟩

/-- Answer an invocation.  `loaded?` holds the settings of its file, or why
there are none, if it names a file. -/
def answer (invocation : Invocation) (loaded? : Option (Except LoadError Settings))
    (around : Surroundings) : Response :=
  match loaded? with
  | some (.error error) =>
      fail around.errors around.terminal
        ("Failed to load config from ".toList ++ invocation.config?.getD [] ++
          ": ".toList ++ error.chain) []
  | some (.ok settings) => pass (settingsFor invocation settings) around
  | none => pass (settingsFor invocation (defaultSettings around.terminal)) around

def tell (device : Device) (text : Text) : Response :=
  ⟨0, (device.write text.bytes).1.taken, some []⟩

def inform (environment? : Option Text) (device : Device) : Request → Response
  | .help => tell device (helpText environment?)
  | .version => tell device versionText
  | _ => ⟨2, [], none⟩

def respond (arguments : List Text) (environment? : Option Text) (files : Files)
    (around : Surroundings) : Response :=
  match read arguments environment? with
  | .pass invocation => answer invocation (invocation.config?.map (Settings.load files)) around
  | request => inform environment? around.device request

end CommandLine

end SqlDump
