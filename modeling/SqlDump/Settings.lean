import SqlDump.Text.Escaped
import SqlDump.Toml.Document

/-!
# Settings

The settings of a pass: the table whose rule applies, whether statements are
echoed on the diagnostics channel, and whether the echo labels are dimmed.

They are read from a TOML document with the keys `table`, `echo` and `color`, each
of which may be left out.  The keys are taken in document order, and the first one
that is unknown or has a value of the wrong kind decides the error.
-/

namespace SqlDump

structure Settings where
  table : Text
  echo : Bool
  color : Bool
  deriving DecidableEq, Repr

namespace Settings

/-- The table of settings that choose none.  There is no rule for it. -/
def unknownTable : Text :=
  "unknown".toList

def forTable (table : Text) : Settings :=
  ⟨table, true, false⟩

def default : Settings :=
  forTable unknownTable

end Settings

inductive SettingsError where
  | malformed
  | unknownKey (key : Text)
  | wrongKind (found expected : Text)
  deriving DecidableEq, Repr

namespace SettingsError

/-- What is wrong, in words.  A malformed document has no words of its own. -/
def reason : SettingsError → Text
  | .malformed => []
  | .unknownKey key =>
      "unknown field `".toList ++ key ++ "`, expected one of `table`, `echo`, `color`".toList
  | .wrongKind found expected =>
      "invalid type: ".toList ++ found ++ ", expected ".toList ++ expected

def sentence (error : SettingsError) : Text :=
  "Configuration error: ".toList ++ error.reason

end SettingsError

namespace Settings

def integerText : Int → Text
  | .ofNat n => Text.ofNat n
  | .negSucc n => '-' :: Text.ofNat (n + 1)

def describe : Toml.Node → Text
  | .string text => "string ".toList ++ text.escaped
  | .integer n => "integer `".toList ++ integerText n ++ "`".toList
  | .float x => "floating point `".toList ++ x.text ++ "`".toList
  | .boolean b => "boolean `".toList ++ (if b then "true" else "false").toList ++ "`".toList
  | .moment _ => "map".toList
  | .array _ => "sequence".toList
  | .inlineTable _ => "map".toList
  | .table .. => "map".toList
  | .tables _ => "sequence".toList

def string (node : Toml.Node) : Except SettingsError Text :=
  match node with
  | .string text => .ok text
  | other => .error (.wrongKind (describe other) "a string".toList)

def boolean (node : Toml.Node) : Except SettingsError Bool :=
  match node with
  | .boolean b => .ok b
  | other => .error (.wrongKind (describe other) "a boolean".toList)

def set (settings : Settings) (key : Text) (node : Toml.Node) : Except SettingsError Settings :=
  if key = "table".toList then
    (string node).map fun table => { settings with table := table }
  else if key = "echo".toList then
    (boolean node).map fun echo => { settings with echo := echo }
  else if key = "color".toList then
    (boolean node).map fun color => { settings with color := color }
  else .error (.unknownKey key)

def setAll (settings : Settings) : Toml.Entries → Except SettingsError Settings
  | [] => .ok settings
  | (key, node) :: entries =>
      match settings.set key node with
      | .error error => .error error
      | .ok settings => setAll settings entries

/-- The settings of a document; what it leaves out has its default. -/
def read (document : Text) : Except SettingsError Settings :=
  match Toml.document? document with
  | none => .error .malformed
  | some entries => default.setAll entries

end Settings

end SqlDump
