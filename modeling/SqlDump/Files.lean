import SqlDump.Settings
import SqlDump.Device
import SqlDump.Text.Utf8

/-!
# Files

A directory of files by name, in which a path is looked up the way a system
does it: part by part, where every part but the last has to be a directory.
-/

namespace SqlDump

/-- The files and directories below a directory, each by the names that lead
to it. -/
structure Files where
  contents : List (List Text × List UInt8)
  directories : List (List Text)
  deriving DecidableEq, Repr

namespace Files

def parts (path : Text) : List Text :=
  path.splitOn '/'

/-- The names of a path, as it is given for a file of a directory. -/
def names (path : Text) : List Text :=
  (parts path).filter (· ≠ [])

def ofPaths (files : List (Text × List UInt8)) (directories : List Text) : Files :=
  ⟨files.map fun (path, bytes) => (names path, bytes), directories.map names⟩

/-- What is known of the files outside: some directories and the null device,
which is always empty. -/
def outside : Files :=
  ofPaths [("dev/null".toList, [])]
    (["bin", "etc", "home", "lib", "opt", "proc", "root", "run", "sbin", "srv", "sys", "tmp",
      "usr", "var"].map String.toList)

inductive Place where
  | file (bytes : List UInt8)
  | directory
  deriving DecidableEq, Repr

def leadsTo (names longer : List Text) : Bool :=
  names.length < longer.length && names.isPrefixOf longer

/-- What is found under the names.  Whatever has something below it is a
directory. -/
def place? (files : Files) (names : List Text) : Option Place :=
  match files.contents.find? (·.1 = names) with
  | some (_, bytes) => some (.file bytes)
  | none =>
      if names = [] || files.directories.contains names ||
          files.directories.any (leadsTo names) ||
          (files.contents.map (·.1)).any (leadsTo names) then
        some .directory
      else none

def longestName : Nat :=
  255

def longestPath : Nat :=
  4095

/-- Follow the parts of a path from the place that `names` lead to.  Above the
directory itself nothing is known by name. -/
def follow (files : Files) (names? : Option (List Text)) : List Text → Except Fault Place
  | [] =>
      match names? with
      | none => .ok .directory
      | some names =>
          match files.place? names with
          | some place => .ok place
          | none => .error .notFound
  | part :: rest =>
      match names?.elim (some Place.directory) files.place? with
      | none => .error .notFound
      | some (.file _) => .error .notDirectory
      | some .directory =>
          if part = [] ∨ part = ['.'] then files.follow names? rest
          else if part = ['.', '.'] then
            match names? with
            | none => files.follow none rest
            | some [] => files.follow none rest
            | some names => files.follow (some names.dropLast) rest
          else if longestName < part.byteSize then .error .nameTooLong
          else
            match names? with
            | none => .error .notFound
            | some names => files.follow (some (names ++ [part])) rest

/-- The bytes of the file at a path.  The empty path is the directory itself. -/
def bytes (files : Files) (path : Text) : Except Fault (List UInt8) :=
  if '\x00' ∈ path then .error .nulInName
  else if longestPath < path.byteSize then .error .nameTooLong
  else
    let start := if path.head? = some '/' then outside else files
    match start.follow (some []) (parts path) with
    | .error fault => .error fault
    | .ok .directory => .error .isDirectory
    | .ok (.file bytes) => .ok bytes

end Files

inductive LoadError where
  | unread (fault : Fault)
  | refused (error : SettingsError)
  deriving DecidableEq, Repr

namespace LoadError

def chain : LoadError → Text
  | .unread fault => fault.sentence ++ ": ".toList ++ fault.message
  | .refused error => error.sentence

end LoadError

namespace Settings

def ofFile : Except Fault (List UInt8) → Except LoadError Settings
  | .error fault => .error (.unread fault)
  | .ok bytes =>
      match Utf8.decode? bytes with
      | none => .error (.unread .notUtf8)
      | some text => (read text).mapError .refused

def load (files : Files) (path : Text) : Except LoadError Settings :=
  ofFile (files.bytes path)

end Settings

end SqlDump
