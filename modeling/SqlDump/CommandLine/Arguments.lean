import SqlDump.Text

/-!
# Arguments

The program takes one table and the option `--config` with a file.  The
options `--help` and `--version` end it at once.  Arguments are taken from left to
right, and the first that is wrong, or that ends the program, decides.

Which command lines ask for a pass, and for which, is said without a reader, too: the
table and the file may be given in any order, each at most once.
-/

namespace SqlDump

namespace CommandLine

structure Invocation where
  table? : Option Text
  config? : Option Text
  deriving DecidableEq, Repr

inductive Request where
  | help
  | version
  | misused
  | pass (invocation : Invocation)
  deriving DecidableEq, Repr

namespace Invocation

def empty : Invocation :=
  ⟨none, none⟩

def withTable (invocation : Invocation) (table : Text) : Option Invocation :=
  match invocation.table? with
  | none => some { invocation with table? := some table }
  | some _ => none

/-- The invocation with a file, unless it has one.  A file has a name. -/
def withConfig (invocation : Invocation) (path : Text) : Option Invocation :=
  match invocation.config? with
  | none => if path = [] then none else some { invocation with config? := some path }
  | some _ => none

end Invocation

def readTables (invocation : Invocation) : List Text → Request
  | [] => .pass invocation
  | argument :: arguments =>
      match invocation.withTable argument with
      | none => .misused
      | some next => readTables next arguments

/-- Whether an argument reads as an option.  A lone dash does not. -/
def isOption : Text → Bool
  | '-' :: _ :: _ => true
  | _ => false

def attachedConfig? (argument : Text) : Option Text :=
  let head := "--config=".toList
  if head.isPrefixOf argument then some (argument.drop head.length) else none

/-- An option of its own.  Of several letters behind one dash, the first
decides. -/
def readFlag (argument : Text) : Request :=
  if argument = "--help".toList then .help
  else if argument = "--version".toList then .version
  else
    match argument with
    | '-' :: 'h' :: _ => .help
    | '-' :: 'V' :: _ => .version
    | _ => .misused

def readFrom (invocation : Invocation) : List Text → Request
  | [] => .pass invocation
  | argument :: arguments =>
      if argument = "--".toList then readTables invocation arguments
      else if argument = "--config".toList then
        match arguments with
        | [] => .misused
        | path :: arguments =>
            if isOption path then .misused
            else
              match invocation.withConfig path with
              | none => .misused
              | some next => readFrom next arguments
      else
        match attachedConfig? argument with
        | some path =>
            match invocation.withConfig path with
            | none => .misused
            | some next => readFrom next arguments
        | none =>
            if isOption argument then readFlag argument
            else
              match invocation.withTable argument with
              | none => .misused
              | some next => readFrom next arguments

/-- What the arguments ask for.  A file that the environment names counts if
no argument names one. -/
def read (arguments : List Text) (environment? : Option Text) : Request :=
  match readFrom .empty arguments, environment? with
  | .pass ⟨table?, none⟩, some path =>
      if path = [] then .misused else .pass ⟨table?, some path⟩
  | request, _ => request

/-- The arguments ask for a pass with the table and the file, as far as they name
any.  What reads as an option names neither, unless it stands behind `--`. -/
inductive Asks : List Text → Option Text → Option Text → Prop where
  | nothing : Asks [] none none
  | table {name : Text} {arguments : List Text} {config? : Option Text}
      (plain : isOption name = false) (rest : Asks arguments none config?) :
      Asks (name :: arguments) (some name) config?
  | config {path : Text} {arguments : List Text} {table? : Option Text}
      (plain : isOption path = false) (named : path ≠ []) (rest : Asks arguments table? none) :
      Asks ("--config".toList :: path :: arguments) table? (some path)
  | attached {path : Text} {arguments : List Text} {table? : Option Text}
      (named : path ≠ []) (rest : Asks arguments table? none) :
      Asks (("--config=".toList ++ path) :: arguments) table? (some path)
  | tables {names : List Text} (single : names.length ≤ 1) :
      Asks ("--".toList :: names) names.head? none

end CommandLine

end SqlDump
