import SqlDump.Notice
import SqlDump.Text.Escaped
import SqlDump.Number
import SqlDump.Pattern

/-!
# The log

A notice that is shown has a line of its own: the time, the level, the source, the
message and the fields.

A filter says which notices are shown.  It is a list of directives, each with
a limit on the level, for the notices whose source starts with its target and
that have its field.  The most specific directive for a notice decides: a
longer target before a shorter one, then one with a field before one without;
of two directives for the same notices, the later one counts.

`read?` reads a filter from directives with commas between them, such as
`info,table=debug`.
-/

namespace SqlDump

def styled (ansi : Bool) (style : String) (text : Text) : Text :=
  if ansi then "\x1b[".toList ++ style.toList ++ 'm' :: text ++ "\x1b[0m".toList else text

namespace Level

/-- The name of a level, set to the right in five columns. -/
def column : Level → Text
  | .error => "ERROR".toList
  | .warn => " WARN".toList
  | .info => " INFO".toList
  | .debug => "DEBUG".toList
  | .trace => "TRACE".toList

/-- Red, yellow, green, blue and purple. -/
def style : Level → String
  | .error => "31"
  | .warn => "33"
  | .info => "32"
  | .debug => "34"
  | .trace => "35"

end Level

namespace Datum

def text : Datum → Text
  | .shown text => text
  | .quoted text => text.escaped
  | .number n => Text.ofNat n
  | .truth b => (if b then "true" else "false").toList

end Datum

namespace Notice

/-- A field as it is shown behind the message, its name in italics. -/
def fieldText (ansi : Bool) (name : String) (datum : Datum) : Text :=
  ' ' :: (styled ansi "3" name.toList ++ styled ansi "2" ['='] ++ datum.text)

/-- The line of a notice that was given at a time.  With styles on, all but the level,
the message and the fields is dim. -/
def line (ansi : Bool) (time : Text) (notice : Notice) : Text :=
  styled ansi "2" time ++ ' ' :: styled ansi notice.level.style notice.level.column ++
    ' ' :: styled ansi "2" notice.source ++ styled ansi "2" [':'] ++ ' ' :: notice.message ++
    (notice.fields.flatMap fun (name, datum) => fieldText ansi name datum) ++ ['\n']

end Notice

/-! ## Filters -/

namespace Level

def rank : Level → Nat
  | .error => 1
  | .warn => 2
  | .info => 3
  | .debug => 4
  | .trace => 5

end Level

/-- A limit on the notices with a target and a field.  A limit of zero shows
none of them. -/
structure Directive where
  target? : Option Text
  field? : Option Text
  limit : Nat
  deriving DecidableEq, Repr

namespace Directive

def concerns (directive : Directive) (notice : Notice) : Bool :=
  (directive.target?.all fun target => target.isPrefixOf notice.source) &&
    directive.field?.all fun name =>
      name = "message".toList || notice.fields.any fun (field, _) => field.toList = name

def targetSize (directive : Directive) : Nat :=
  directive.target?.elim 0 fun target => target.byteSize + 1

def outranks (first second : Directive) : Bool :=
  if first.targetSize ≠ second.targetSize then second.targetSize < first.targetSize
  else
    match first.field?, second.field? with
    | _, none => true
    | none, some _ => false
    | some name, some other => other.le name

end Directive

structure Filter where
  directives : List Directive
  deriving DecidableEq, Repr

namespace Filter

/-- The filter without any wish: warnings and errors of this program. -/
def standard : Filter :=
  ⟨[⟨some "insert_rewrite".toList, none, Level.warn.rank⟩]⟩

def errorsOnly : Filter :=
  ⟨[⟨none, none, Level.error.rank⟩]⟩

def deciding? (filter : Filter) (notice : Notice) : Option Directive :=
  (filter.directives.filter (·.concerns notice)).foldl
    (fun best? directive =>
      match best? with
      | none => some directive
      | some best => if directive.outranks best then some directive else some best)
    none

def shows (filter : Filter) (notice : Notice) : Bool :=
  match filter.deciding? notice with
  | none => false
  | some directive => notice.level.rank ≤ directive.limit

def numberedLimit? (text : Text) : Option Nat :=
  let digits := match text with
    | '+' :: rest => rest
    | _ => text
  if digits = [] || !digits.all Char.isDigit then none
  else
    let n := digits.foldl (fun n c => n * 10 + (c.toNat - '0'.toNat)) 0
    if n ≤ 5 then some n else none

def limit? (text : Text) : Option Nat :=
  let word := text.map Char.toLower
  if word = "off".toList then some 0
  else if word = "error".toList then some 1
  else if word = "warn".toList then some 2
  else if word = "info".toList then some 3
  else if word = "debug".toList then some 4
  else if word = "trace".toList then some 5
  else numberedLimit? text

/-- The limit behind an equals sign.  Left out, it shows everything. -/
def givenLimit? (text : Text) : Option Nat :=
  if text = [] then some 5 else limit? text

def mayStart (c : Char) : Bool :=
  c = '-' || c = ':' || c = '_' || Text.isAlphanumeric c

structure Field where
  name : Text
  value? : Option Text
  deriving DecidableEq, Repr

def isValue (text : Text) : Bool :=
  Number.isSpelled text || Pattern.isReadable text

/-- The field that a text names.  Its value stands between the first equals
sign and the next one, if there is a next one. -/
def field? (text : Text) : Option Field :=
  if text = [] then none
  else
    match text.splitOn '=' with
    | name :: value :: _ => if isValue value then some ⟨name, some value⟩ else none
    | _ => some ⟨text, none⟩

/-- What stands between square brackets: the name of a span, and a field in
braces. -/
structure Scope where
  span? : Option Text
  field? : Option Field
  deriving DecidableEq, Repr

/-- The directives with a scope.  One that names a span, or a value of a field,
speaks about no notice, so there is none for it. -/
def inScope (target? : Option Text) (scope : Scope) (limit : Nat) : List Directive :=
  match scope with
  | ⟨none, some ⟨name, none⟩⟩ => [⟨target?, some name, limit⟩]
  | _ => []

/-!
Places in a part of the list are counted in the part without the blanks around
it, but what stands at them is taken from the part with its blanks.  A part
with blanks in front is therefore read otherwise than it looks, and has no
directive if a place falls inside a character.
-/

def limitAt? (part : Text) (place : Nat) : Option Nat :=
  (Text.dropBytes? place part).bind givenLimit?

/-- The directives of a part, of which `rest` follows the scope up to a
place. -/
def scopedAt? (part : Text) (target? : Option Text) (scope : Scope) (place : Nat)
    (rest : Text) : Option (List Directive) :=
  match rest with
  | [] => some (inScope target? scope 5)
  | '=' :: _ => (limitAt? part (place + 1)).map (inScope target? scope)
  | _ => none

/-- The directives of a part, of which `inner` follows the bracket that opens a
scope in front of a place. -/
def scopeAt? (part : Text) (target? : Option Text) (place : Nat) (inner : Text) :
    Option (List Directive) :=
  let (name, behind) := inner.span fun c => c ≠ ']' && c ≠ '\x7b'
  let stop := place + Text.byteSize name
  match Text.slice? place stop part, behind with
  | some span, ']' :: rest => scopedAt? part target? ⟨some span, none⟩ (stop + 1) rest
  | some span, _ :: behind =>
      match behind.span (· ≠ '\x7d') with
      | (inside, _ :: ']' :: rest) =>
          let last := stop + 1 + Text.byteSize inside
          match (Text.slice? (stop + 1) last part).bind field? with
          | some field =>
              let span? := if span = [] then none else some span
              scopedAt? part target? ⟨span?, some field⟩ (last + 2) rest
          | none => none
      | _ => none
  | _, _ => none

/-- The directives of a part without scope or equals sign: a limit for all
notices, or a target whose notices are all shown. -/
def plainDirectives (part : Text) : List Directive :=
  match limit? part with
  | some limit => [⟨none, none, limit⟩]
  | none => [⟨some part, none, 5⟩]

def directives? (part : Text) : Option (List Directive) :=
  match part.trim with
  | [] => none
  | '[' :: inner => scopeAt? part none 1 inner
  | c :: tail =>
      if mayStart c then
        let (head, behind) := (c :: tail).span fun c => c ≠ '=' && c ≠ '['
        let stop := Text.byteSize head
        match Text.slice? 0 stop part, behind with
        | _, [] => some (plainDirectives part)
        | some target, '=' :: _ =>
            (limitAt? part (stop + 1)).map fun limit => [⟨some target, none, limit⟩]
        | some target, _ :: inner => scopeAt? part (some target) (stop + 1) inner
        | none, _ => none
      else none

def read? (text : Text) : Option Filter :=
  match (text.splitOn ',').filter (· ≠ []) with
  | [] => some errorsOnly
  | parts => (parts.mapM directives?).map fun directives => ⟨directives.flatten⟩

/-- The filter that is asked for.  A list that cannot be read is as good as
none. -/
def wanted (text? : Option Text) : Filter :=
  (text?.bind read?).getD standard

end Filter

end SqlDump
