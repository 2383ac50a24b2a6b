import SqlDump.Action
import SqlDump.Cleaner
import SqlDump.Gatherer

/-!
# Passes

A pass reads an input, treats each of its statements and writes what is left
of them, one statement to a line.  `plan` lists all actions of the pass in
order; `run` performs them on given channels.
-/

namespace SqlDump

/-- What a completed pass amounts to: the counts, and whether text without a
terminator was left at the end. -/
structure Summary where
  tally : Tally
  unfinished : Bool
  deriving DecidableEq, Repr

/-- How a pass went: the channels after it, the completed actions, and its
summary unless a fault stopped it. -/
structure Report where
  channels : Channels
  done : List Action
  result : Except Fault Summary

namespace Report

/-- The notices given before the end or the fault. -/
def notices (report : Report) : List Notice :=
  report.done.filterMap Action.notice?

end Report

namespace Cleaner

/-- The label of an echo line, dimmed if colors are on. -/
def label (cleaner : Cleaner) (word : Text) : Text :=
  if cleaner.settings.color && cleaner.colorAllowed then
    "\x1b[2m".toList ++ word ++ "\x1b[0m".toList
  else word

def echo (cleaner : Cleaner) (word text : Text) : List Action :=
  if cleaner.settings.echo then
    [.write .diagnostics (cleaner.label word ++ ' ' :: text ++ ['\n'])]
  else []

def emit : Option Text → List Action
  | some text => [.write .output text, .write .output ['\n']]
  | none => []

def treat (cleaner : Cleaner) (statement : Text) : List Action :=
  let (outcome, notices) := cleaner.process statement
  cleaner.echo "Original:".toList statement ++
    notices.map .note ++
    [.note (.handled cleaner.settings.table outcome.treatment)] ++
    cleaner.echo "Processed:".toList (outcome.text?.getD []) ++
    emit outcome.text?

def summary (cleaner : Cleaner) (statements : List Text) (rest : Gatherer) : Summary :=
  ⟨.ofTreatments (statements.map fun statement => (cleaner.process statement).1.treatment),
    rest.leftover?.isSome⟩

def close (cleaner : Cleaner) (summary : Summary) (rest : Gatherer) : List Action :=
  (match rest.leftover? with
    | some text => [.note (.unfinished text.byteSize)]
    | none => []) ++
    [.flush .output, .flush .diagnostics,
      .note (.finished cleaner.settings.table summary.tally)]

def plan (cleaner : Cleaner) (input : Input) : List Action :=
  let (statements, rest) := Gatherer.statements input.lines
  statements.flatMap cleaner.treat ++
    match input.fault? with
    | some fault => [.fail fault]
    | none => cleaner.close (cleaner.summary statements rest) rest

def run (cleaner : Cleaner) (input : Input) (channels : Channels) : Report :=
  let (statements, rest) := Gatherer.statements input.lines
  let (last, done, fault?) := channels.perform (cleaner.plan input)
  ⟨last, done,
    match fault? with
    | some fault => .error fault
    | none => .ok (cleaner.summary statements rest)⟩

theorem run_eq (cleaner : Cleaner) (input : Input) (channels : Channels) :
    cleaner.run input channels =
      ⟨(channels.perform (cleaner.plan input)).1, (channels.perform (cleaner.plan input)).2.1,
        match (channels.perform (cleaner.plan input)).2.2 with
        | some fault => .error fault
        | none => .ok (cleaner.summary (Gatherer.statements input.lines).1
            (Gatherer.statements input.lines).2)⟩ := rfl

end Cleaner

/-- The cleaned form of a whole dump, for the built-in rule of a table. -/
def clean (table dump : Text) : Text :=
  let cleaner := Cleaner.ofSettings { Settings.forTable table with echo := false }
  let channels : Channels := ⟨.direct .unlimited none, .direct .unlimited none⟩
  Utf8.decodeLossy (cleaner.run ⟨dump.bytes, none⟩ channels).channels.output.device.taken

/-! ## The trace of a pass

Without faults a pass writes, for each statement in order, the two lines of its
echo and then what is left of it.  This is said here without the actions of the
pass, and holds of them. -/

namespace Cleaner

/-- The two lines that echo a statement: what it was and what has become of it. -/
def echoed (cleaner : Cleaner) (statement : Text) : Text :=
  cleaner.label "Original:".toList ++ ' ' :: statement ++ ['\n'] ++
    (cleaner.label "Processed:".toList ++
      ' ' :: ((cleaner.process statement).1.text?.getD []) ++ ['\n'])

/-- What a statement leaves in the output: a line, unless it is dropped. -/
def remainder (cleaner : Cleaner) (statement : Text) : Text :=
  match (cleaner.process statement).1.text? with
  | some text => text ++ ['\n']
  | none => []

def trace (cleaner : Cleaner) (statements : List Text) : Trace :=
  statements.flatMap fun statement =>
    (if cleaner.settings.echo then Trace.ofText .diagnostics (cleaner.echoed statement) else []) ++
      Trace.ofText .output (cleaner.remainder statement)

theorem trace_cons (cleaner : Cleaner) (statement : Text) (statements : List Text) :
    cleaner.trace (statement :: statements) =
      ((if cleaner.settings.echo then Trace.ofText .diagnostics (cleaner.echoed statement)
        else []) ++ Trace.ofText .output (cleaner.remainder statement)) ++
        cleaner.trace statements :=
  List.flatMap_cons

theorem ofActions_treat (cleaner : Cleaner) (statement : Text) :
    Trace.ofActions (cleaner.treat statement) = cleaner.trace [statement] := by
  have emitted : Trace.ofActions (emit (cleaner.process statement).1.text?) =
      Trace.ofText .output (cleaner.remainder statement) := by
    rw [remainder]
    cases (cleaner.process statement).1.text? with
    | none => rfl
    | some text => exact (Trace.ofText_append .output text ['\n']).symm
  rw [treat]
  simp only [Trace.ofActions_append, emitted, Trace.ofActions_notes, trace, List.flatMap_singleton]
  rw [echo, echo]
  split
  · have echoedEq := Trace.ofText_append .diagnostics
      (cleaner.label "Original:".toList ++ ' ' :: statement ++ ['\n'])
      (cleaner.label "Processed:".toList ++
        ' ' :: ((cleaner.process statement).1.text?.getD []) ++ ['\n'])
    rw [echoed, echoedEq]
    simp [Trace.ofActions, Trace.ofAction, Trace.ofText]
  · rfl

/-- The actions for all statements write the trace of the pass. -/
theorem ofActions_treatAll (cleaner : Cleaner) (statements : List Text) :
    Trace.ofActions (statements.flatMap cleaner.treat) = cleaner.trace statements := by
  induction statements with
  | nil => rfl
  | cons statement statements ih =>
      rw [List.flatMap_cons, Trace.ofActions_append, ofActions_treat, ih, trace_cons, trace_cons,
        trace, List.flatMap_nil, List.append_nil]

end Cleaner

end SqlDump
