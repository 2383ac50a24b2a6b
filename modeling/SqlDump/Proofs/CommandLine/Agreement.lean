import SqlDump.CommandLine
import SqlDump.Proofs.CommandLine.Arguments
import SqlDump.Proofs.Pass.Bounded
import SqlDump.Proofs.Pass.Decoding

/-!
# The program cleans dumps

Whatever surrounds a pass of the program, its output is the cleaned form of the
text that stands for the standard input.  Of the settings only the table has a
part in it.  The output is buffered, but nothing of it is lost where the pass
succeeds, and no refusal is missed.
-/

namespace SqlDump

theorem Cleaner.cleaned_ofSettings (settings : Settings) (bytes : List UInt8) :
    (ofSettings settings).cleaned ⟨bytes, none⟩ =
      clean settings.table (Utf8.decodeLossy bytes) := by
  rw [clean_eq_cleaned, cleaned, cleaned, Input.lines_eq_lines_decodeLossy]
  rfl

namespace Channels

/-- The outputs are the same, and neither side can fail to report. -/
structure Mirrors (channels other : Channels) : Prop where
  output : channels.output = other.output
  logged : channels.diagnostics.IsFaultless
  unlogged : other.diagnostics.IsFaultless

theorem Mirrors.step {channels other : Channels} (mirrors : channels.Mirrors other)
    (action : Action) :
    (channels.step action).2 = (other.step action).2 ∧
      (channels.step action).1.Mirrors (other.step action).1 := by
  have ⟨output, logged, unlogged⟩ := mirrors
  cases action with
  | write channel text =>
      cases channel with
      | output =>
          rw [Channels.step, Channels.step, output]
          exact ⟨rfl, rfl, logged, unlogged⟩
      | diagnostics =>
          obtain ⟨next, written, still, _⟩ := Sink.write_of_isFaultless logged text.bytes
          obtain ⟨nextToo, writtenToo, stillToo, _⟩ :=
            Sink.write_of_isFaultless unlogged text.bytes
          rw [Channels.step, Channels.step, written, writtenToo]
          exact ⟨rfl, output, still, stillToo⟩
  | flush channel =>
      cases channel with
      | output =>
          rw [Channels.step, Channels.step, output]
          exact ⟨rfl, rfl, logged, unlogged⟩
      | diagnostics =>
          obtain ⟨next, flushed, still, _⟩ := Sink.flush_of_isFaultless logged
          obtain ⟨nextToo, flushedToo, stillToo, _⟩ := Sink.flush_of_isFaultless unlogged
          rw [Channels.step, Channels.step, flushed, flushedToo]
          exact ⟨rfl, output, still, stillToo⟩
  | note notice => exact ⟨rfl, mirrors⟩
  | fail fault => exact ⟨rfl, mirrors⟩

theorem perform_notes (channels : Channels) (notices : List Notice) :
    channels.perform (notices.map Action.note) = (channels, notices.map Action.note, none) := by
  induction notices with
  | nil => rfl
  | cons notice notices ih =>
      rw [List.map_cons, perform, step]
      dsimp only
      rw [ih]

end Channels

namespace CommandLine

theorem performLogged_cons_of_notice?_eq_none {action : Action} (plain : action.notice? = none)
    (line : Notice → Text) (channels : Channels) (actions : List Action) :
    performLogged line channels (action :: actions) =
      match channels.step action with
      | (channels, some fault) => (channels, some (.fault fault))
      | (channels, none) => performLogged line channels actions := by
  cases action with
  | note notice => cases plain
  | _ => rfl

/-- Where the log cannot be refused, it has no part in what happens to the output. -/
theorem performLogged_of_mirrors (line : Notice → Text) {channels other : Channels}
    (mirrors : channels.Mirrors other) (actions : List Action) :
    (performLogged line channels actions).2 = (other.perform actions).2.2.map Stop.fault ∧
      (performLogged line channels actions).1.Mirrors (other.perform actions).1 := by
  induction actions generalizing channels other with
  | nil => exact ⟨rfl, mirrors⟩
  | cons action actions ih =>
      cases noted : action.notice? with
      | some notice =>
          obtain rfl : action = .note notice := by
            cases action <;> cases noted
            rfl
          obtain ⟨next, written, still, _⟩ :=
            Sink.write_of_isFaultless mirrors.logged (line notice).bytes
          rw [performLogged, Channels.step, written]
          exact ih ⟨mirrors.output, still, mirrors.unlogged⟩
      | none =>
          obtain ⟨same, still⟩ := mirrors.step action
          rw [performLogged_cons_of_notice?_eq_none noted, Channels.perform]
          revert same still
          rcases channels.step action with ⟨next, fault?⟩
          rcases other.step action with ⟨nextToo, faultToo?⟩
          rintro rfl still
          cases fault? with
          | some fault => exact ⟨rfl, still⟩
          | none => exact ih still

/-- Behind some notices a pass goes on as it does without a log. -/
theorem performLogged_plan (line : Notice → Text) {channels : Channels}
    (faultless : channels.diagnostics.IsFaultless) (opening : List Notice) (cleaner : Cleaner)
    (input : Input) {logged : Channels × Option Stop}
    (performed :
      performLogged line channels (opening.map Action.note ++ cleaner.plan input) = logged) :
    (logged.2 =
      match (cleaner.run input channels).result with
      | .ok _ => none
      | .error fault => some (.fault fault)) ∧
    logged.1.Mirrors (cleaner.run input channels).channels := by
  obtain ⟨stop, mirrors⟩ := performLogged_of_mirrors line
    (⟨rfl, faultless, faultless⟩ : channels.Mirrors channels)
    (opening.map Action.note ++ cleaner.plan input)
  rw [performed, Channels.perform_append_of_completed (channels.perform_notes opening)]
    at stop mirrors
  rw [Cleaner.run_eq]
  refine ⟨?_, mirrors⟩
  rw [stop]
  cases (channels.perform (cleaner.plan input)).2.2 <;> rfl

theorem code_fail_of_room {errors : Device} (room : errors.room = none) (color : Bool)
    (words : Text) (output : List UInt8) : (fail errors color words output).code = 1 := by
  rw [fail, Device.write, room]

theorem output_fail (errors : Device) (color : Bool) (words : Text) (output : List UInt8) :
    (fail errors color words output).output = output := by
  rw [fail]
  split <;> rfl

/-- The table that was asked for counts, or else that of the file, or else the one
without a rule. -/
theorem table_settingsFor (invocation : Invocation) (loaded? : Option Settings)
    (terminal : Bool) :
    (settingsFor invocation (loaded?.getD (defaultSettings terminal))).table =
      (invocation.table?.or (loaded?.map Settings.table)).getD "unknown".toList := by
  obtain ⟨table?, config?⟩ := invocation
  cases table? with
  | some table => rfl
  | none => cases loaded? <;> rfl

/-- Without settings nothing is done. -/
theorem answer_of_error (invocation : Invocation) (error : LoadError) (around : Surroundings) :
    (answer invocation (some (.error error)) around).output = [] ∧
      (around.errors = .unlimited →
        (answer invocation (some (.error error)) around).code = 1) := by
  refine ⟨output_fail _ _ _ _, fun unlimited => code_fail_of_room ?_ _ _ _⟩
  rw [unlimited]
  rfl

theorem answer_of_loaded (invocation : Invocation) (loaded? : Option Settings)
    (around : Surroundings) :
    answer invocation (loaded?.map .ok) around =
      pass (settingsFor invocation (loaded?.getD (defaultSettings around.terminal))) around := by
  cases loaded? <;> rfl

variable (settings : Settings) (filter? : Option Text) (bytes : List UInt8) (time : Text)
  (terminal : Bool)

/-- A pass writes the cleaned form of its input as far as there is room, and succeeds
exactly if there is room for all of it. -/
theorem pass_of_room (room? : Option Nat) (refusal : Fault) {response : Response}
    (answered : pass settings
      ⟨filter?, ⟨bytes, none⟩, ⟨[], room?, refusal⟩, time, .unlimited, terminal⟩ = response)
    {written : List UInt8}
    (cleaned : Text.bytes (clean settings.table (Utf8.decodeLossy bytes)) = written) :
    (response.code = 0 ∧ response.output = written ∧
      ∀ room, room? = some room → written.length ≤ room) ∨
    ∃ room, room? = some room ∧ room < written.length ∧
      response.code = 1 ∧ response.output = written.take room := by
  have bounded : Channels.IsBounded
      ⟨.buffered ⟨[], room?, refusal⟩ bufferSize, .direct .unlimited none⟩ room? :=
    ⟨Sink.isBounded_buffered room? refusal bufferSize, rfl, rfl⟩
  have joined : written = [] ++
      Text.bytes ((Cleaner.ofSettings settings).cleaned ⟨bytes, none⟩) := by
    rw [Cleaner.cleaned_ofSettings, cleaned, List.nil_append]
  rw [← answered, pass]
  dsimp only
  generalize performed : performLogged _ _ _ = logged
  obtain ⟨stop, mirrors⟩ := performLogged_plan _ bounded.diagnostics _ _ _ performed
  rcases Cleaner.run_of_isBounded (Cleaner.ofSettings settings) bytes bounded joined rfl with
    ⟨⟨summary, ended⟩, empty, taken, fits⟩ | ⟨fault, failed, overrun⟩
  · rw [ended] at stop
    rw [stop, mirrors.output, Sink.taken_drain_of_held_eq_nil empty, taken]
    exact Or.inl ⟨rfl, rfl, fits⟩
  · obtain ⟨room, roomEq, excess, taken⟩ := overrun.taken
    rw [failed] at stop
    rw [stop, mirrors.output, Sink.taken_drain_of_held_eq_nil overrun.held, taken]
    exact Or.inr ⟨room, roomEq, excess, code_fail_of_room mirrors.logged.room _ _ _,
      output_fail _ _ _ _⟩

theorem pass_unlimited :
    (pass settings ⟨filter?, ⟨bytes, none⟩, .unlimited, time, .unlimited, terminal⟩).code = 0 ∧
      (pass settings ⟨filter?, ⟨bytes, none⟩, .unlimited, time, .unlimited, terminal⟩).output =
        Text.bytes (clean settings.table (Utf8.decodeLossy bytes)) := by
  rcases pass_of_room settings filter? bytes time terminal none .writeFailed rfl rfl with
    ⟨code, output, _⟩ | ⟨room, impossible, _⟩
  · exact ⟨code, output⟩
  · cases impossible

theorem code_pass_full (refusal : Fault) :
    (pass settings
      ⟨filter?, ⟨bytes, none⟩, .limited 0 refusal, time, .unlimited, terminal⟩).code =
      if clean settings.table (Utf8.decodeLossy bytes) = [] then 0 else 1 := by
  rcases pass_of_room settings filter? bytes time terminal (some 0) refusal rfl rfl with
    ⟨code, _, fits⟩ | ⟨room, full, excess, code, _⟩
  · have empty := List.eq_nil_of_length_eq_zero (Nat.le_zero.mp (fits 0 rfl))
    rw [if_pos (Text.bytes_eq_nil_iff.mp empty)]
    exact code
  · have anything : clean settings.table (Utf8.decodeLossy bytes) ≠ [] := by
      intro empty
      rw [empty] at excess
      exact Nat.not_lt_zero room excess
    rw [if_neg anything]
    exact code

variable {arguments : List Text} {environment? : Option Text} {invocation : Invocation}

theorem respond_of_loaded (accepted : read arguments environment? = .pass invocation)
    {files : Files} {loaded? : Option Settings}
    (loaded : invocation.config?.map (Settings.load files) = loaded?.map .ok)
    (around : Surroundings) :
    respond arguments environment? files around =
      pass (settingsFor invocation (loaded?.getD (defaultSettings around.terminal))) around := by
  rw [respond, accepted]
  dsimp only
  rw [loaded, answer_of_loaded]

/-- The program agrees with the cleaning of a dump in memory, for every command line
that asks for a pass, on a terminal and elsewhere.  If it names a file without settings,
the program writes nothing, and fails.  Otherwise the table is the one asked for, or else
that of the file, or else unknown, and the output is the cleaned form of the text that
stands for the standard input, whatever else the file says and the log shows.  If the
output takes nothing, the program fails exactly if there is anything to write.  The codes
are those of a program whose standard error takes everything. -/
theorem respond_agrees_with_clean (accepted : read arguments environment? = .pass invocation)
    (files : Files) :
    (∃ config?, Asks arguments invocation.table? config? ∧
      invocation.config? = config?.or environment?) ∧
    (∀ path error, invocation.config? = some path → Settings.load files path = .error error →
      ∀ around, (respond arguments environment? files around).output = [] ∧
        (around.errors = .unlimited →
          (respond arguments environment? files around).code = 1)) ∧
    ∀ loaded? : Option Settings,
      invocation.config?.map (Settings.load files) = loaded?.map .ok →
      ∀ (bytes : List UInt8) (filter? : Option Text) (time : Text) (terminal : Bool),
        let table := (invocation.table?.or (loaded?.map Settings.table)).getD "unknown".toList
        let cleaned := clean table (Utf8.decodeLossy bytes)
        let response (device : Device) :=
          respond arguments environment? files
            ⟨filter?, ⟨bytes, none⟩, device, time, .unlimited, terminal⟩
        (response .unlimited).code = 0 ∧ (response .unlimited).output = cleaned.bytes ∧
          ∀ refusal, (response (.limited 0 refusal)).code = if cleaned = [] then 0 else 1 := by
  refine ⟨asks_of_read accepted, ?_, ?_⟩
  · intro path error named unloaded around
    rw [respond, accepted]
    dsimp only
    rw [named, Option.map_some, unloaded]
    exact answer_of_error invocation error around
  · intro loaded? loaded bytes filter? time terminal table cleaned response
    have answered (device : Device) := respond_of_loaded accepted loaded
      ⟨filter?, ⟨bytes, none⟩, device, time, .unlimited, terminal⟩
    have chosen := table_settingsFor invocation loaded? terminal
    dsimp only at answered
    generalize settingsFor invocation (loaded?.getD (defaultSettings terminal)) = settings
      at answered chosen
    have same : clean settings.table (Utf8.decodeLossy bytes) = cleaned := by rw [chosen]
    obtain ⟨code, output⟩ := pass_unlimited settings filter? bytes time terminal
    rw [same, ← answered] at output
    rw [← answered] at code
    refine ⟨code, output, fun refusal => ?_⟩
    have full := code_pass_full settings filter? bytes time terminal refusal
    rwa [same, ← answered] at full

/-- The table that is asked for counts, or else that of the file that the environment
names, which has no other part in the output. -/
theorem respond_agrees_with_clean_members :
    let environment? := some "conf.toml".toList
    let files := Files.ofPaths
      [("conf.toml".toList, Text.bytes "table = \"packages\"\necho = false\n".toList)] []
    read ["members".toList] environment? =
        .pass ⟨some "members".toList, some "conf.toml".toList⟩ ∧
      read [] environment? = .pass ⟨none, some "conf.toml".toList⟩ ∧
      (∃ config?, Asks ["members".toList] (some "members".toList) config? ∧
        some "conf.toml".toList = config?.or environment?) ∧
      (∀ around, (respond [] environment? (.ofPaths [] []) around).output = [] ∧
        (around.errors = .unlimited →
          (respond [] environment? (.ofPaths [] []) around).code = 1)) ∧
      ∀ (bytes : List UInt8) (filter? : Option Text) (time : Text) (terminal : Bool),
        let cleaned (table : Text) := clean table (Utf8.decodeLossy bytes)
        let response (arguments : List Text) (device : Device) :=
          respond arguments environment? files
            ⟨filter?, ⟨bytes, none⟩, device, time, .unlimited, terminal⟩
        ((response ["members".toList] .unlimited).code = 0 ∧
          (response ["members".toList] .unlimited).output = (cleaned "members".toList).bytes ∧
          ∀ refusal, (response ["members".toList] (.limited 0 refusal)).code =
            if cleaned "members".toList = [] then 0 else 1) ∧
        (response [] .unlimited).code = 0 ∧
          (response [] .unlimited).output = (cleaned "packages".toList).bytes ∧
          ∀ refusal, (response [] (.limited 0 refusal)).code =
            if cleaned "packages".toList = [] then 0 else 1 := by
  intro environment? files
  have accepted : read ["members".toList] environment? =
      .pass ⟨some "members".toList, some "conf.toml".toList⟩ := by decide +kernel
  have acceptedToo : read [] environment? = .pass ⟨none, some "conf.toml".toList⟩ := rfl
  have missing : Settings.load (.ofPaths [] []) "conf.toml".toList =
      .error (.unread .notFound) := rfl
  have loaded : Settings.load files "conf.toml".toList =
      .ok ⟨"packages".toList, false, false⟩ := rfl
  obtain ⟨asked, _, agrees⟩ := respond_agrees_with_clean accepted files
  obtain ⟨_, _, agreesToo⟩ := respond_agrees_with_clean acceptedToo files
  obtain ⟨_, fails, _⟩ := respond_agrees_with_clean acceptedToo (.ofPaths [] [])
  refine ⟨accepted, acceptedToo, asked, fails _ _ rfl missing, ?_⟩
  intro bytes filter? time terminal
  exact ⟨agrees (some ⟨"packages".toList, false, false⟩) (congrArg some loaded)
      bytes filter? time terminal,
    agreesToo (some ⟨"packages".toList, false, false⟩) (congrArg some loaded)
      bytes filter? time terminal⟩

end CommandLine

end SqlDump
