import SqlDump.CommandLine.Arguments

/-!
# Reading a command line

The reader of arguments takes them one by one and refuses a second table or file.
It accepts just the command lines that ask for a pass, and for the pass that they
ask for.
-/

namespace SqlDump

namespace CommandLine

/-- At most one of two wishes is there, and it counts. -/
def Joins (first second whole : Option Text) : Prop :=
  (first = none ∧ second = whole) ∨ (second = none ∧ first = whole)

theorem joins_none_right_iff {first whole : Option Text} :
    Joins first none whole ↔ first = whole := by
  constructor
  · rintro (⟨rfl, same⟩ | ⟨_, same⟩)
    · exact same
    · exact same
  · intro same
    exact Or.inr ⟨rfl, same⟩

theorem joins_none_left_iff {second whole : Option Text} :
    Joins none second whole ↔ second = whole := by
  constructor
  · rintro (⟨_, same⟩ | ⟨rfl, same⟩)
    · exact same
    · exact same
  · intro same
    exact Or.inl ⟨rfl, same⟩

/-- A wish that comes first leaves no place for another one. -/
theorem joins_some_iff {first whole : Option Text} {wish : Text} :
    Joins first (some wish) whole ↔ first = none ∧ some wish = whole := by
  constructor
  · rintro (joined | ⟨impossible, _⟩)
    · exact joined
    · cases impossible
  · exact Or.inl

theorem joins_some_left_iff {second whole : Option Text} {wish : Text} :
    Joins (some wish) second whole ↔ second = none ∧ some wish = whole := by
  constructor
  · rintro (⟨impossible, _⟩ | joined)
    · cases impossible
    · exact joined
  · exact Or.inr

namespace Invocation

variable {invocation next : Invocation}

theorem withTable_eq_some_iff {table : Text} :
    invocation.withTable table = some next ↔
      invocation.table? = none ∧ ⟨some table, invocation.config?⟩ = next := by
  rw [withTable]
  cases invocation.table? with
  | none => simp
  | some other => simp

theorem withConfig_eq_some_iff {path : Text} :
    invocation.withConfig path = some next ↔
      invocation.config? = none ∧ path ≠ [] ∧ ⟨invocation.table?, some path⟩ = next := by
  rw [withConfig]
  cases invocation.config? with
  | none => by_cases empty : path = [] <;> simp [empty]
  | some other => simp

end Invocation

variable {invocation asked : Invocation} {arguments : List Text}

theorem attachedConfig?_eq_some_iff {argument path : Text} :
    attachedConfig? argument = some path ↔ argument = "--config=".toList ++ path := by
  simp only [attachedConfig?, List.isPrefixOf_iff_prefix]
  constructor
  · intro found
    split at found
    · next initial =>
        obtain ⟨rest, rfl⟩ := initial
        rw [Option.some.injEq, List.drop_left] at found
        rw [found]
    · cases found
  · rintro rfl
    rw [if_pos (List.prefix_append _ _), List.drop_left]

theorem readFrom_plain {name : Text} (plain : isOption name = false)
    (invocation : Invocation) (arguments : List Text) :
    readFrom invocation (name :: arguments) =
      (invocation.withTable name).elim .misused (readFrom · arguments) := by
  have notDashes : name ≠ "--".toList := by rintro rfl; cases plain
  have notConfig : name ≠ "--config".toList := by rintro rfl; cases plain
  have notAttached : attachedConfig? name = none := by
    rw [Option.eq_none_iff_forall_ne_some]
    intro path found
    rw [attachedConfig?_eq_some_iff.mp found] at plain
    cases plain
  rw [readFrom.eq_def]
  simp only [notDashes, notConfig, notAttached, plain, if_false, Bool.false_eq_true]
  cases invocation.withTable name <;> rfl

theorem readFrom_config {path : Text} (plain : isOption path = false)
    (invocation : Invocation) (arguments : List Text) :
    readFrom invocation ("--config".toList :: path :: arguments) =
      (invocation.withConfig path).elim .misused (readFrom · arguments) := by
  have notDashes : "--config".toList ≠ "--".toList := by decide
  rw [readFrom.eq_def]
  simp only [notDashes, plain, if_true, if_false, Bool.false_eq_true]
  cases invocation.withConfig path <;> rfl

theorem readFrom_attached (path : Text) (invocation : Invocation) (arguments : List Text) :
    readFrom invocation (("--config=".toList ++ path) :: arguments) =
      (invocation.withConfig path).elim .misused (readFrom · arguments) := by
  have found : attachedConfig? ("--config=".toList ++ path) = some path :=
    attachedConfig?_eq_some_iff.mpr rfl
  have notDashes : "--config=".toList ++ path ≠ "--".toList := nofun
  have notConfig : "--config=".toList ++ path ≠ "--config".toList := nofun
  rw [readFrom.eq_def]
  dsimp only
  rw [if_neg notDashes, if_neg notConfig, found]
  dsimp only
  cases invocation.withConfig path <;> rfl

theorem readFrom_dashes (invocation : Invocation) (arguments : List Text) :
    readFrom invocation ("--".toList :: arguments) = readTables invocation arguments := by
  unfold readFrom
  exact if_pos rfl

theorem readFlag_ne_pass (argument : Text) (asked : Invocation) :
    readFlag argument ≠ .pass asked := by
  intro impossible
  unfold readFlag at impossible
  by_cases help : argument = "--help".toList
  · rw [if_pos help] at impossible
    cases impossible
  · rw [if_neg help] at impossible
    by_cases version : argument = "--version".toList
    · rw [if_pos version] at impossible
      cases impossible
    · rw [if_neg version] at impossible
      split at impossible <;> cases impossible

/-- Behind `--` stands at most one table, and none if there is one already. -/
theorem readTables_eq_pass_iff :
    readTables invocation arguments = .pass asked ↔
      arguments.length ≤ 1 ∧ Joins invocation.table? arguments.head? asked.table? ∧
        invocation.config? = asked.config? := by
  obtain ⟨table?, config?⟩ := invocation
  obtain ⟨askedTable?, askedConfig?⟩ := asked
  match arguments with
  | [] => simp [readTables, joins_none_right_iff]
  | [name] => cases table? <;> simp [readTables, Invocation.withTable, joins_some_iff]
  | name :: other :: names => cases table? <;> simp [readTables, Invocation.withTable]

theorem asks_of_readFrom (accepted : readFrom invocation arguments = .pass asked) :
    ∃ table? config?, Asks arguments table? config? ∧
      Joins invocation.table? table? asked.table? ∧
      Joins invocation.config? config? asked.config? := by
  fun_induction readFrom invocation arguments with
  | case1 invocation =>
      cases accepted
      exact ⟨none, none, .nothing, joins_none_right_iff.mpr rfl, joins_none_right_iff.mpr rfl⟩
  | case2 invocation arguments =>
      obtain ⟨single, tables, configs⟩ := readTables_eq_pass_iff.mp accepted
      exact ⟨_, none, .tables single, tables, joins_none_right_iff.mpr configs⟩
  | case3 => cases accepted
  | case4 => cases accepted
  | case5 => cases accepted
  | case6 invocation path arguments plain next added _ ih =>
      obtain ⟨free, named, rfl⟩ := Invocation.withConfig_eq_some_iff.mp added
      obtain ⟨table?, config?, asks, tables, configs⟩ := ih accepted
      obtain ⟨rfl, wished⟩ := joins_some_left_iff.mp configs
      exact ⟨table?, some path, .config (Bool.eq_false_iff.mpr plain) named asks, tables,
        joins_some_iff.mpr ⟨free, wished⟩⟩
  | case7 => cases accepted
  | case8 invocation argument arguments _ _ path attached next added ih =>
      obtain ⟨free, named, rfl⟩ := Invocation.withConfig_eq_some_iff.mp added
      obtain ⟨table?, config?, asks, tables, configs⟩ := ih accepted
      obtain ⟨rfl, wished⟩ := joins_some_left_iff.mp configs
      rw [attachedConfig?_eq_some_iff.mp attached]
      exact ⟨table?, some path, .attached named asks, tables, joins_some_iff.mpr ⟨free, wished⟩⟩
  | case9 => exact absurd accepted (readFlag_ne_pass _ _)
  | case10 => cases accepted
  | case11 invocation name arguments _ _ _ plain next added ih =>
      obtain ⟨free, rfl⟩ := Invocation.withTable_eq_some_iff.mp added
      obtain ⟨table?, config?, asks, tables, configs⟩ := ih accepted
      obtain ⟨rfl, wished⟩ := joins_some_left_iff.mp tables
      exact ⟨some name, config?, .table (Bool.eq_false_iff.mpr plain) asks,
        joins_some_iff.mpr ⟨free, wished⟩, configs⟩

theorem readFrom_of_asks {table? config? : Option Text} (asks : Asks arguments table? config?)
    (tables : Joins invocation.table? table? asked.table?)
    (configs : Joins invocation.config? config? asked.config?) :
    readFrom invocation arguments = .pass asked := by
  induction asks generalizing invocation with
  | nothing =>
      have same : invocation = asked := by
        cases invocation
        cases asked
        rw [Invocation.mk.injEq]
        exact ⟨joins_none_right_iff.mp tables, joins_none_right_iff.mp configs⟩
      rw [readFrom, same]
  | table plain _ ih =>
      obtain ⟨free, tables⟩ := joins_some_iff.mp tables
      rw [readFrom_plain plain, Invocation.withTable_eq_some_iff.mpr ⟨free, rfl⟩]
      exact ih (joins_none_right_iff.mpr tables) configs
  | config plain named _ ih =>
      obtain ⟨free, configs⟩ := joins_some_iff.mp configs
      rw [readFrom_config plain, Invocation.withConfig_eq_some_iff.mpr ⟨free, named, rfl⟩]
      exact ih tables (joins_none_right_iff.mpr configs)
  | attached named _ ih =>
      obtain ⟨free, configs⟩ := joins_some_iff.mp configs
      rw [readFrom_attached, Invocation.withConfig_eq_some_iff.mpr ⟨free, named, rfl⟩]
      exact ih tables (joins_none_right_iff.mpr configs)
  | tables single =>
      rw [readFrom_dashes]
      exact readTables_eq_pass_iff.mpr ⟨single, tables, joins_none_right_iff.mp configs⟩

/-- The reader accepts just the arguments that ask for a pass. -/
theorem readFrom_empty_eq_pass_iff :
    readFrom .empty arguments = .pass asked ↔ Asks arguments asked.table? asked.config? := by
  constructor
  · intro accepted
    obtain ⟨table?, config?, asks, tables, configs⟩ := asks_of_readFrom accepted
    rwa [joins_none_left_iff.mp tables, joins_none_left_iff.mp configs] at asks
  · intro asks
    exact readFrom_of_asks asks (joins_none_left_iff.mpr rfl) (joins_none_left_iff.mpr rfl)

/-- The file that the environment names counts if the arguments name none. -/
theorem asks_of_read {environment? : Option Text}
    (accepted : read arguments environment? = .pass asked) :
    ∃ config?, Asks arguments asked.table? config? ∧
      asked.config? = config?.or environment? := by
  unfold read at accepted
  split at accepted
  · next table? path unnamed =>
      split at accepted
      · cases accepted
      · cases accepted
        exact ⟨none, readFrom_empty_eq_pass_iff.mp unnamed, rfl⟩
  · next environment? _ _ named =>
      refine ⟨asked.config?, readFrom_empty_eq_pass_iff.mp accepted, ?_⟩
      obtain ⟨table?, config?⟩ := asked
      cases config? with
      | some path => rfl
      | none =>
          cases environment? with
          | none => rfl
          | some path => exact absurd rfl (named table? path accepted)

end CommandLine

end SqlDump
