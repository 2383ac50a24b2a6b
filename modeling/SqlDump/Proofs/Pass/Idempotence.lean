import SqlDump.Proofs.Pass.Cleaning
import SqlDump.Proofs.Rule.Packages

/-!
# Cleaning twice

A pass over what a pass with a built-in rule has written changes nothing: it
gathers the same texts, passes each of them, and leaves nothing over.  Its tally
counts the statements that the first pass did not drop.
-/

namespace SqlDump

namespace Tally

theorem ofTreatments_replicate_passed (count : Nat) :
    ofTreatments (List.replicate count .passed) = ⟨count, 0, count, 0⟩ := by
  rw [ofTreatments_eq_count]
  simp [List.count_replicate]

end Tally

namespace Cleaner

variable {cleaner : Cleaner}

theorem revised_add_passed_summary (cleaner : Cleaner) (statements : List Text)
    (rest : Gatherer) :
    (cleaner.summary statements rest).tally.revised +
        (cleaner.summary statements rest).tally.passed =
      (statements.filterMap cleaner.left?).length := by
  rw [summary, Tally.ofTreatments_eq_count]
  induction statements with
  | nil => rfl
  | cons statement statements ih =>
      simp only [List.map_cons, List.count_cons, List.filterMap_cons, left?] at ih ⊢
      cases (cleaner.process statement).1 with
      | revised text =>
          simp [Outcome.treatment, Outcome.text?, ← ih]
          omega
      | passed text =>
          simp [Outcome.treatment, Outcome.text?, ← ih]
          omega
      | dropped => simp [Outcome.treatment, Outcome.text?, ← ih]

theorem left?_of_passed {statement : Text}
    (passed : (cleaner.process statement).1 = .passed statement) :
    cleaner.left? statement = some statement := by
  rw [left?, passed]
  rfl

theorem filterMap_left?_of_passed {texts : List Text}
    (passed : ∀ text ∈ texts, (cleaner.process text).1 = .passed text) :
    texts.filterMap cleaner.left? = texts := by
  induction texts with
  | nil => rfl
  | cons text texts ih =>
      rw [List.filterMap_cons_some (left?_of_passed (passed text List.mem_cons_self)),
        ih fun other member => passed other (List.mem_cons_of_mem text member)]

theorem summary_of_passed {texts : List Text}
    (passed : ∀ text ∈ texts, (cleaner.process text).1 = .passed text) :
    cleaner.summary texts Gatherer.empty = ⟨⟨texts.length, 0, texts.length, 0⟩, false⟩ := by
  have treatments : (texts.map fun text => (cleaner.process text).1.treatment) =
      List.replicate texts.length .passed := by
    rw [List.eq_replicate_iff]
    refine ⟨List.length_map _, fun treatment member => ?_⟩
    obtain ⟨text, inside, rfl⟩ := List.mem_map.mp member
    rw [passed text inside]
    rfl
  rw [summary, treatments, Tally.ofTreatments_replicate_passed]
  rfl

/-- What a pass with a settling rule has written is left as it is by the next pass. -/
theorem cleaned_cleaned (settling : cleaner.IsSettling) (bytes : List UInt8) :
    cleaner.cleaned ⟨(cleaner.cleaned ⟨bytes, none⟩).bytes, none⟩ =
      cleaner.cleaned ⟨bytes, none⟩ := by
  rw [cleaned_bytes_cleaned settling,
    filterMap_left?_of_passed fun _ member => (passed_of_mem_remaining settling bytes member).2]
  rfl

/-- A pass with a built-in rule, run again on what it has written, succeeds and
writes the same.  It passes each statement that the first pass did not drop,
and leaves no text over. -/
theorem run_run (settings : Settings) (colorAllowed : Bool) (bytes : List UInt8)
    (outputCapacity diagnosticsCapacity laterOutputCapacity laterDiagnosticsCapacity : Nat) :
    let cleaner : Cleaner := { ofSettings settings with colorAllowed := colorAllowed }
    let first := cleaner.run ⟨bytes, none⟩ (.faultless outputCapacity diagnosticsCapacity)
    let out := first.channels.output.device.taken
    let second := cleaner.run ⟨out, none⟩ (.faultless laterOutputCapacity laterDiagnosticsCapacity)
    (∃ summary, first.result = .ok summary ∧
      second.result =
        .ok ⟨⟨summary.tally.revised + summary.tally.passed, 0,
          summary.tally.revised + summary.tally.passed, 0⟩, false⟩ ∧
      second.channels.output.device.taken = out) ∧
    ∀ dump, clean settings.table (clean settings.table dump) = clean settings.table dump := by
  intro cleaner first out second
  have settling : cleaner.IsSettling := isSettling_ofSettings settings colorAllowed
  constructor
  · obtain ⟨firstEnded, firstTaken⟩ :=
      run_faultless cleaner bytes outputCapacity diagnosticsCapacity
    obtain ⟨secondEnded, secondTaken⟩ :=
      run_faultless cleaner out laterOutputCapacity laterDiagnosticsCapacity
    have written : out = Text.bytes (cleaner.cleaned ⟨bytes, none⟩) := firstTaken
    have gathered := statements_cleaned settling bytes
    rw [Text.lines, ← written] at gathered
    refine ⟨_, firstEnded, ?_, ?_⟩
    · rw [gathered, summary_of_passed fun _ member =>
        (passed_of_mem_remaining settling bytes member).2] at secondEnded
      rw [revised_add_passed_summary]
      exact secondEnded
    · rw [secondTaken, written, cleaned_cleaned settling]
  · intro dump
    rw [clean_eq_cleaned, clean_eq_cleaned]
    exact cleaned_cleaned (isSettling_ofSettings _ true) dump.bytes

end Cleaner

end SqlDump
