import SqlDump.Proofs.Gatherer.Calmer
import SqlDump.Proofs.Gatherer.Statement
import SqlDump.Proofs.Insert.Lead
import SqlDump.Proofs.ValueList.Writing

/-!
# Rewritten inserts

An insert that is written anew, with a lead of the same effect and a calmer
value list, is gathered as one statement whenever the insert before was.  Values
that are read and written again make such a list, and so do calmer values.
-/

namespace SqlDump

namespace ValueList

open Watch (Calmer)

theorem separator_quiet : (", ".toList).all Watch.isQuiet = true := by decide

/-- Values that were read are calmer when they are written again. -/
theorem calmer_write_of_read {text : Text} {values : List Value}
    (found : read text = .ok values) : Calmer (write values) text := by
  rw [read_eq_ok_iff, Scan.read?] at found
  split at found
  · cases found
    exact Watch.calmer_of_quiet rfl text
  · split at found
    · have same := Option.some.inj found
      have each : List.Forall₂ Calmer (values.map Value.text) (Scan.clear.pieces text) := by
        rw [← same, List.map_map, List.forall₂_map_left_iff, List.forall₂_same]
        intro piece _
        rw [Function.comp_apply, Scan.text_valueOfPiece]
        exact Watch.calmer_trim piece
      have joined := Watch.calmer_intercalate separator_quiet (by decide)
        (by decide : [','].all Watch.isQuiet = true) (by decide) each
      rwa [Scan.intercalate_pieces] at joined
    · cases found

theorem calmer_write {values others : List Value}
    (each : List.Forall₂ (fun value other => Calmer value.text other.text) values others) :
    Calmer (write values) (write others) := by
  have texts : List.Forall₂ Calmer (values.map Value.text) (others.map Value.text) := by
    rw [List.forall₂_map_left_iff, List.forall₂_map_right_iff]
    exact each
  exact Watch.calmer_intercalate separator_quiet (by decide) separator_quiet (by decide) texts

end ValueList

namespace Insert

theorem trimEnd_write (lead values : Text) : (write lead values).trimEnd = write lead values := by
  have ended : write lead values = (lead ++ opener ++ values ++ [')']) ++ [';'] := by
    rw [List.append_assoc]
    rfl
  rw [ended]
  exact Text.trimEnd_concat (by decide) (lead ++ opener ++ values ++ [')'])

theorem run_terminator (watch : Watch) : watch.run terminator = some ⟨false, true⟩ := by
  cases watch with
  | mk closing ended => cases closing <;> cases ended <;> rfl

theorem run_opener (watch : Watch) : watch.run opener = some ⟨false, watch.ended⟩ :=
  Watch.run_of_all_isQuiet (by decide) opener_ne_nil watch

/-- An insert stays a statement when it is rewritten with calmer values. -/
theorem isStatement_write {lead values next others : Text}
    (complete : IsStatement (write lead values))
    (same : ∀ watch : Watch, watch.run next = watch.run lead)
    (calmer : Watch.Calmer others values) : IsStatement (write next others) := by
  obtain ⟨last, ran, _⟩ := complete.watched
  rw [write, List.append_assoc, List.append_assoc] at ran
  obtain ⟨middle, ranLead, ranRest⟩ := Watch.exists_run_of_run_append ran
  rw [Watch.run_append, run_opener, Option.bind_some] at ranRest
  obtain ⟨behind, ranValues, _⟩ := Watch.exists_run_of_run_append ranRest
  obtain ⟨less, ranOthers, _⟩ := calmer middle.ended behind ranValues
  refine ⟨trimEnd_write next others, ⟨false, true⟩, ?_, rfl⟩
  rw [write, List.append_assoc, List.append_assoc, Watch.run_append, same, ranLead,
    Option.bind_some, Watch.run_append, run_opener, Option.bind_some, Watch.run_append, ranOthers,
    Option.bind_some, run_terminator]

end Insert

end SqlDump
