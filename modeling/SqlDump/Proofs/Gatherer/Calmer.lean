import Mathlib.Data.List.Forall2
import SqlDump.Proofs.Gatherer.Watch
import SqlDump.Proofs.Text.Trimming

/-!
# Calmer texts

A text is calmer than another one if it may stand in its place without any new
way to end a statement.  Trimming makes a text calmer, and so do other changes
of single values; a list of calmer texts is calmer as a whole, also with other
separators.  What is calmer inside a statement leaves it a statement.
-/

namespace SqlDump

namespace Watch

/-- Behind anything but a closing parenthesis, the first text is gone over
wherever the second one is, and shows a terminator only if that one does. -/
def Calmer (first second : Text) : Prop :=
  ∀ (ended : Bool) (last : Watch), run ⟨false, ended⟩ second = some last →
    ∃ less, run ⟨false, ended⟩ first = some less ∧ (less.ended = true → last.ended = true)

theorem Calmer.refl (text : Text) : Calmer text text :=
  fun _ last ran => ⟨last, ran, id⟩

theorem Calmer.trans {first second third : Text} (left : Calmer first second)
    (right : Calmer second third) : Calmer first third := by
  intro ended last ran
  obtain ⟨middle, ranSecond, middleEnded⟩ := right ended last ran
  obtain ⟨less, ranFirst, lessEnded⟩ := left ended middle ranSecond
  exact ⟨less, ranFirst, middleEnded ∘ lessEnded⟩

theorem calmer_of_run {first second : Text}
    (same : ∀ (watch last : Watch), watch.run second = some last → watch.run first = some last) :
    Calmer first second :=
  fun _ last ran => ⟨last, same _ last ran, id⟩

theorem run_quiet {text : Text} (quiet : text.all isQuiet = true) (ended : Bool) :
    run ⟨false, ended⟩ text = some ⟨false, ended⟩ := by
  cases text with
  | nil => rfl
  | cons c rest => exact run_of_all_isQuiet quiet (List.cons_ne_nil c rest) _

theorem calmer_of_quiet {text : Text} (quiet : text.all isQuiet = true) (other : Text) :
    Calmer text other :=
  fun ended _ ran => ⟨⟨false, ended⟩, run_quiet quiet ended, ended_mono ran⟩

theorem Calmer.quiet_append {first second text : Text} (calmer : Calmer first second)
    (quiet : text.all isQuiet = true) : Calmer (text ++ first) second := by
  intro ended last ran
  rw [run_append, run_quiet quiet, Option.bind_some]
  exact calmer ended last ran

theorem Calmer.append_quiet {first second text : Text} (calmer : Calmer first second)
    (quiet : text.all isQuiet = true) (proper : text ≠ []) : Calmer (first ++ text) second := by
  intro ended last ran
  obtain ⟨less, ranFirst, lessEnded⟩ := calmer ended last ran
  refine ⟨⟨false, less.ended⟩, ?_, lessEnded⟩
  rw [run_append, ranFirst, Option.bind_some, run_of_all_isQuiet quiet proper]

/-- Blanks at the ends only help to end a statement. -/
theorem calmer_trim (text : Text) : Calmer text.trim text := by
  intro ended last ran
  obtain ⟨front, back, frontBlank, backBlank, joined⟩ := Text.exists_blanks_trim text
  rw [joined, List.append_assoc] at ran
  obtain ⟨started, ranFront, ranRest⟩ := exists_run_of_run_append ran
  rw [(run_of_isAllBlank frontBlank ranFront).2 rfl] at ranRest
  obtain ⟨less, ranTrim, ranBack⟩ := exists_run_of_run_append ranRest
  refine ⟨less, ranTrim, fun lessEnded => ?_⟩
  rw [(run_of_isAllBlank backBlank ranBack).1, lessEnded]

section Separators

variable {separator other : Text}
variable (quiet : separator.all isQuiet = true) (proper : separator ≠ [])
variable (otherQuiet : other.all isQuiet = true) (otherProper : other ≠ [])

include quiet proper otherQuiet otherProper

/-- Two calmer texts stay calmer with a separator between them. -/
theorem Calmer.join {first second first' second' : Text} (front : Calmer first first')
    (back : Calmer second second') :
    Calmer (first ++ separator ++ second) (first' ++ other ++ second') := by
  intro ended last ran
  rw [List.append_assoc] at ran ⊢
  obtain ⟨next, ranFirst, ranRest⟩ := exists_run_of_run_append ran
  rw [run_append, run_of_all_isQuiet otherQuiet otherProper, Option.bind_some] at ranRest
  obtain ⟨less, ranLess, lessEnded⟩ := front ended next ranFirst
  obtain ⟨middle, ranMiddle, middleEnded⟩ := back next.ended last ranRest
  have le : Watch.Le ⟨false, less.ended⟩ ⟨false, next.ended⟩ := ⟨id, lessEnded⟩
  obtain ⟨least, ranLeast, leastLe⟩ := run_mono le ranMiddle
  refine ⟨least, ?_, middleEnded ∘ leastLe.2⟩
  rw [run_append, ranLess, Option.bind_some, run_append, run_of_all_isQuiet quiet proper,
    Option.bind_some, ranLeast]

theorem calmer_intercalate {texts others : List Text} (calmer : List.Forall₂ Calmer texts others) :
    Calmer (List.intercalate separator texts) (List.intercalate other others) := by
  induction calmer with
  | nil => exact Calmer.refl []
  | @cons text old texts olds head tail ih =>
      cases tail with
      | nil =>
          rw [List.intercalate_singleton, List.intercalate_singleton]
          exact head
      | cons next later =>
          rw [List.intercalate_cons_cons, List.intercalate_cons_cons]
          exact head.join quiet proper otherQuiet otherProper ih

end Separators

end Watch

end SqlDump
