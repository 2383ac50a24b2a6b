import SqlDump.Gatherer
import SqlDump.Text.Blank

/-!
# Watching for the terminator

A watch goes over a text and stops at a line break that stands behind a
terminator.  A text that is watched to its end and holds a terminator is gathered
as one statement: the terminator is met on its last line and not before.

A watch that has seen less goes at least as far, which is what lets texts be
changed piece by piece.
-/

namespace SqlDump

/-- What has been seen of a terminator: whether the last character may start
one, and whether there was one. -/
structure Watch where
  closing : Bool
  ended : Bool
  deriving DecidableEq, Repr

namespace Watch

def start : Watch :=
  ⟨false, false⟩

/-- Go over a character, unless it is a line break behind a terminator. -/
def step (watch : Watch) (c : Char) : Option Watch :=
  if watch.ended && c = '\n' then none
  else some ⟨c = ')', watch.ended || (watch.closing && c = ';')⟩

def run (watch : Watch) : Text → Option Watch
  | [] => some watch
  | c :: rest =>
      match watch.step c with
      | none => none
      | some next => run next rest

theorem run_append (watch : Watch) (first second : Text) :
    watch.run (first ++ second) = (watch.run first).bind fun next => next.run second := by
  induction first generalizing watch with
  | nil => rfl
  | cons c rest ih =>
      simp only [List.cons_append, run]
      cases watch.step c with
      | none => rfl
      | some next => exact ih next

theorem exists_run_of_run_append {watch last : Watch} {first second : Text}
    (ran : watch.run (first ++ second) = some last) :
    ∃ next, watch.run first = some next ∧ next.run second = some last := by
  rw [run_append] at ran
  exact Option.bind_eq_some_iff.mp ran

/-- Only a watch that has seen no terminator goes over a line break. -/
theorem run_newline_cons {watch last : Watch} {rest : Text}
    (ran : watch.run ('\n' :: rest) = some last) :
    watch.ended = false ∧ run ⟨false, false⟩ rest = some last := by
  rw [run, step] at ran
  cases ended : watch.ended with
  | true =>
      rw [ended] at ran
      cases ran
  | false =>
      rw [ended] at ran
      refine ⟨rfl, ?_⟩
      simpa using ran

/-! ## Watches that have seen less -/

/-- The first watch has seen nothing that the second has not. -/
def Le (first second : Watch) : Prop :=
  (first.closing = true → second.closing = true) ∧ (first.ended = true → second.ended = true)

theorem step_mono {first second next : Watch} {c : Char} (le : first.Le second)
    (stepped : second.step c = some next) : ∃ less, first.step c = some less ∧ less.Le next := by
  rw [step] at stepped
  split at stepped
  · cases stepped
  · next allowed =>
      have same := Option.some.inj stepped
      subst same
      refine ⟨⟨c = ')', first.ended || (first.closing && c = ';')⟩, ?_, id, ?_⟩
      · rw [step, if_neg]
        intro stopped
        rw [Bool.and_eq_true] at stopped allowed
        exact allowed ⟨le.2 stopped.1, stopped.2⟩
      · simp only [Bool.or_eq_true, Bool.and_eq_true]
        rintro (ended | ⟨closing, semicolon⟩)
        · exact Or.inl (le.2 ended)
        · exact Or.inr ⟨le.1 closing, semicolon⟩

/-- A watch that has seen less goes at least as far and sees no more. -/
theorem run_mono {first second last : Watch} {text : Text} (le : first.Le second)
    (ran : second.run text = some last) : ∃ less, first.run text = some less ∧ less.Le last := by
  induction text generalizing first second with
  | nil =>
      have same : second = last := Option.some.inj ran
      exact ⟨first, rfl, same ▸ le⟩
  | cons c rest ih =>
      rw [run] at ran
      cases stepped : second.step c with
      | none => rw [stepped] at ran; cases ran
      | some next =>
          rw [stepped] at ran
          obtain ⟨less, lessStepped, lessLe⟩ := step_mono le stepped
          rw [run, lessStepped]
          exact ih lessLe ran

theorem ended_mono {watch last : Watch} {text : Text} (ran : watch.run text = some last)
    (ended : watch.ended = true) : last.ended = true := by
  induction text generalizing watch with
  | nil =>
      have same : watch = last := Option.some.inj ran
      exact same ▸ ended
  | cons c rest ih =>
      rw [run] at ran
      cases stepped : watch.step c with
      | none => rw [stepped] at ran; cases ran
      | some next =>
          rw [stepped] at ran
          apply ih ran
          rw [step] at stepped
          split at stepped
          · cases stepped
          · rw [← Option.some.inj stepped, ended]
            rfl

/-! ## Texts without effect -/

/-- Whether a character neither belongs to a terminator nor breaks a line. -/
def isQuiet (c : Char) : Bool :=
  c ≠ '\n' && c ≠ ')' && c ≠ ';'

theorem step_of_isQuiet {c : Char} (quiet : isQuiet c = true) (watch : Watch) :
    watch.step c = some ⟨false, watch.ended⟩ := by
  simp only [isQuiet, ne_eq, decide_not, Bool.and_eq_true, Bool.not_eq_true',
    decide_eq_false_iff_not] at quiet
  simp [step, quiet]

/-- A quiet text only makes a last closing parenthesis be forgotten. -/
theorem run_of_all_isQuiet {text : Text} (quiet : text.all isQuiet = true) (proper : text ≠ [])
    (watch : Watch) : watch.run text = some ⟨false, watch.ended⟩ := by
  induction text generalizing watch with
  | nil => exact absurd rfl proper
  | cons c rest ih =>
      rw [List.all_cons, Bool.and_eq_true] at quiet
      rw [run, step_of_isQuiet quiet.1]
      cases rest with
      | nil => rfl
      | cons d rest => exact ih quiet.2 (List.cons_ne_nil d rest) _

/-- Of a quiet text in the middle it only matters that there is one. -/
theorem run_append_quiet {middle : Text} (quiet : middle.all isQuiet = true)
    (proper : middle ≠ []) (watch : Watch) (before after : Text) :
    watch.run (before ++ middle ++ after) =
      (watch.run before).bind fun next => run ⟨false, next.ended⟩ after := by
  rw [List.append_assoc, run_append]
  cases watch.run before with
  | none => rfl
  | some next =>
      rw [Option.bind_some, Option.bind_some, run_append, run_of_all_isQuiet quiet proper,
        Option.bind_some]

/-- Blanks that are gone over change nothing, unless a parenthesis is forgotten. -/
theorem run_of_isAllBlank {blanks : Text} (blank : blanks.isAllBlank = true)
    {watch last : Watch} (ran : watch.run blanks = some last) :
    last.ended = watch.ended ∧ (watch.closing = false → last = watch) := by
  induction blanks generalizing watch with
  | nil =>
      have same : watch = last := Option.some.inj ran
      exact ⟨by rw [same], fun _ => same.symm⟩
  | cons c rest ih =>
      rw [Text.isAllBlank, List.all_cons, Bool.and_eq_true] at blank
      have notClose : c ≠ ')' := by rintro rfl; cases blank.1
      have notSemicolon : c ≠ ';' := by rintro rfl; cases blank.1
      rw [run, step] at ran
      split at ran
      · cases ran
      · next next stepped =>
          split at stepped
          · cases stepped
          · have same := Option.some.inj stepped
            simp only [notClose, notSemicolon, decide_false, Bool.and_false, Bool.or_false] at same
            subst same
            obtain ⟨ended, kept⟩ := ih blank.2 ran
            refine ⟨ended, fun closing => ?_⟩
            rw [kept rfl, ← closing]

theorem exists_run_of_notMem {text : Text} (unbroken : '\n' ∉ text) (watch : Watch) :
    ∃ last, watch.run text = some last := by
  induction text generalizing watch with
  | nil => exact ⟨watch, rfl⟩
  | cons c rest ih =>
      rw [List.mem_cons, not_or] at unbroken
      have stepped : watch.step c =
          some ⟨c = ')', watch.ended || (watch.closing && c = ';')⟩ := by
        simp [step, Ne.symm unbroken.1]
      obtain ⟨last, ran⟩ := ih unbroken.2 ⟨c = ')', watch.ended || (watch.closing && c = ';')⟩
      exact ⟨last, by rw [run, stepped]; exact ran⟩

/-! ## Terminators seen -/

theorem contains_terminator_cons (c : Char) (text : Text) :
    Text.contains Insert.terminator (c :: text) =
      ((c = ')' && text.head? = some ';') || Text.contains Insert.terminator text) := by
  have shape : Insert.terminator = [')', ';'] := rfl
  rw [shape, Text.contains, Text.split?]
  by_cases close : c = ')'
  · subst close
    cases text with
    | nil => rfl
    | cons d text =>
        by_cases semicolon : d = ';'
        · subst semicolon
          simp [Text.after?]
        · simp [Text.after?, semicolon, Ne.symm semicolon, Text.contains]
  · simp [Text.after?, close, Ne.symm close, Text.contains]

/-- A watch has seen a terminator exactly if the text holds one. -/
theorem ended_of_run {watch last : Watch} {text : Text} (ran : watch.run text = some last) :
    last.ended = (watch.ended ||
      Text.contains Insert.terminator (if watch.closing then ')' :: text else text)) := by
  induction text generalizing watch with
  | nil =>
      have same : watch = last := Option.some.inj ran
      have absent : Text.contains Insert.terminator [] = false := rfl
      subst same
      cases watch.closing <;> simp [contains_terminator_cons, absent]
  | cons c rest ih =>
      rw [run, step] at ran
      split at ran
      · cases ran
      · next next stepped =>
          split at stepped
          · cases stepped
          · have same := Option.some.inj stepped
            have later := ih ran
            subst same
            rw [later]
            by_cases close : c = ')'
            · subst close
              cases watch.closing <;> simp [contains_terminator_cons]
            · by_cases semicolon : c = ';'
              · subst semicolon
                cases watch.closing <;> simp [contains_terminator_cons]
              · cases watch.closing <;> simp [contains_terminator_cons, close, semicolon]

theorem ended_of_run_start {last : Watch} {text : Text} (ran : start.run text = some last) :
    last.ended = Text.contains Insert.terminator text :=
  ended_of_run ran

end Watch

end SqlDump
