import SqlDump.ValueList.Scan
import SqlDump.Proofs.Text.Trimming

/-!
# Undivided texts

A text is undivided from a scan on if no comma is met in it with nothing open
and no group is closed that was not open.  Such a text can be passed over as
a whole: it moves the scan on, and it stays together in one piece.  Inside a
group every text that the scan gets through is undivided.
-/

namespace SqlDump

namespace Scan

/-- What is open behind a text, if the text is undivided. -/
def undivided? (scan : Scan) : Text → Option Scan
  | [] => some scan
  | c :: rest =>
      if c = ',' ∧ scan = clear then none
      else
        match scan.step c with
        | none => none
        | some next => undivided? next rest

theorem undivided?_cons {scan next : Scan} {c : Char} (apart : ¬ (c = ',' ∧ scan = clear))
    (stepped : scan.step c = some next) (rest : Text) :
    scan.undivided? (c :: rest) = next.undivided? rest := by
  rw [undivided?, if_neg apart, stepped]

theorem exists_step_of_undivided? {scan last : Scan} {c : Char} {rest : Text}
    (passed : scan.undivided? (c :: rest) = some last) :
    ¬ (c = ',' ∧ scan = clear) ∧
      ∃ next, scan.step c = some next ∧ next.undivided? rest = some last := by
  rw [undivided?] at passed
  split at passed
  · cases passed
  · next apart =>
      cases stepped : scan.step c with
      | none => rw [stepped] at passed; cases passed
      | some next =>
          rw [stepped] at passed
          exact ⟨apart, next, rfl, passed⟩

theorem undivided?_append (scan : Scan) (first second : Text) :
    scan.undivided? (first ++ second) =
      (scan.undivided? first).bind fun next => next.undivided? second := by
  induction first generalizing scan with
  | nil => rfl
  | cons c rest ih =>
      simp only [List.cons_append, undivided?]
      split
      · rfl
      · cases scan.step c with
        | none => rfl
        | some next => exact ih next

theorem run_of_undivided? {scan next : Scan} {text : Text}
    (passed : scan.undivided? text = some next) : scan.run text = some next := by
  induction text generalizing scan with
  | nil => exact passed
  | cons c rest ih =>
      obtain ⟨_, middle, stepped, later⟩ := exists_step_of_undivided? passed
      rw [run, stepped]
      exact ih later

theorem run_append_of_undivided? {scan next : Scan} {first : Text}
    (passed : scan.undivided? first = some next) (second : Text) :
    scan.run (first ++ second) = next.run second := by
  rw [run_append, run_of_undivided? passed, Option.bind_some]

/-- An undivided text joins the first piece of what follows it. -/
theorem pieces_append_of_undivided? {scan next : Scan} {first second piece : Text}
    {others : List Text} (passed : scan.undivided? first = some next)
    (divided : next.pieces second = piece :: others) :
    scan.pieces (first ++ second) = (first ++ piece) :: others := by
  induction first generalizing scan with
  | nil =>
      have same : scan = next := Option.some.inj passed
      rw [same, List.nil_append, List.nil_append, divided]
  | cons c rest ih =>
      obtain ⟨apart, middle, stepped, later⟩ := exists_step_of_undivided? passed
      rw [List.cons_append, pieces, if_neg apart, stepped, Option.getD_some, ih later]
      rfl

theorem pieces_of_undivided? {scan next : Scan} {text : Text}
    (passed : scan.undivided? text = some next) : scan.pieces text = [text] := by
  have joined := @pieces_append_of_undivided? scan next text [] [] [] passed rfl
  rwa [List.append_nil] at joined

/-- A comma behind an undivided text that closes all it opens divides. -/
theorem pieces_append_comma {scan : Scan} {first : Text}
    (passed : scan.undivided? first = some clear) (second : Text) :
    scan.pieces (first ++ ',' :: second) = first :: clear.pieces second := by
  have divided : clear.pieces (',' :: second) = [] :: clear.pieces second := by
    rw [pieces, if_pos ⟨rfl, rfl⟩]
  rw [pieces_append_of_undivided? passed divided, List.append_nil]

theorem undivided?_of_pieces {scan next : Scan} {text : Text}
    (ran : scan.run text = some next) (whole : scan.pieces text = [text]) :
    scan.undivided? text = some next := by
  induction text generalizing scan with
  | nil => exact ran
  | cons c rest ih =>
      rw [pieces] at whole
      split at whole
      · cases whole
      · next apart =>
          rw [run] at ran
          cases stepped : scan.step c with
          | none => rw [stepped] at ran; cases ran
          | some middle =>
              rw [stepped] at ran whole
              rw [undivided?_cons apart stepped]
              rw [Option.getD_some] at whole
              apply ih ran
              cases parts : middle.pieces rest with
              | nil => exact absurd parts (pieces_ne_nil middle rest)
              | cons piece others =>
                  rw [parts] at whole
                  simp only [List.cons.injEq, true_and] at whole
                  rw [whole.1, whole.2]

theorem step_of_isBlank {c : Char} (blank : Text.isBlank c = true) (scan : Scan) :
    scan.step c = some scan := by
  have notQuote : c ≠ '\'' := by rintro rfl; cases blank
  have notOpen : c ≠ '(' := by rintro rfl; cases blank
  have notClose : c ≠ ')' := by rintro rfl; cases blank
  simp [step, notQuote, notOpen, notClose]

theorem undivided?_of_isAllBlank {blanks : Text} (blank : blanks.isAllBlank = true)
    (scan : Scan) : scan.undivided? blanks = some scan := by
  induction blanks with
  | nil => rfl
  | cons c rest ih =>
      rw [Text.isAllBlank, List.all_cons, Bool.and_eq_true] at blank
      have apart : ¬ (c = ',' ∧ scan = clear) := by
        rintro ⟨rfl, _⟩
        cases blank.1
      rw [undivided?_cons apart (step_of_isBlank blank.1 scan)]
      exact ih blank.2

theorem undivided?_trim {text : Text} (passed : clear.undivided? text = some clear) :
    clear.undivided? text.trim = some clear := by
  obtain ⟨front, back, frontBlank, backBlank, joined⟩ := Text.exists_blanks_trim text
  rw [joined, undivided?_append, undivided?_append,
    undivided?_of_isAllBlank frontBlank, Option.bind_some] at passed
  cases core : clear.undivided? text.trim with
  | none => rw [core] at passed; cases passed
  | some next =>
      rw [core, Option.bind_some, undivided?_of_isAllBlank backBlank] at passed
      exact passed

/-- The scan with more groups open around everything. -/
def deeper (scan : Scan) (groups : Nat) : Scan :=
  { scan with depth := scan.depth + groups }

theorem deeper_one_ne_clear (scan : Scan) : scan.deeper 1 ≠ clear := by
  intro same
  cases congrArg Scan.depth same

theorem step_deeper {scan next : Scan} {c : Char} (stepped : scan.step c = some next)
    (groups : Nat) : (scan.deeper groups).step c = some (next.deeper groups) := by
  unfold step at stepped ⊢
  by_cases quote : c = '\''
  · rw [if_pos quote] at stepped ⊢
    cases stepped
    rfl
  · rw [if_neg quote] at stepped ⊢
    -- a literal hides the parentheses from both scans alike
    cases literal : scan.inLiteral <;> grind [deeper]

theorem run_deeper {scan last : Scan} {text : Text} (ran : scan.run text = some last)
    (groups : Nat) : (scan.deeper groups).run text = some (last.deeper groups) := by
  induction text generalizing scan with
  | nil =>
      cases ran
      rfl
  | cons c tail ih =>
      rw [run] at ran ⊢
      cases stepped : scan.step c with
      | none => rw [stepped] at ran; cases ran
      | some next =>
          rw [stepped] at ran
          rw [step_deeper stepped groups]
          exact ih ran

/-- With a group around it no comma divides a text. -/
theorem undivided?_deeper_one {scan last : Scan} {text : Text}
    (ran : scan.run text = some last) :
    (scan.deeper 1).undivided? text = some (last.deeper 1) := by
  induction text generalizing scan with
  | nil =>
      cases ran
      rfl
  | cons c tail ih =>
      rw [run] at ran
      cases stepped : scan.step c with
      | none => rw [stepped] at ran; cases ran
      | some next =>
          rw [stepped] at ran
          rw [undivided?_cons (fun divides => scan.deeper_one_ne_clear divides.2)
            (step_deeper stepped 1)]
          exact ih ran

end Scan

end SqlDump
