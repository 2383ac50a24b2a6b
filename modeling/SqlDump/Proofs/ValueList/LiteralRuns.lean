import SqlDump.ValueList.Scan

/-!
# Literals and runs of quotes

A text is one whole literal if it stands between two quotes and every longest
run of quotes inside has even length.  Reading greedily to the closing quote,
pairing quotes from the left and counting runs all say the same.
-/

namespace SqlDump

namespace Literal

def RunsEven (text : Text) : Prop :=
  ∀ (before after : Text) (count : Nat),
    text = before ++ List.replicate count '\'' ++ after →
    before.getLast? ≠ some '\'' → after.head? ≠ some '\'' → count % 2 = 0

theorem RunsEven.pair {text : Text} (even : RunsEven text) :
    RunsEven ('\'' :: '\'' :: text) := by
  intro before after count split apartBefore apartAfter
  cases before with
  | nil =>
      match count with
      | 0 =>
          exact absurd (congrArg List.head? split.symm) apartAfter
      | 1 =>
          have rest := (List.cons.inj split).2
          exact absurd (congrArg List.head? rest.symm) apartAfter
      | count + 2 =>
          simp only [List.nil_append, List.replicate_succ, List.cons_append, List.cons.injEq,
            true_and] at split
          have rest := even [] after count split (by simp) apartAfter
          omega
  | cons c before =>
      cases before with
      | nil =>
          have quote := (List.cons.inj split).1
          exact absurd (congrArg some quote.symm) apartBefore
      | cons d before =>
          simp only [List.cons_append, List.cons.injEq] at split
          obtain ⟨_, quote, rest⟩ := split
          refine even before after count rest ?_ apartAfter
          cases before with
          | nil => simp
          | cons e before => simpa using apartBefore

theorem RunsEven.of_pair {text : Text} (even : RunsEven ('\'' :: '\'' :: text)) :
    RunsEven text := by
  intro before after count split apartBefore apartAfter
  cases before with
  | nil =>
      have longer := even [] after (count + 2) (by simp [split, List.replicate_succ]) (by simp)
        apartAfter
      omega
  | cons c before =>
      refine even ('\'' :: '\'' :: c :: before) after count (by simp [split]) ?_ apartAfter
      simpa using apartBefore

theorem RunsEven.cons {c : Char} (other : c ≠ '\'') {text : Text} (even : RunsEven text) :
    RunsEven (c :: text) := by
  intro before after count split apartBefore apartAfter
  cases before with
  | nil =>
      cases count with
      | zero => rfl
      | succ count =>
          simp only [List.nil_append, List.replicate_succ, List.cons_append,
            List.cons.injEq] at split
          exact absurd split.1 other
  | cons d before =>
      simp only [List.cons_append, List.cons.injEq] at split
      refine even before after count split.2 ?_ apartAfter
      cases before with
      | nil => simp
      | cons e before => simpa using apartBefore

theorem RunsEven.of_cons {c : Char} (other : c ≠ '\'') {text : Text}
    (even : RunsEven (c :: text)) : RunsEven text := by
  intro before after count split apartBefore apartAfter
  refine even (c :: before) after count (by simp [split]) ?_ apartAfter
  cases before with
  | nil => simpa using other
  | cons d before => simpa using apartBefore

/-- Pairing quotes from the left finds no quote alone exactly if all runs are even. -/
theorem quotesPaired_iff_runsEven (text : Text) :
    Scan.quotesPaired text = true ↔ RunsEven text := by
  fun_induction Scan.quotesPaired text with
  | case1 =>
      refine ⟨fun _ before after count split _ _ => ?_, fun _ => rfl⟩
      have empty := congrArg List.length split
      simp only [List.length_nil, List.length_append, List.length_replicate] at empty
      omega
  | case2 rest ih => exact ⟨fun paired => (ih.mp paired).pair, fun even => ih.mpr even.of_pair⟩
  | case3 rest alone =>
      constructor
      · intro impossible
        cases impossible
      · intro even
        have apart : rest.head? ≠ some '\'' := by
          cases rest with
          | nil => simp
          | cons c rest =>
              rintro same
              cases Option.some.inj same
              exact (alone rest rfl).elim
        have odd := even [] rest 1 rfl (by simp) apart
        cases odd
  | case4 c rest notPair notQuote ih =>
      have other : c ≠ '\'' := notQuote
      exact ⟨fun paired => (ih.mp paired).cons other, fun even => ih.mpr (even.of_cons other)⟩

theorem append_of_close? {text rest : Text} (closed : close? text = some rest) :
    ∃ inner : Text, text = inner ++ '\'' :: rest ∧ Scan.quotesPaired inner = true ∧
      rest.head? ≠ some '\'' := by
  fun_induction close? text with
  | case1 => cases closed
  | case2 tail ih =>
      obtain ⟨inner, joined, paired, apart⟩ := ih closed
      exact ⟨'\'' :: '\'' :: inner, by rw [joined]; rfl, by simpa [Scan.quotesPaired] using paired,
        apart⟩
  | case3 tail notPair =>
      have same : tail = rest := Option.some.inj closed
      subst same
      refine ⟨[], rfl, rfl, ?_⟩
      cases tail with
      | nil => simp
      | cons c tail =>
          intro quote
          cases Option.some.inj quote
          exact (notPair tail rfl).elim
  | case4 c tail notPair notQuote ih =>
      have other : c ≠ '\'' := notQuote
      obtain ⟨inner, joined, paired, apart⟩ := ih closed
      exact ⟨c :: inner, by rw [joined]; rfl, by simpa [Scan.quotesPaired, other] using paired,
        apart⟩

/-- A quote behind paired quotes closes, unless another one follows it. -/
theorem close?_append_of_quotesPaired {inner rest : Text}
    (paired : Scan.quotesPaired inner = true) (apart : rest.head? ≠ some '\'') :
    close? (inner ++ '\'' :: rest) = some rest := by
  fun_induction Scan.quotesPaired inner with
  | case1 =>
      cases rest with
      | nil => rfl
      | cons c rest =>
          have other : c ≠ '\'' := by simpa using apart
          simp [close?, other]
  | case2 tail ih => simpa [close?] using ih paired
  | case3 tail alone => cases paired
  | case4 c tail notPair notQuote ih =>
      have other : c ≠ '\'' := notQuote
      simpa [close?, other] using ih paired

theorem isWhole_eq_isLiteral (text : Text) : isWhole text = Scan.isLiteral text := by
  rw [Bool.eq_iff_iff, isWhole, decide_eq_true_eq, Scan.isLiteral, Option.any_eq_true]
  constructor
  · intro whole
    unfold after? at whole
    split at whole
    · next rest =>
        obtain ⟨inner, joined, paired, _⟩ := append_of_close? whole
        exact ⟨inner, Text.before?_eq_some_iff.mpr joined.symm, paired⟩
    · cases whole
  · rintro ⟨inner, stripped, paired⟩
    unfold inside? at stripped
    split at stripped
    · next rest =>
        have joined := Text.before?_eq_some_iff.mp stripped
        rw [after?, ← joined]
        exact close?_append_of_quotesPaired paired (by simp)
    · cases stripped

theorem isLiteral_iff (text : Text) :
    Scan.isLiteral text = true ↔
      ∃ inner : Text, text = '\'' :: (inner ++ ['\'']) ∧ RunsEven inner := by
  rw [Scan.isLiteral, Option.any_eq_true]
  constructor
  · rintro ⟨inner, stripped, paired⟩
    unfold inside? at stripped
    split at stripped
    · next rest =>
        have joined := Text.before?_eq_some_iff.mp stripped
        exact ⟨inner, by rw [joined], (quotesPaired_iff_runsEven inner).mp paired⟩
    · cases stripped
  · rintro ⟨inner, rfl, even⟩
    exact ⟨inner, Text.before?_eq_some_iff.mpr rfl, (quotesPaired_iff_runsEven inner).mpr even⟩

end Literal

end SqlDump
