import SqlDump.Proofs.Gatherer.Calmer
import SqlDump.Proofs.ValueList.Writing

/-!
# Quoted contents

The literal of a content is a canonical value, and so is a bare word.  Quotes
have no part in the end of a statement: doubling them, reading pairs of them as
one, and putting a text between two of them all leave it as calm as it was.
-/

namespace SqlDump

/-! ## Canonical values -/

namespace Literal

/-- A content with doubled quotes stays inside its literal. -/
theorem undivided?_double (content : Text) (depth : Nat) :
    Scan.undivided? ⟨true, depth⟩ (double content) = some ⟨true, depth⟩ := by
  induction content with
  | nil => rfl
  | cons c rest ih =>
      by_cases quote : c = '\''
      · subst quote
        simpa [double, Scan.undivided?, Scan.step] using ih
      · simpa [double, quote, Scan.undivided?, Scan.step, Scan.clear] using ih

theorem undivided?_encode (content : Text) :
    Scan.clear.undivided? (encode content) = some Scan.clear := by
  have opened : Scan.clear.undivided? ['\''] = some ⟨true, 0⟩ := rfl
  have shape : encode content = ['\''] ++ (double content ++ ['\'']) := rfl
  rw [shape, Scan.undivided?_append, opened, Option.bind_some, Scan.undivided?_append,
    undivided?_double, Option.bind_some]
  rfl

theorem trim_encode (content : Text) : Text.trim (encode content) = encode content := by
  have solid : Text.isBlank '\'' = false := by decide
  rw [Text.trim, encode, Text.trimStart_cons solid]
  exact Text.trimEnd_concat solid ('\'' :: double content)

theorem isLiteral_encode (content : Text) : Scan.isLiteral (encode content) = true := by
  rw [← isWhole_eq_isLiteral]
  exact isWhole_encode content

end Literal

namespace Value

/-- A value whose trimmed text leaves nothing open is canonical if its kind is right. -/
theorem isCanonical_of_undivided? {value : Value} (trimmed : Text.trim value.text = value.text)
    (passed : Scan.clear.undivided? value.text = some Scan.clear)
    (kind : (∃ text, value = .quoted text) ↔ Scan.isLiteral value.text = true) :
    value.IsCanonical where
  trimmed := trimmed
  balanced := by
    rw [Scan.balanced, Scan.run_of_undivided? passed]
    exact decide_eq_true rfl
  undivided := Scan.pieces_of_undivided? passed
  kind := kind

theorem isCanonical_quote (content : Text) : (quote content).IsCanonical := by
  apply isCanonical_of_undivided?
  · exact Literal.trim_encode content
  · exact Literal.undivided?_encode content
  · constructor
    · exact fun _ => Literal.isLiteral_encode content
    · exact fun _ => ⟨Literal.encode content, rfl⟩

def isWordChar (c : Char) : Bool :=
  ValueList.isPlain c && !Text.isBlank c

theorem trim_of_all_isWordChar {word : Text} (plain : word.all isWordChar = true) :
    Text.trim word = word := by
  have solid : ∀ c ∈ word, ¬ Text.isBlank c = true := by
    intro c member
    have both := List.all_eq_true.mp plain c member
    rw [isWordChar, Bool.and_eq_true, Bool.not_eq_true'] at both
    rw [both.2]
    exact Bool.false_ne_true
  have front : Text.trimStart word = word := by
    cases word with
    | nil => rfl
    | cons c rest =>
        have first : Text.isBlank c = false :=
          Bool.eq_false_iff.mpr (solid c List.mem_cons_self)
        exact Text.trimStart_cons first rest
  rw [Text.trim, front]
  rcases List.eq_nil_or_concat' word with empty | ⟨rest, c, joined⟩
  · rw [empty]
    rfl
  · have last : c ∈ word := by
      rw [joined]
      exact List.mem_append_right rest List.mem_cons_self
    rw [joined]
    exact Text.trimEnd_concat (Bool.eq_false_iff.mpr (solid c last)) rest

theorem isCanonical_bare {word : Text} (plain : word.all isWordChar = true) :
    (bare word).IsCanonical := by
  have plainChars : word.all ValueList.isPlain = true := by
    rw [List.all_eq_true] at plain ⊢
    intro c member
    exact (Bool.and_eq_true_iff.mp (plain c member)).1
  apply isCanonical_of_undivided?
  · exact trim_of_all_isWordChar plain
  · exact ValueList.undivided?_of_all_isPlain plainChars
  · constructor
    · rintro ⟨text, impossible⟩
      cases impossible
    · intro literal
      obtain ⟨inner, same, _⟩ := (Literal.isLiteral_iff word).mp literal
      rw [same] at plainChars
      cases plainChars

end Value

/-! ## Quotes and the end of a statement -/

namespace Watch

theorem isQuiet_quote : isQuiet '\'' = true := by decide

theorem run_quote_cons (watch : Watch) (rest : Text) :
    watch.run ('\'' :: rest) = run ⟨false, watch.ended⟩ rest := by
  rw [run, step_of_isQuiet isQuiet_quote]

theorem run_double (watch : Watch) (text : Text) :
    watch.run (Literal.double text) = watch.run text := by
  induction text generalizing watch with
  | nil => rfl
  | cons c rest ih =>
      by_cases quote : c = '\''
      · subst quote
        rw [Literal.double, run_quote_cons, run_quote_cons, run_quote_cons, ih]
      · rw [Literal.double, run, run]
        · cases watch.step c with
          | none => rfl
          | some next => exact ih next
        · exact quote

theorem run_undouble (watch : Watch) (text : Text) :
    watch.run (Literal.undouble text) = watch.run text := by
  fun_induction Literal.undouble text generalizing watch with
  | case1 => rfl
  | case2 rest ih => rw [run_quote_cons, run_quote_cons, run_quote_cons, ih]
  | case3 c rest notPair ih =>
      rw [run, run]
      cases watch.step c with
      | none => rfl
      | some next => exact ih next

theorem Calmer.enclosed {first second : Text} (calmer : Calmer first second) :
    Calmer ('\'' :: (first ++ ['\''])) second := by
  have quiet : ['\''].all isQuiet = true := by decide
  have proper : ['\''] ≠ [] := by decide
  exact (calmer.append_quiet quiet proper).quiet_append quiet

theorem calmer_inside (text : Text) : Calmer text ('\'' :: (text ++ ['\''])) := by
  intro ended last ran
  rw [run_quote_cons] at ran
  obtain ⟨less, ranText, ranQuote⟩ := exists_run_of_run_append ran
  refine ⟨less, ranText, ended_mono ranQuote⟩

end Watch

namespace Value

/-- The content of a canonical value is calmer than the value as written. -/
theorem IsCanonical.calmer_content {value : Value} (canonical : value.IsCanonical) :
    Watch.Calmer value.content value.text := by
  cases value with
  | bare text => exact Watch.Calmer.refl text
  | quoted text =>
      obtain ⟨inner, same, _⟩ :=
        (Literal.isLiteral_iff text).mp (canonical.kind.mp ⟨text, rfl⟩)
      have stripped : Literal.inside? text = some inner := by
        rw [same, Literal.inside?, Text.before?_eq_some_iff]
      rw [content, Literal.decode, stripped, Option.getD_some, Value.text, same]
      refine Watch.Calmer.trans (Watch.calmer_of_run fun watch last ran => ?_)
        (Watch.calmer_inside inner)
      rw [Watch.run_undouble, ran]

theorem calmer_quote {content other : Text} (calmer : Watch.Calmer content other) :
    Watch.Calmer (quote content).text other := by
  refine Watch.Calmer.enclosed (Watch.Calmer.trans ?_ calmer)
  refine Watch.calmer_of_run fun watch last ran => ?_
  rw [Watch.run_double, ran]

end Value

end SqlDump
