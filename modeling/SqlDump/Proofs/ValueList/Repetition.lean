import SqlDump.ValueList.Reader
import SqlDump.Proofs.ValueList.Extents

/-!
# Reading by repetition

Literals, groups and fields are read by repeating readers of their parts.  Each part
takes something, so no repetition stalls, and what is put together so reads just what
the readers of value lists read.  The reader of groups occurs in itself; that there is
only one such reader follows because the groups inside a group are shorter.
-/

namespace SqlDump

namespace Reader

/-! ## Repetition -/

section Many

variable {reader : Reader} {text rest : Text}

theorem many_of_error {halt : Halt} (refused : reader text = .error halt) :
    many reader text = .ok text := by
  rw [many, refused]

theorem many_of_ok (taken : reader text = .ok rest) (shorter : rest.length < text.length) :
    many reader text = many reader rest := by
  rw [many, taken]
  exact dif_pos shorter

def Progresses (reader : Reader) : Prop :=
  ∀ text rest, reader text = .ok rest → rest.length < text.length

/-- What takes something each time is repeated until it refuses. -/
theorem exists_many (progresses : Progresses reader) (text : Text) :
    ∃ rest, many reader text = .ok rest := by
  fun_induction many reader text with
  | case1 text halt refused => exact ⟨text, rfl⟩
  | case2 text rest taken shorter ih => exact ih
  | case3 text rest taken long => exact absurd (progresses text rest taken) long

/-- Repeating two readers comes to the same if they agree as far as the text reaches. -/
theorem many_congr {other : Reader}
    (agree : ∀ part : Text, part.length ≤ text.length → reader part = other part) :
    many reader text = many other text := by
  fun_induction many reader text with
  | case1 text halt refused =>
      rw [agree text (Nat.le_refl _)] at refused
      exact (many_of_error refused).symm
  | case2 text rest taken shorter ih =>
      rw [agree text (Nat.le_refl _)] at taken
      rw [many_of_ok taken shorter]
      exact ih fun part fits => agree part (Nat.le_trans fits (Nat.le_of_lt shorter))
  | case3 text rest taken long =>
      rw [agree text (Nat.le_refl _)] at taken
      rw [many, taken]
      simp only [long, dite_false]

/-- A reader that takes runs of a kind may as well be repeated behind such a run. -/
theorem many_dropWhile {kind : Char → Bool}
    (takes : ∀ c tail, kind c = true → reader (c :: tail) = .ok (tail.dropWhile kind))
    (text : Text) : many reader (text.dropWhile kind) = many reader text := by
  cases text with
  | nil => rfl
  | cons c tail =>
      by_cases same : kind c = true
      · have shorter : (tail.dropWhile kind).length < (c :: tail).length :=
          Nat.lt_succ_of_le (List.dropWhile_sublist kind).length_le
        rw [List.dropWhile_cons_of_pos same, many_of_ok (takes c tail same) shorter]
      · rw [List.dropWhile_cons_of_neg same]

/-- The characters of a run may be taken one at a time. -/
theorem many_cons {kind : Char → Bool} {c : Char}
    (takes : ∀ c tail, kind c = true → reader (c :: tail) = .ok (tail.dropWhile kind))
    (same : kind c = true) (tail : Text) : many reader (c :: tail) = many reader tail := by
  rw [← many_dropWhile takes, List.dropWhile_cons_of_pos same, many_dropWhile takes]

end Many

/-! ## Single readers -/

theorem ofOption_of_some {after? : Text → Option Text} {text rest : Text}
    (taken : after? text = some rest) : ofOption after? text = .ok rest := by
  rw [ofOption, taken]

theorem ofOption_of_none {after? : Text → Option Text} {text : Text}
    (refused : after? text = none) : ofOption after? text = .error .refused := by
  rw [ofOption, refused]

theorem orElse_of_error {first second : Reader} {text : Text} {halt : Halt}
    (refused : first text = .error halt) : orElse first second text = second text := by
  rw [orElse, refused]

theorem orElse_of_ok {first second : Reader} {text rest : Text} (taken : first text = .ok rest) :
    orElse first second text = .ok rest := by
  rw [orElse, taken]

theorem andThen_of_ok {first second : Reader} {text rest : Text} (taken : first text = .ok rest) :
    andThen first second text = second rest := by
  rw [andThen, taken]

theorem andThen_of_error {first second : Reader} {text : Text} {halt : Halt}
    (refused : first text = .error halt) : andThen first second text = .error halt := by
  rw [andThen, refused]

theorem word_cons (c : Char) (tail : Text) : word [c] (c :: tail) = .ok tail := by
  simp [word, ofOption, Text.after?]

theorem word_cons_of_ne {c d : Char} (other : d ≠ c) (tail : Text) :
    word [c] (d :: tail) = .error .refused := by
  simp [word, ofOption, Text.after?, Ne.symm other]

theorem run_of_pos {kind : Char → Bool} {c : Char} (same : kind c = true) (tail : Text) :
    run kind (c :: tail) = .ok (tail.dropWhile kind) :=
  if_pos same

theorem Progresses.ofOption {after? : Text → Option Text}
    (shorter : ∀ text rest, after? text = some rest → rest.length < text.length) :
    Progresses (ofOption after?) := by
  intro text rest taken
  rw [Reader.ofOption] at taken
  split at taken
  · next found =>
      rw [← Except.ok.inj taken]
      exact shorter _ _ found
  · cases taken

theorem Progresses.orElse {first second : Reader} (left : Progresses first)
    (right : Progresses second) : Progresses (orElse first second) := by
  intro text rest taken
  rw [Reader.orElse] at taken
  split at taken
  · next found =>
      rw [← Except.ok.inj taken]
      exact left _ _ found
  · exact right _ _ taken

theorem progresses_run (kind : Char → Bool) : Progresses (run kind) := by
  intro text rest taken
  cases text with
  | nil => cases taken
  | cons c tail =>
      rw [run] at taken
      split at taken
      · rw [← Except.ok.inj taken]
        exact Nat.lt_succ_of_le (List.dropWhile_sublist kind).length_le
      · cases taken

theorem progresses_word {c : Char} {head : Text} : Progresses (word (c :: head)) := by
  refine Progresses.ofOption fun text rest taken => ?_
  rw [← Text.after?_eq_some_iff.mp taken, List.length_append, List.length_cons]
  omega

/-! ## Literals -/

theorem literalPart_of_ne {c : Char} (tail : Text) (other : decide (c ≠ '\'') = true) :
    literalPart (c :: tail) = .ok (tail.dropWhile (· ≠ '\'')) :=
  orElse_of_ok (run_of_pos other tail)

theorem progresses_literalPart : Progresses literalPart :=
  (progresses_run _).orElse progresses_word

/-- The parts of a literal reach to the quote that closes it. -/
theorem andThen_many_literalPart (text : Text) :
    andThen (many literalPart) (word ['\'']) text = ofOption Literal.close? text := by
  fun_induction Literal.close? text with
  | case1 =>
      rw [andThen_of_ok (many_of_error (rfl : literalPart [] = .error .refused))]
      rfl
  | case2 tail ih =>
      have pair : literalPart ('\'' :: '\'' :: tail) = .ok tail := rfl
      have shorter : tail.length < ('\'' :: '\'' :: tail).length := Nat.lt_succ_of_lt (Nat.lt_succ_self _)
      rw [andThen, many_of_ok pair shorter]
      exact ih
  | case3 tail alone =>
      have stuck : literalPart ('\'' :: tail) = .error .refused := by
        cases tail with
        | nil => rfl
        | cons d tail =>
            have other : '\'' ≠ d := fun same => alone tail (by rw [same])
            simp [literalPart, orElse, run, word, ofOption, Text.after?, other]
      have closed : Literal.close? ('\'' :: tail) = some tail := by
        rw [Literal.close?]
        exact alone
      rw [andThen_of_ok (many_of_error stuck), word_cons, ofOption_of_some closed]
  | case4 c tail notPair notQuote ih =>
      have other : c ≠ '\'' := notQuote
      have passed : ofOption Literal.close? (c :: tail) = ofOption Literal.close? tail := by
        rw [ofOption, ofOption, Literal.close?]
        · exact notPair
        · exact notQuote
      have takes := fun d rest => @literalPart_of_ne d rest
      rw [passed, ← ih, andThen, andThen, many_cons takes (decide_eq_true other)]

theorem literal_eq (text : Text) : literal text = ofOption Literal.after? text := by
  cases text with
  | nil => rfl
  | cons c inner =>
      by_cases quote : c = '\''
      · subst quote
        rw [literal, andThen_of_ok (word_cons _ inner), andThen_many_literalPart]
        rfl
      · have none_ : Literal.after? (c :: inner) = none := by
          unfold Literal.after?
          split
          · next same => exact absurd (List.cons.inj same).1 quote
          · rfl
        rw [literal, andThen_of_error (word_cons_of_ne quote inner), ofOption_of_none none_]

theorem literal_of_ne {c : Char} (other : c ≠ '\'') (tail : Text) :
    literal (c :: tail) = .error .refused :=
  andThen_of_error (word_cons_of_ne other tail)

/-! ## Groups -/

open ValueList (afterGroup? groupEnd)

def group : Reader :=
  ofOption afterGroup?

theorem group_of_ne {c : Char} (other : c ≠ '(') (tail : Text) :
    group (c :: tail) = .error .refused := by
  apply ofOption_of_none
  unfold afterGroup?
  split
  · next same => exact absurd (List.cons.inj same).1 other
  · rfl

section Parts

variable {inner after : Text}

theorem groupPart_literal (closed : Literal.close? inner = some after) (reader : Reader) :
    groupPart reader ('\'' :: inner) = .ok after :=
  orElse_of_ok ((literal_eq _).trans (ofOption_of_some closed))

theorem groupPart_open_literal (unclosed : Literal.close? inner = none) :
    groupPart group ('\'' :: inner) = .error .refused := by
  have refused : literal ('\'' :: inner) = .error .refused :=
    (literal_eq _).trans (ofOption_of_none unclosed)
  rw [groupPart, orElse_of_error refused, orElse_of_error (group_of_ne (by decide) inner)]
  rfl

theorem groupPart_group (ended : (groupEnd inner).val = ')' :: after) :
    groupPart group ('(' :: inner) = .ok after := by
  rw [groupPart, orElse_of_error (literal_of_ne (by decide) inner)]
  have taken : afterGroup? ('(' :: inner) = some after := by
    rw [afterGroup?, ended]
    rfl
  exact orElse_of_ok (ofOption_of_some taken)

theorem groupPart_open_group (unclosed : ∀ after, (groupEnd inner).val ≠ ')' :: after) :
    groupPart group ('(' :: inner) = .error .refused := by
  have refused : group ('(' :: inner) = .error .refused := by
    apply ofOption_of_none
    rw [afterGroup?]
    split
    · next after ended => exact absurd ended (unclosed after)
    · rfl
  rw [groupPart, orElse_of_error (literal_of_ne (by decide) inner), orElse_of_error refused]
  rfl

theorem groupPart_close : groupPart group (')' :: inner) = .error .refused := by
  rw [groupPart, orElse_of_error (literal_of_ne (by decide) inner),
    orElse_of_error (group_of_ne (by decide) inner)]
  rfl

theorem groupPart_inner {c : Char} (tail : Text) (plain : isInner c = true) :
    groupPart group (c :: tail) = .ok (tail.dropWhile isInner) := by
  have notQuote : c ≠ '\'' := by rintro rfl; cases plain
  have notOpen : c ≠ '(' := by rintro rfl; cases plain
  rw [groupPart, orElse_of_error (literal_of_ne notQuote tail),
    orElse_of_error (group_of_ne notOpen tail), run_of_pos plain]

end Parts

theorem many_groupPart (text : Text) :
    many (groupPart group) text = .ok (groupEnd text).val := by
  induction text using WellFounded.induction (measure List.length).wf with
  | h text ih =>
      cases text with
      | nil =>
          rw [ValueList.groupEnd_nil]
          exact many_of_error (rfl : groupPart group [] = .error .refused)
      | cons c inner =>
          by_cases quote : c = '\''
          · subst quote
            cases closed : Literal.close? inner with
            | none =>
                rw [ValueList.groupEnd_open_literal closed,
                  many_of_error (groupPart_open_literal closed)]
            | some after =>
                have shorter := Nat.lt_succ_of_lt (Literal.length_lt_of_close? closed)
                rw [ValueList.groupEnd_literal closed,
                  many_of_ok (groupPart_literal closed group) shorter]
                exact ih after shorter
          · by_cases paren : c = '('
            · subst paren
              by_cases ended : ∃ after, (groupEnd inner).val = ')' :: after
              · obtain ⟨after, ended⟩ := ended
                have shorter := Nat.lt_succ_of_lt (ValueList.length_lt_of_val_eq ended)
                rw [ValueList.groupEnd_group ended, many_of_ok (groupPart_group ended) shorter]
                exact ih after shorter
              · have unclosed : ∀ after, (groupEnd inner).val ≠ ')' :: after :=
                  fun after same => ended ⟨after, same⟩
                rw [ValueList.groupEnd_open_group unclosed,
                  many_of_error (groupPart_open_group unclosed)]
            · by_cases close : c = ')'
              · subst close
                rw [ValueList.groupEnd_close, many_of_error groupPart_close]
              · have takes := fun d tail => @groupPart_inner d tail
                have plain : isInner c = true := by simp [isInner, quote, paren, close]
                rw [ValueList.groupEnd_other quote paren close, many_cons takes plain]
                exact ih inner (Nat.lt_succ_self _)

/-- A group may be read part by part, with the groups inside read at once. -/
theorem groupOf_group (text : Text) : groupOf group text = group text := by
  cases text with
  | nil => rfl
  | cons c inner =>
      by_cases paren : c = '('
      · subst paren
        rw [groupOf, andThen_of_ok (word_cons _ inner), andThen_of_ok (many_groupPart inner),
          group, ofOption, afterGroup?]
        cases (groupEnd inner).val with
        | nil => rfl
        | cons d after =>
            by_cases close : d = ')'
            · subst close
              exact word_cons _ after
            · rw [word_cons_of_ne close]
              split
              · next rest given =>
                  split at given
                  · next same => exact absurd (List.cons.inj same).1 close
                  · cases given
              · rfl
      · rw [groupOf, andThen_of_error (word_cons_of_ne paren inner), group_of_ne paren]

theorem groupOf_congr {first second : Reader} {text : Text}
    (agree : ∀ part : Text, part.length < text.length → first part = second part) :
    groupOf first text = groupOf second text := by
  cases text with
  | nil => rfl
  | cons c inner =>
      by_cases paren : c = '('
      · subst paren
        have parts : many (groupPart first) inner = many (groupPart second) inner := by
          apply many_congr
          intro part fits
          simp only [groupPart, orElse, agree part (Nat.lt_succ_of_le fits)]
        rw [groupOf, groupOf, andThen_of_ok (word_cons _ inner), andThen_of_ok (word_cons _ inner),
          andThen, andThen, parts]
      · rw [groupOf, groupOf, andThen_of_error (word_cons_of_ne paren inner),
          andThen_of_error (word_cons_of_ne paren inner)]

/-- There is only one reader that reads groups part by part and uses itself for the
groups inside. -/
theorem eq_group_iff {reader : Reader} :
    (∀ text, reader text = groupOf reader text) ↔ reader = group := by
  constructor
  · intro fixed
    funext text
    induction text using WellFounded.induction (measure List.length).wf with
    | h text ih => rw [fixed text, groupOf_congr ih, groupOf_group]
  · rintro rfl text
    exact (groupOf_group text).symm

/-! ## Segments and fields -/

open ValueList (afterSegment? afterField fields)

theorem segment_eq (text : Text) : segment group text = ofOption afterSegment? text := by
  cases text with
  | nil => rfl
  | cons c tail =>
      rw [segment]
      by_cases quote : c = '\''
      · subst quote
        have same : afterSegment? ('\'' :: tail) = Literal.after? ('\'' :: tail) := rfl
        cases closed : Literal.after? ('\'' :: tail) with
        | none =>
            rw [orElse_of_error ((literal_eq _).trans (ofOption_of_none closed)),
              orElse_of_error (group_of_ne (by decide) tail), ofOption_of_none (same.trans closed)]
            rfl
        | some rest =>
            rw [orElse_of_ok ((literal_eq _).trans (ofOption_of_some closed)),
              ofOption_of_some (same.trans closed)]
      · rw [orElse_of_error (literal_of_ne quote tail)]
        by_cases paren : c = '('
        · subst paren
          have same : afterSegment? ('(' :: tail) = afterGroup? ('(' :: tail) := rfl
          cases closed : afterGroup? ('(' :: tail) with
          | none =>
              have refused : group ('(' :: tail) = .error .refused := ofOption_of_none closed
              rw [orElse_of_error refused, ofOption_of_none (same.trans closed)]
              rfl
          | some rest =>
              have accepted : group ('(' :: tail) = .ok rest := ofOption_of_some closed
              rw [orElse_of_ok accepted, ofOption_of_some (same.trans closed)]
        · rw [orElse_of_error (group_of_ne paren tail), ofOption, afterSegment?, if_neg quote,
            if_neg paren, run]
          split <;> rfl

theorem field_eq (text : Text) : field group text = .ok (afterField text) := by
  rw [field]
  fun_induction afterField text with
  | case1 text rest taken ih =>
      have accepted : segment group text = .ok rest :=
        (segment_eq text).trans (ofOption_of_some taken)
      rw [many_of_ok accepted (ValueList.length_lt_of_afterSegment? taken), ih]
  | case2 text stuck => exact many_of_error ((segment_eq text).trans (ofOption_of_none stuck))

theorem further_of_ok {separator item : Reader} {text after rest : Text}
    (divided : separator text = .ok after) (shorter : after.length < text.length)
    (read : item after = .ok rest) (behind : rest.length ≤ after.length) :
    further separator item text = separated separator item after := by
  rw [further, divided, separated, read]
  simp only [shorter, dite_true]
  rw [read]
  exact dif_pos behind

/-- Fields between commas are read to where reading a value list stops. -/
theorem separated_eq (text : Text) :
    separated (word [',']) (field group) text = .ok (fields text) := by
  fun_induction fields text with
  | case1 text after left others rest later ih =>
      have shorter : after.length < (',' :: after).length := Nat.lt_succ_self _
      rw [separated, field_eq, left]
      dsimp only
      rw [further_of_ok (word_cons _ after) shorter (field_eq after)
        (ValueList.length_afterField_le after), ih, later, ← left]
      rfl
  | case2 text notComma =>
      have stuck : word [','] (afterField text) = .error .refused := by
        cases left : afterField text with
        | nil => rfl
        | cons d after => exact word_cons_of_ne (fun same => notComma after (by rw [left, same])) after
      rw [separated, field_eq]
      dsimp only
      rw [further, stuck]
      rfl

end Reader

namespace ValueList

open Reader (ofOption word many separated literalPart literal groupPart groupOf segment)

/-- Each reader of value lists takes just its part of a text.  A literal reaches from a
quote to a quote with nothing but pairs of quotes between them, and no other quote
follows it.  A group reaches from a parenthesis to the one behind which nothing is
open.  A segment is not empty.  A field always ends, and it does so at the end of the
text, a comma, a parenthesis that closes nothing, or a quote or parenthesis that is
never closed, whichever comes first with nothing open in front of it.

These readers are what is put together from readers of parts; the reader of groups is
the only one that so uses itself.  No repetition stalls, so fields and rows of fields
between commas are read from any text. -/
theorem readers_take_exact_prefixes (text : Text) :
    (∀ rest, Literal.after? text = some rest ↔
      ∃ inner : Text, text = '\'' :: (inner ++ '\'' :: rest) ∧
        Scan.quotesPaired inner = true ∧ rest.head? ≠ some '\'') ∧
    (∀ rest, afterGroup? text = some rest ↔
      (∃ body : Text, text = '(' :: (body ++ ')' :: rest)) ∧
        Scan.behindClose? ⟨false, 0⟩ text = some rest) ∧
    (∀ rest, afterSegment? text = some rest →
      ∃ part : Text, part ≠ [] ∧ text = part ++ rest) ∧
    (∀ rest, afterField text = rest ↔
      ∃ front : Text, text = front ++ rest ∧
        Scan.undivided? ⟨false, 0⟩ front = some ⟨false, 0⟩ ∧
        IsApart front rest ∧ EndsField rest) ∧
    literal text = ofOption Literal.after? text ∧
    (∀ reader, (∀ part, reader part = groupOf reader part) ↔ reader = ofOption afterGroup?) ∧
    segment (ofOption afterGroup?) text = ofOption afterSegment? text ∧
    (∃ rest, many literalPart text = .ok rest) ∧
    (∃ rest, many (groupPart (ofOption afterGroup?)) text = .ok rest) ∧
    many (segment (ofOption afterGroup?)) text = .ok (afterField text) ∧
    separated (word [',']) (many (segment (ofOption afterGroup?))) text = .ok (fields text) :=
  ⟨fun _ => Literal.after?_eq_some_iff, fun _ => afterGroup?_eq_some_iff,
    fun _ => exists_segment_of_afterSegment?, fun _ => afterField_eq_iff,
    Reader.literal_eq text, fun _ => Reader.eq_group_iff, Reader.segment_eq text,
    Reader.exists_many Reader.progresses_literalPart text, ⟨_, Reader.many_groupPart text⟩,
    Reader.field_eq text, Reader.separated_eq text⟩

/-- A group inside a group that is never closed keeps both from being read. -/
example :
    afterGroup? "(a, (b, ')'), c".toList = none ∧
      afterField "f('''', ')') (a, (b, ')'), c".toList = "(a, (b, ')'), c".toList := by
  decide +kernel

end ValueList

end SqlDump
