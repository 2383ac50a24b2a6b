import SqlDump.Proofs.Value.Quoting

/-!
# Contents of literals

A literal and the content that it denotes determine each other.  Every content
has a literal, a value list of just that literal is read as that value, and the
literals that come out of a value list are written again as they were.
-/

namespace SqlDump

namespace Literal

theorem double_undouble {inner : Text} (paired : Scan.quotesPaired inner = true) :
    double (undouble inner) = inner := by
  fun_induction Scan.quotesPaired inner with
  | case1 => rfl
  | case2 rest ih => rw [undouble, double, ih paired]
  | case3 rest alone => cases paired
  | case4 c rest notPair notQuote ih => simp only [undouble, double, ih paired]

theorem encode_decode {text : Text} (literal : Scan.isLiteral text = true) :
    encode (decode text) = text := by
  obtain ⟨inner, rfl, even⟩ := (isLiteral_iff text).mp literal
  have stripped : inside? ('\'' :: (inner ++ ['\''])) = some inner :=
    Text.before?_eq_some_iff.mpr rfl
  have paired := (quotesPaired_iff_runsEven inner).mpr even
  rw [decode, stripped, Option.getD_some, encode, double_undouble paired]

/-- The literals are the texts that are written for a content, each for one. -/
theorem isLiteral_iff_existsUnique {text : Text} :
    Scan.isLiteral text = true ↔ ∃! content, encode content = text := by
  constructor
  · intro literal
    refine ⟨decode text, encode_decode literal, fun content written => ?_⟩
    rw [← written, decode_encode]
  · rintro ⟨content, rfl, _⟩
    exact isLiteral_encode content

end Literal

namespace Value

theorem read_quote (content : Text) :
    ValueList.read (quote content).text = .ok [quote content] := by
  have canonical : ∀ value ∈ [quote content], value.IsCanonical := by
    intro value member
    rw [List.mem_singleton.mp member]
    exact isCanonical_quote content
  have ne : [quote content] ≠ [.bare []] := by
    intro same
    cases (List.cons.inj same).1
  rw [← ValueList.write_singleton]
  exact ValueList.read_write canonical ne

theorem IsCanonical.quote_content {text : Text} (canonical : (quoted text).IsCanonical) :
    quote (quoted text).content = .quoted text := by
  have literal : Scan.isLiteral text = true := canonical.kind.mp ⟨text, rfl⟩
  rw [content, quote, Literal.encode_decode literal]

/-- Quoting is a bijection between the texts and the literals.  The content of what
is quoted is the quoted text, and the value list of what is quoted has it as its
one value, a literal, whatever the text holds.  Every literal of a value list is
what its content is quoted as, and a text is one literal exactly if just one text
is quoted as it. -/
theorem quote_bijective :
    (∀ text : Text, (quote text).content = text ∧
      ∃ written : Text, quote text = .quoted written ∧
        ValueList.read written = .ok [.quoted written]) ∧
    (∀ (list written : Text) (values : List Value), ValueList.read list = .ok values →
      .quoted written ∈ values → quote (quoted written).content = .quoted written) ∧
    ∀ written : Text, Scan.isLiteral written = true ↔
      ∃! text, quote text = .quoted written := by
  refine ⟨fun text => ?_, fun list written values read member => ?_, fun written => ?_⟩
  · exact ⟨content_quote text, Literal.encode text, rfl, read_quote text⟩
  · exact ((ValueList.isCanonical_of_read read).1 _ member).quote_content
  · simp only [quote, quoted.injEq]
    exact Literal.isLiteral_iff_existsUnique

/-- Quotes at both ends of a content, and one that is all of it, come back as written. -/
theorem quote_bijective_quotes_at_ends :
    let list := "7, ''', (x);''', ''''".toList
    let values : List Value := [.bare "7".toList, .quoted "''', (x);'''".toList,
      .quoted "''''".toList]
    ValueList.read list = .ok values ∧
      quote (quoted "''', (x);'''".toList).content = .quoted "''', (x);'''".toList ∧
      quote (quoted "''''".toList).content = .quoted "''''".toList := by
  intro list values
  have read : ValueList.read list = .ok values :=
    ValueList.read_eq_ok_iff.mpr (by decide +kernel)
  have again := quote_bijective.2.1 list
  exact ⟨read, again _ values read (by simp [values]), again _ values read (by simp [values])⟩

end Value

/-! ## Null values and contents

Whether a value is null is read off the text it was written with, all quotes at
the ends of that text aside.  The quotes of a literal are not the only ones that
are left out: a content with quotes of its own at its ends loses them too.  So
null values and contents agree as long as no content starts or ends with a
quote. -/

namespace Literal

theorem double_append (first second : Text) :
    double (first ++ second) = double first ++ double second := by
  induction first with
  | nil => rfl
  | cons c rest ih =>
      by_cases quote : c = '\''
      · subst quote
        simp [double, ih]
      · simp [double, ih]

theorem double_reverse (text : Text) : double text.reverse = (double text).reverse := by
  induction text with
  | nil => rfl
  | cons c rest ih =>
      rw [List.reverse_cons, double_append, ih]
      by_cases quote : c = '\''
      · subst quote
        simp [double]
      · simp [double]

theorem dropWhile_double (text : Text) :
    (double text).dropWhile (· = '\'') = double (text.dropWhile (· = '\'')) := by
  induction text with
  | nil => rfl
  | cons c rest ih =>
      by_cases quote : c = '\''
      · subst quote
        simpa [double] using ih
      · simp [double, quote]

theorem double_of_notMem {text : Text} (plain : '\'' ∉ text) : double text = text := by
  induction text with
  | nil => rfl
  | cons c rest ih =>
      rw [List.mem_cons, not_or] at plain
      simp [double, Ne.symm plain.1, ih plain.2]

theorem mem_double {c : Char} {text : Text} (member : c ∈ text) : c ∈ double text := by
  induction text with
  | nil => cases member
  | cons d rest ih =>
      by_cases quote : d = '\''
      · subst quote
        rcases List.mem_cons.mp member with rfl | later
        · exact List.mem_cons_self
        · exact List.mem_cons_of_mem _ (List.mem_cons_of_mem _ (ih later))
      · rw [double]
        · rcases List.mem_cons.mp member with rfl | later
          · exact List.mem_cons_self
          · exact List.mem_cons_of_mem _ (ih later)
        · exact quote

end Literal

namespace Value

def isNullWord (text : Text) : Bool :=
  text.map Char.toLower = "null".toList

def hasQuoteAtEnd (text : Text) : Bool :=
  text.head? = some '\'' || text.getLast? = some '\''

theorem isNull_eq (value : Value) : value.isNull = isNullWord (withoutQuotes value.text) := rfl

/-! ## Quotes at the ends -/

theorem withoutQuotes_enclosed (inner : Text) :
    withoutQuotes ('\'' :: (inner ++ ['\''])) = withoutQuotes inner := by
  have started : ('\'' :: (inner ++ ['\''])).dropWhile (· = '\'') =
      (inner ++ ['\'']).dropWhile (· = '\'') := rfl
  rw [withoutQuotes, started, List.dropWhile_append, withoutQuotes]
  split
  · next empty =>
      -- a text of quotes only vanishes together with the quote behind it
      rw [List.isEmpty_iff.mp empty]
      rfl
  · rw [List.reverse_append]
    rfl

theorem withoutQuotes_double (text : Text) :
    withoutQuotes (Literal.double text) = Literal.double (withoutQuotes text) := by
  rw [withoutQuotes, Literal.dropWhile_double, ← Literal.double_reverse, Literal.dropWhile_double,
    ← Literal.double_reverse, withoutQuotes]

theorem dropWhile_of_head?_ne {text : Text} (apart : text.head? ≠ some '\'') :
    text.dropWhile (· = '\'') = text := by
  cases text with
  | nil => rfl
  | cons c rest =>
      have other : c ≠ '\'' := by simpa using apart
      simp [other]

theorem withoutQuotes_of_not_hasQuoteAtEnd {text : Text} (apart : hasQuoteAtEnd text = false) :
    withoutQuotes text = text := by
  rw [hasQuoteAtEnd, Bool.or_eq_false_iff, decide_eq_false_iff_not,
    decide_eq_false_iff_not] at apart
  have back : text.reverse.head? ≠ some '\'' := by
    rw [List.head?_reverse]
    exact apart.2
  rw [withoutQuotes, dropWhile_of_head?_ne apart.1, dropWhile_of_head?_ne back,
    List.reverse_reverse]

/-! ## The word for null -/

theorem quote_notMem_of_isNullWord {text : Text} (word : isNullWord text = true) :
    '\'' ∉ text := by
  intro member
  rw [isNullWord, decide_eq_true_eq] at word
  have lowered : Char.toLower '\'' ∈ text.map Char.toLower := List.mem_map_of_mem member
  rw [word] at lowered
  exact absurd lowered (by decide)

theorem hasQuoteAtEnd_of_isNullWord {text : Text} (word : isNullWord text = true) :
    hasQuoteAtEnd text = false := by
  have plain := quote_notMem_of_isNullWord word
  rw [hasQuoteAtEnd, Bool.or_eq_false_iff, decide_eq_false_iff_not, decide_eq_false_iff_not]
  constructor
  · exact fun first => plain (List.mem_of_head? first)
  · exact fun last => plain (List.mem_of_getLast? last)

/-- Doubling quotes neither makes nor unmakes the word. -/
theorem isNullWord_double (text : Text) :
    isNullWord (Literal.double text) = isNullWord text := by
  by_cases member : '\'' ∈ text
  · have unlike {other : Text} (inside : '\'' ∈ other) : isNullWord other = false :=
      Bool.eq_false_iff.mpr fun word => quote_notMem_of_isNullWord word inside
    rw [unlike member, unlike (Literal.mem_double member)]
  · rw [Literal.double_of_notMem member]

/-! ## Null values -/

/-- A literal is null if its content is, the quotes at the ends of the content aside. -/
theorem isNull_quote (content : Text) :
    (quote content).isNull = isNullWord (withoutQuotes content) := by
  rw [isNull_eq, quote, text, Literal.encode, withoutQuotes_enclosed, withoutQuotes_double,
    isNullWord_double]

/-- A value of a list is null if its content is, the quotes at the ends aside. -/
theorem IsCanonical.isNull_eq_content {value : Value} (canonical : value.IsCanonical) :
    value.isNull = isNullWord (withoutQuotes value.content) := by
  cases value with
  | bare text => rfl
  | quoted text => rw [← isNull_quote, canonical.quote_content]

/-- The content decides whether a value is null. -/
structure IsNullBy (value : Value) (content : Text) : Prop where
  /-- The quotes at the ends of the content are left out. -/
  aside : value.isNull = isNullWord (withoutQuotes content)
  /-- That makes a difference just for the word for null with quotes of its own. -/
  agrees_iff : value.isNull = isNullWord content ↔
    ¬ (hasQuoteAtEnd content = true ∧ isNullWord (withoutQuotes content) = true)

theorem IsNullBy.of_aside {value : Value} {content : Text}
    (aside : value.isNull = isNullWord (withoutQuotes content)) : value.IsNullBy content where
  aside := aside
  agrees_iff := by
    rw [aside]
    cases ends : hasQuoteAtEnd content with
    | false =>
        rw [withoutQuotes_of_not_hasQuoteAtEnd ends]
        exact ⟨fun _ both => absurd both.1 Bool.false_ne_true, fun _ => rfl⟩
    | true =>
        -- the word has no quote at an end, so here the content is another text
        have other : isNullWord content = false := by
          rw [Bool.eq_false_iff]
          intro word
          rw [hasQuoteAtEnd_of_isNullWord word] at ends
          cases ends
        rw [other, Bool.eq_false_iff]
        constructor
        · exact fun unlike both => unlike both.2
        · exact fun apart word => apart ⟨rfl, word⟩

/-- Null values and contents.  A value of a list is null exactly if its content is the
word `NULL` in any case once the quotes at the ends of the content are left out; the
same holds of the literal of any text and of any text as an expression.  So a value is
null just if its content is the word, unless the content is the word with quotes of its
own at an end. -/
theorem isNullBy_content (list content : Text) :
    (∀ values : List Value, ValueList.read list = .ok values →
      ∀ value ∈ values, value.IsNullBy value.content) ∧
    (quote content).IsNullBy content ∧ (bare content).IsNullBy content := by
  refine ⟨fun values read value member => ?_, .of_aside (isNull_quote content), .of_aside rfl⟩
  exact .of_aside ((ValueList.isCanonical_of_read read).1 value member).isNull_eq_content

/-- Quotes within a content do not matter, and blanks do. -/
theorem isNullBy_content_within :
    let list := "'nUlL', 'NU''LL', 'NULL '".toList
    let values : List Value := [.quoted "'nUlL'".toList, .quoted "'NU''LL'".toList,
      .quoted "'NULL '".toList]
    ValueList.read list = .ok values ∧ values.map content = ["nUlL".toList, "NU'LL".toList,
      "NULL ".toList] ∧ values.map isNull = [true, false, false] := by
  intro list values
  have read : ValueList.read list = .ok values :=
    ValueList.read_eq_ok_iff.mpr (by decide +kernel)
  have contents : values.map content = ["nUlL".toList, "NU'LL".toList, "NULL ".toList] := by
    decide +kernel
  have agree : ∀ value ∈ values, value.isNull = isNullWord value.content := by
    intro value member
    have apart : ∀ value ∈ values, ¬ (hasQuoteAtEnd value.content = true ∧
        isNullWord (withoutQuotes value.content) = true) := by decide +kernel
    exact ((isNullBy_content list []).1 values read value member).agrees_iff.mpr
      (apart value member)
  refine ⟨read, contents, ?_⟩
  rw [List.map_congr_left agree]
  decide +kernel

/-- The literal of the word in quotes counts as null, although its content is another text. -/
theorem isNull_of_word_in_quotes :
    let written := "'''NULL'''".toList
    ValueList.read written = .ok [.quoted written] ∧ (quoted written).isNull = true ∧
      (quoted written).content = "'NULL'".toList ∧ isNullWord "'NULL'".toList = false := by
  intro written
  have read : ValueList.read written = .ok [.quoted written] :=
    read_quote "'NULL'".toList
  refine ⟨read, ?_, ?_, ?_⟩ <;> decide +kernel

end Value

end SqlDump
