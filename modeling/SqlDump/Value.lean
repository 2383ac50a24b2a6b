import SqlDump.Text.Search

/-!
# Values

A value of a row is kept as the text it was written with: either one string
literal, quotes included, or any other expression.  `content` is what a
literal denotes, `quote` writes a literal for a content, and `isNull`
recognises the null value, with or without quotes around it.

A string literal stands between two single quotes, and a quote inside it is
written twice.  `encode` writes the literal of a content.  `close?` reads from
inside a literal to behind its closing quote: a doubled quote never closes, so
reading is greedy and nothing after it is taken back.
-/

namespace SqlDump

namespace Literal

def double : Text → Text
  | [] => []
  | '\'' :: rest => '\'' :: '\'' :: double rest
  | c :: rest => c :: double rest

/-- The text with each pair of quotes read as one, from left to right.  A
quote that stands alone stays. -/
def undouble : Text → Text
  | [] => []
  | '\'' :: '\'' :: rest => '\'' :: undouble rest
  | c :: rest => c :: undouble rest

def encode (content : Text) : Text :=
  '\'' :: (double content ++ ['\''])

/-- What follows the closing quote, for a text that starts inside a literal. -/
def close? : Text → Option Text
  | [] => none
  | '\'' :: '\'' :: rest => close? rest
  | '\'' :: rest => some rest
  | _ :: rest => close? rest

def after? : Text → Option Text
  | '\'' :: rest => close? rest
  | _ => none

def isWhole (text : Text) : Bool :=
  after? text = some []

def inside? : Text → Option Text
  | '\'' :: rest => Text.before? ['\''] rest
  | _ => none

/-- The content that a text denotes: what stands between its outer quotes with
pairs of quotes read as one.  A text without both outer quotes is read
as it stands. -/
def decode (text : Text) : Text :=
  undouble ((inside? text).getD text)

theorem undouble_double (content : Text) : undouble (double content) = content := by
  induction content with
  | nil => rfl
  | cons c rest ih =>
      by_cases quote : c = '\''
      · subst quote
        simp [double, undouble, ih]
      · simp [double, undouble, quote, ih]

theorem decode_encode (content : Text) : decode (encode content) = content := by
  have inner : inside? (encode content) = some (double content) := by
    simp [inside?, encode, Text.before?_eq_some_iff]
  rw [decode, inner, Option.getD_some, undouble_double]

/-- Reading to the closing quote takes at least that quote. -/
theorem length_lt_of_close? {text rest : Text} (closed : close? text = some rest) :
    rest.length < text.length := by
  fun_induction close? text with
  | case1 => simp at closed
  | case2 tail ih =>
      have := ih closed
      simp only [List.length_cons]
      omega
  | case3 tail notPair =>
      simp only [Option.some.injEq] at closed
      simp [← closed]
  | case4 c tail notPair notQuote ih =>
      have := ih closed
      simp only [List.length_cons]
      omega

theorem length_lt_of_after? {text rest : Text} (taken : after? text = some rest) :
    rest.length < text.length := by
  unfold after? at taken
  split at taken
  · have := length_lt_of_close? taken
    simp only [List.length_cons]
    omega
  · simp at taken

/-- A written literal is read up to its own closing quote, unless another
quote follows it directly. -/
theorem close?_double_append {content rest : Text} (apart : rest.head? ≠ some '\'') :
    close? (double content ++ '\'' :: rest) = some rest := by
  induction content with
  | nil =>
      cases rest with
      | nil => rfl
      | cons c tail =>
          have : c ≠ '\'' := by simpa using apart
          simp [double, close?, this]
  | cons c content ih =>
      by_cases quote : c = '\''
      · subst quote
        simpa [double, close?] using ih
      · simpa [double, close?, quote] using ih

theorem isWhole_encode (content : Text) : isWhole (encode content) = true := by
  have closed := @close?_double_append content [] (by simp)
  simp [isWhole, encode, after?, closed]

end Literal

inductive Value where
  | quoted (text : Text)
  | bare (text : Text)
  deriving DecidableEq, Repr

namespace Value

def text : Value → Text
  | .quoted text => text
  | .bare text => text

def null : Value :=
  .bare "NULL".toList

def quote (content : Text) : Value :=
  .quoted (Literal.encode content)

/-- What the value denotes: the content of a literal, the text of any other
expression. -/
def content : Value → Text
  | .quoted text => Literal.decode text
  | .bare text => text

def withoutQuotes (text : Text) : Text :=
  ((text.dropWhile (· = '\'')).reverse.dropWhile (· = '\'')).reverse

/-- Whether the text reads `NULL` in any case, quotes at its ends aside. -/
def isNull (value : Value) : Bool :=
  (withoutQuotes value.text).map Char.toLower = "null".toList

theorem content_quote (content : Text) : (quote content).content = content :=
  Literal.decode_encode content

end Value

end SqlDump
