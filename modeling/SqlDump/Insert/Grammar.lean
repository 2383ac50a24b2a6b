import SqlDump.Insert

/-!
# The grammar of inserts

Which texts are single-row inserts, and how such a text is divided, is said here
without a reader: by the leftmost head, the leftmost opener behind it and the
terminator at the end.  An insert head is `INSERT OR REPLACE INTO "table"` with any
gaps between the words.  Behind it the lead may name the columns that the values
belong to, each between double quotes, in the order of the values.
-/

namespace SqlDump

namespace Insert

def IsGap (text : Text) : Prop :=
  text ≠ [] ∧ text.all isGap = true

def IsName (name : Text) : Prop :=
  name ≠ [] ∧ '"' ∉ name

/-- Words, each with a gap behind it. -/
inductive Spaced : List Text → Text → Prop where
  | nil : Spaced [] []
  | cons {word gap rest : Text} {words : List Text} (isGap : IsGap gap)
      (spaced : Spaced words rest) : Spaced (word :: words) (word ++ gap ++ rest)

structure IsHead (table head : Text) : Prop where
  isName : IsName table
  spaced : ∃ words : Text, Spaced keywords words ∧ head = words ++ '"' :: table ++ ['"']

theorem spaced_append_of_afterWords? {words : List Text} {text rest : Text}
    (taken : afterWords? words text = some rest) :
    ∃ head : Text, Spaced words head ∧ head ++ rest = text := by
  induction words generalizing text with
  | nil =>
      simp only [afterWords?, Option.some.injEq] at taken
      exact ⟨[], .nil, by simp [taken]⟩
  | cons word words ih =>
      simp only [afterWords?] at taken
      split at taken
      · simp at taken
      · next behind word_taken =>
          split at taken
          · simp at taken
          · next next_ gap_taken =>
              obtain ⟨head, spaced, joined⟩ := ih taken
              obtain ⟨gap, proper, all, gap_joined⟩ := gap_append_of_afterGap? gap_taken
              refine ⟨word ++ gap ++ head, .cons ⟨proper, all⟩ spaced, ?_⟩
              rw [← Text.after?_eq_some_iff.mp word_taken, ← gap_joined, ← joined]
              simp

theorem isHead_append_of_head? {text table rest : Text}
    (taken : head? text = some (table, rest)) :
    ∃ head : Text, IsHead table head ∧ head ++ rest = text := by
  unfold head? at taken
  split at taken
  · simp at taken
  · next behind words_taken =>
      obtain ⟨words, spaced, joined⟩ := spaced_append_of_afterWords? words_taken
      obtain ⟨proper, free, name_joined⟩ := append_of_quotedName? taken
      refine ⟨words ++ '"' :: table ++ ['"'], ⟨⟨proper, free⟩, words, spaced, rfl⟩, ?_⟩
      rw [← joined, ← name_joined]
      simp

/-! ## Column lists -/

def quoteName (name : Text) : Text :=
  '"' :: name ++ ['"']

/-- The names of columns as they stand between the parentheses of a lead. -/
def columnList (columns : List Text) : Text :=
  List.intercalate ", ".toList (columns.map quoteName)

def namedLead (preamble table : Text) (columns : List Text) : Text :=
  preamble ++ "INSERT OR REPLACE INTO ".toList ++ quoteName table ++ " (".toList ++
    columnList columns ++ ") ".toList

/-- A written name is read again, up to the quote behind it. -/
theorem quotedName?_quoteName_append {name : Text} (proper : name ≠ []) (free : '"' ∉ name)
    (rest : Text) : quotedName? (quoteName name ++ rest) = some (name, rest) := by
  have plain : ∀ c ∈ name, decide (c ≠ '"') = true := by
    intro c member
    simpa using fun same : c = '"' => free (same ▸ member)
  have taken : (name ++ '"' :: rest).takeWhile (· ≠ '"') = name := by
    rw [List.takeWhile_append_of_pos plain]
    simp
  have left : (name ++ '"' :: rest).dropWhile (· ≠ '"') = '"' :: rest := by
    rw [List.dropWhile_append_of_pos plain]
    simp
  obtain ⟨c, tail, rfl⟩ := List.exists_cons_of_ne_nil proper
  simp only [quoteName, List.cons_append, List.append_assoc, List.nil_append, quotedName?] at *
  rw [taken, left]

/-! ## Whole inserts -/

/-- A head for a table stands between two texts, and no head starts further left. -/
structure IsFirstHead (text table before head behind : Text) : Prop where
  joined : before ++ head ++ behind = text
  isHead : IsHead table head
  leftmost : ∀ other name found more : Text, other ++ found ++ more = text →
    IsHead name found → before.length ≤ other.length

/-- The text is a single-row insert with the given parts.  Behind the leftmost head
there is an opener, and the text behind the leftmost such opener ends with the
terminator.  The lead reaches up to that opener. -/
def IsDivided (text : Text) (insert : Insert) : Prop :=
  ∃ before head behind middle : Text,
    IsFirstHead text insert.table before head behind ∧
    Text.IsFirst opener behind middle (insert.values ++ terminator) ∧
    insert.lead = before ++ head ++ middle

end Insert

end SqlDump
