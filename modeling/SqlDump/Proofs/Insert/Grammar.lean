import SqlDump.Insert.Grammar
import SqlDump.Proofs.Insert.Lead

/-!
# Inserts are read by their grammar

The readers of gaps, words and names take what the grammar says and nothing else,
so a head is found where one starts, and first the leftmost one.  With the search
for the opener and the terminator at the end, the texts that are divided are
exactly the single-row inserts of the grammar.
-/

namespace SqlDump

namespace Insert

/-! ## Heads -/

def NoGap (text : Text) : Prop :=
  ∀ c, text.head? = some c → isGap c = false

theorem afterGap?_append {gap rest : Text} (isGap : IsGap gap) (stop : NoGap rest) :
    afterGap? (gap ++ rest) = some rest := by
  obtain ⟨proper, all⟩ := isGap
  obtain ⟨c, tail, rfl⟩ := List.exists_cons_of_ne_nil proper
  rw [List.all_cons, Bool.and_eq_true] at all
  rw [List.cons_append, afterGap?, if_pos all.1, List.dropWhile_append_of_pos]
  · cases rest with
    | nil => rfl
    | cons d rest => rw [List.dropWhile_cons, if_neg (by rw [stop d rfl]; exact Bool.false_ne_true)]
  · exact List.all_eq_true.mp all.2

/-- Words start with a character outside gaps. -/
def IsWord (word : Text) : Prop :=
  ∃ c rest, word = c :: rest ∧ isGap c = false

theorem isWord_of_mem_keywords : ∀ word ∈ keywords, IsWord word := by
  intro word member
  simp only [keywords, List.mem_cons, List.not_mem_nil, or_false] at member
  rcases member with rfl | rfl | rfl | rfl <;> exact ⟨_, _, rfl, by decide⟩

theorem Spaced.noGap_append {words : List Text} {head rest : Text} (spaced : Spaced words head)
    (isWord : ∀ word ∈ words, IsWord word) (stop : NoGap rest) : NoGap (head ++ rest) := by
  cases spaced with
  | nil => exact stop
  | cons isGap spaced =>
      obtain ⟨c, tail, rfl, outside⟩ := isWord _ List.mem_cons_self
      intro d first
      cases first
      exact outside

theorem afterWords?_append {words : List Text} {head rest : Text} (spaced : Spaced words head)
    (isWord : ∀ word ∈ words, IsWord word) (stop : NoGap rest) :
    afterWords? words (head ++ rest) = some rest := by
  induction spaced with
  | nil => rfl
  | @cons word gap later words isGap spaced ih =>
      have others := fun other member => isWord other (List.mem_cons_of_mem word member)
      have taken : Text.after? word (word ++ gap ++ later ++ rest) =
          some (gap ++ (later ++ rest)) :=
        Text.after?_eq_some_iff.mpr (by simp only [List.append_assoc])
      have gapTaken := afterGap?_append isGap (spaced.noGap_append others stop)
      simp only [afterWords?, taken, gapTaken]
      exact ih others

/-- A head is read as what it is, whatever follows it. -/
theorem IsHead.head?_append {table head : Text} (isHead : IsHead table head) (rest : Text) :
    head? (head ++ rest) = some (table, rest) := by
  obtain ⟨⟨proper, outside⟩, words, spaced, rfl⟩ := isHead
  have shape : words ++ '"' :: table ++ ['"'] ++ rest = words ++ (quoteName table ++ rest) := by
    simp [quoteName]
  have stop : NoGap (quoteName table ++ rest) := by
    intro c first
    cases first
    rfl
  rw [shape, head?, afterWords?_append spaced isWord_of_mem_keywords stop]
  exact quotedName?_quoteName_append proper outside rest

/-! ## The leftmost head -/

theorem IsHead.exists_firstHead? {table head : Text} (isHead : IsHead table head)
    (before behind : Text) : ∃ found, firstHead? (before ++ head ++ behind) = some found := by
  induction before with
  | nil =>
      have taken := isHead.head?_append behind
      obtain ⟨c, tail, same⟩ : ∃ c tail, head ++ behind = c :: tail :=
        List.exists_cons_of_ne_nil fun empty => by rw [empty] at taken; cases taken
      rw [List.nil_append, same, firstHead?, ← same, taken]
      exact ⟨_, rfl⟩
  | cons c before ih =>
      rw [List.cons_append, List.cons_append, firstHead?]
      split
      · exact ⟨_, rfl⟩
      · exact ih

theorem isFirstHead_of_firstHead? {text table behind : Text}
    (found : firstHead? text = some (table, behind)) :
    ∃ before head, IsFirstHead text table before head behind := by
  induction text with
  | nil => cases found
  | cons c rest ih =>
      rw [firstHead?] at found
      split at found
      · next here taken =>
          rw [found] at taken
          obtain ⟨head, isHead, joined⟩ := isHead_append_of_head? taken
          exact ⟨[], head, joined, isHead, fun _ _ _ _ _ _ => Nat.zero_le _⟩
      · next apart =>
          obtain ⟨before, head, joined, isHead, leftmost⟩ := ih found
          refine ⟨c :: before, head, by rw [← joined]; rfl, isHead, ?_⟩
          intro other name start more whole isStart
          cases other with
          | nil =>
              have taken := isStart.head?_append more
              rw [← List.nil_append start, whole, apart] at taken
              cases taken
          | cons d other =>
              exact Nat.succ_le_succ
                (leftmost other name start more (List.cons.inj whole).2 isStart)

theorem IsFirstHead.unique {text table before head behind : Text}
    {table' before' head' behind' : Text} (first : IsFirstHead text table before head behind)
    (other : IsFirstHead text table' before' head' behind') :
    table = table' ∧ before = before' ∧ head = head' ∧ behind = behind' := by
  have same : before.length = before'.length :=
    Nat.le_antisymm (first.leftmost _ _ _ _ other.joined other.isHead)
      (other.leftmost _ _ _ _ first.joined first.isHead)
  have joined := first.joined.trans other.joined.symm
  rw [List.append_assoc, List.append_assoc] at joined
  obtain ⟨rfl, rest⟩ := List.append_inj joined same
  have taken := first.isHead.head?_append behind
  rw [rest, other.isHead.head?_append behind'] at taken
  obtain ⟨rfl, rfl⟩ := Prod.mk.inj (Option.some.inj taken)
  exact ⟨rfl, rfl, List.append_cancel_right rest, rfl⟩

/-- The search finds the leftmost head, and finds it if there is one. -/
theorem firstHead?_eq_some_iff {text table behind : Text} :
    firstHead? text = some (table, behind) ↔
      ∃ before head, IsFirstHead text table before head behind := by
  refine ⟨isFirstHead_of_firstHead?, ?_⟩
  rintro ⟨before, head, first⟩
  obtain ⟨⟨table', behind'⟩, found⟩ := first.isHead.exists_firstHead? before behind
  rw [first.joined] at found
  obtain ⟨before', head', other⟩ := isFirstHead_of_firstHead? found
  obtain ⟨rfl, _, _, rfl⟩ := first.unique other
  exact found

/-! ## Single-row inserts -/

/-- What a text is divided into follows the grammar. -/
theorem isDivided_of_parse? {text : Text} {insert : Insert}
    (parsed : parse? text = some insert) : IsDivided text insert := by
  obtain ⟨⟨middle, found, first⟩, rfl⟩ := isLead_of_parse? parsed
  have foundWhole := firstHead?_append found (opener ++ (insert.values ++ terminator))
  have shape : write insert.lead insert.values =
      insert.lead ++ (opener ++ (insert.values ++ terminator)) := by
    simp only [write, List.append_assoc]
  rw [← shape] at foundWhole
  obtain ⟨before, head, isFirst⟩ := firstHead?_eq_some_iff.mp foundWhole
  have opened := (Text.split?_eq_some_iff opener_ne_nil).mp
    (Text.split?_append opener_ne_nil first (insert.values ++ terminator))
  refine ⟨before, head, _, middle, isFirst, by rwa [List.append_assoc] at opened, ?_⟩
  have joined := isFirst.joined
  rw [shape, ← List.append_assoc] at joined
  exact (List.append_cancel_right joined).symm

theorem IsDivided.eq_write {text : Text} {insert : Insert} (isDivided : IsDivided text insert) :
    text = write insert.lead insert.values := by
  obtain ⟨before, head, behind, middle, first, opened, lead⟩ := isDivided
  rw [← first.joined, ← opened.joined, lead, write]
  simp only [List.append_assoc]

/-- The lead of a text that follows the grammar holds all that decides on it. -/
theorem IsDivided.isLead {text : Text} {insert : Insert} (isDivided : IsDivided text insert) :
    IsLead insert.table insert.lead := by
  obtain ⟨before, head, behind, middle, first, opened, lead⟩ := isDivided
  have found := firstHead?_eq_some_iff.mpr ⟨before, head, first⟩
  rw [← first.joined] at found
  refine ⟨middle, ?_, ?_⟩
  · rw [lead]
    exact firstHead?_append_right found middle
  · exact Text.contains_dropLast_of_split? opener_ne_nil
      ((Text.split?_eq_some_iff opener_ne_nil).mpr opened)

/-- Exactly the texts that follow the grammar are divided: those with a head, an
opener behind the leftmost head, and the terminator at the end of what follows the
leftmost such opener.  The table is the name in that head, the lead is what stands
in front of that opener, and with the value list they make up the text.  Any other
text is not divided at all. -/
theorem parse?_follows_grammar (text : Text) :
    (∀ insert, parse? text = some insert ↔
      IsDivided text insert ∧
        text = insert.lead ++ opener ++ insert.values ++ terminator) ∧
    (parse? text = none ↔ ¬ ∃ insert, IsDivided text insert) := by
  have parsed_of_isDivided {insert : Insert} (isDivided : IsDivided text insert) :
      parse? text = some insert := by
    rw [isDivided.eq_write]
    exact isDivided.isLead.parse?_write insert.values
  constructor
  · intro insert
    constructor
    · intro parsed
      have isDivided := isDivided_of_parse? parsed
      exact ⟨isDivided, isDivided.eq_write⟩
    · rintro ⟨isDivided, _⟩
      exact parsed_of_isDivided isDivided
  · constructor
    · rintro none_ ⟨insert, isDivided⟩
      rw [parsed_of_isDivided isDivided] at none_
      cases none_
    · intro undivided
      cases parsed : parse? text with
      | none => rfl
      | some insert => exact absurd ⟨insert, isDivided_of_parse? parsed⟩ undivided

/-- A head with an empty name is none, and an opener in front of the head does not count. -/
example : parse? ("VALUES (INSERT OR REPLACE INTO \"\" " ++
      "INSERT OR REPLACE INTO \"t\" VALUES (1);").toList =
    some ⟨"t".toList, "VALUES (INSERT OR REPLACE INTO \"\" INSERT OR REPLACE INTO \"t\" ".toList,
      "1".toList⟩ := by decide +kernel

end Insert

end SqlDump
