import SqlDump.Insert.Grammar
import SqlDump.Proofs.Text.Occurrences

/-!
# The leftmost insert head

The words of an insert head hold no double quote, and its name stands between
two of them.  So the double quotes of a text cut the search for a head into
runs: a head starts at the end of one run, its name is the next run, and
nothing behind the closing quote of the name matters.
-/

namespace SqlDump

namespace Insert

theorem afterGap?_append_quote (run rest : Text) :
    afterGap? (run ++ '"' :: rest) = (afterGap? run).map (· ++ '"' :: rest) := by
  cases run with
  | nil => rfl
  | cons c run =>
      have stop : List.dropWhile isGap ('"' :: rest) = '"' :: rest := rfl
      by_cases gap : isGap c = true
      · rw [List.cons_append, afterGap?, if_pos gap, afterGap?, if_pos gap, List.dropWhile_append,
          stop, Option.map_some]
        split
        · next empty => rw [List.isEmpty_iff.mp empty, List.nil_append]
        · rfl
      · rw [List.cons_append, afterGap?, if_neg gap, afterGap?, if_neg gap, Option.map_none]

/-- Words are taken off within a run of text up to a double quote. -/
theorem afterWords?_append_quote {words : List Text} (plain : ∀ word ∈ words, '"' ∉ word)
    (run rest : Text) :
    afterWords? words (run ++ '"' :: rest) = (afterWords? words run).map (· ++ '"' :: rest) := by
  induction words generalizing run with
  | nil => rfl
  | cons word words ih =>
      have outside := plain word List.mem_cons_self
      have others := fun other member => plain other (List.mem_cons_of_mem word member)
      simp only [afterWords?]
      rw [Text.after?_append_cons outside]
      cases Text.after? word run with
      | none => rfl
      | some behind =>
          simp only [Option.map_some]
          rw [afterGap?_append_quote]
          cases afterGap? behind with
          | none => rfl
          | some next => exact ih others next

theorem quote_notMem_keywords : ∀ word ∈ keywords, '"' ∉ word := by decide

/-- Whether the words of an insert stand at the end of a text, gaps included. -/
def endsWithWords : Text → Bool
  | [] => false
  | c :: rest => afterWords? keywords (c :: rest) = some [] || endsWithWords rest

theorem quotedName?_append_quote {name : Text} (outside : '"' ∉ name) (rest : Text) :
    quotedName? ('"' :: (name ++ '"' :: rest)) =
      if name = [] then none else some (name, rest) := by
  split
  · next empty => rw [empty]; rfl
  · next proper =>
      have taken := quotedName?_quoteName_append proper outside rest
      rwa [quoteName, List.cons_append, List.cons_append, List.append_assoc,
        List.singleton_append] at taken

/-- In front of a double quote a head starts only with the words up to the quote. -/
theorem head?_append_quote {run : Text} (outside : '"' ∉ run) (rest : Text) :
    head? (run ++ '"' :: rest) =
      if afterWords? keywords run = some [] then quotedName? ('"' :: rest) else none := by
  rw [head?, afterWords?_append_quote quote_notMem_keywords]
  cases taken : afterWords? keywords run with
  | none => rfl
  | some left =>
      obtain ⟨head, _, joined⟩ := spaced_append_of_afterWords? taken
      cases left with
      | nil => rfl
      | cons c left =>
          have other : c ≠ '"' := by
            rintro rfl
            rw [← joined] at outside
            exact outside (List.mem_append_right head List.mem_cons_self)
          simp [quotedName?, other]

/-- The leftmost head of a text with a double quote is the name behind the
first quote, if the words stand in front of it, and otherwise a later one. -/
theorem firstHead?_append_quote {run : Text} (outside : '"' ∉ run) (rest : Text) :
    firstHead? (run ++ '"' :: rest) =
      ((if endsWithWords run then quotedName? ('"' :: rest) else none).or
        (firstHead? rest)) := by
  induction run with
  | nil => rfl
  | cons c run ih =>
      rw [List.mem_cons, not_or] at outside
      have whole : '"' ∉ c :: run := by
        rw [List.mem_cons, not_or]
        exact outside
      have first := head?_append_quote whole rest
      rw [List.cons_append] at first ⊢
      rw [firstHead?, first, ih outside.2]
      rw [endsWithWords]
      by_cases here : afterWords? keywords (c :: run) = some []
      · cases named : quotedName? ('"' :: rest) with
        | none => simp [here]
        | some found => simp [here]
      · simp [here]

theorem append_of_firstHead? {text table rest : Text}
    (found : firstHead? text = some (table, rest)) :
    ∃ before head : Text, IsHead table head ∧ before ++ head ++ rest = text := by
  induction text with
  | nil => cases found
  | cons c tail ih =>
      rw [firstHead?] at found
      split at found
      · next here taken =>
          rw [found] at taken
          obtain ⟨head, isHead, joined⟩ := isHead_append_of_head? taken
          exact ⟨[], head, isHead, joined⟩
      · obtain ⟨before, head, isHead, joined⟩ := ih found
        exact ⟨c :: before, head, isHead, by rw [← joined]; rfl⟩

theorem IsHead.quote_mem {table head : Text} (isHead : IsHead table head) : '"' ∈ head := by
  obtain ⟨_, words, _, rfl⟩ := isHead
  simp

/-- A head ends in what it takes off, whatever follows. -/
theorem firstHead?_append_right {front table rest : Text}
    (found : firstHead? (front ++ rest) = some (table, rest)) (other : Text) :
    firstHead? (front ++ other) = some (table, other) := by
  induction front using WellFounded.induction (measure List.length).wf with
  | h front ih =>
      -- the head that is taken off holds double quotes, so the front does
      have quoted : ∀ part : Text, firstHead? (part ++ rest) = some (table, rest) → '"' ∈ part := by
        intro part taken
        obtain ⟨before, head, isHead, joined⟩ := append_of_firstHead? taken
        rw [← List.append_cancel_right joined]
        exact List.mem_append_right before isHead.quote_mem
      obtain ⟨run, later, rfl, outside⟩ := List.eq_append_cons_of_mem (quoted front found)
      rw [List.append_assoc, List.cons_append, firstHead?_append_quote outside] at found ⊢
      have shorter : later.length < (run ++ '"' :: later).length := by
        rw [List.length_append, List.length_cons]
        omega
      by_cases words : endsWithWords run = true
      · rw [if_pos words] at found ⊢
        cases named : quotedName? ('"' :: (later ++ rest)) with
        | some here =>
            rw [named, Option.some_or] at found
            rw [Option.some.inj found] at named
            obtain ⟨proper, free, joined⟩ := append_of_quotedName? named
            have whole : (table ++ ['"']) ++ rest = later ++ rest := by
              rw [List.append_assoc]
              exact (List.cons.inj joined).2
            have same : table ++ ['"'] = later := List.append_cancel_right whole
            rw [← same, List.append_assoc, List.singleton_append,
              quotedName?_append_quote free, if_neg proper, Option.some_or]
        | none =>
            rw [named, Option.none_or] at found
            obtain ⟨name, behind, rfl, free⟩ := List.eq_append_cons_of_mem (quoted later found)
            rw [List.append_assoc, List.cons_append, quotedName?_append_quote free] at named
            split at named
            · next empty =>
                have next := ih _ shorter found
                rw [List.append_assoc, List.cons_append] at next ⊢
                rw [quotedName?_append_quote free, if_pos empty, Option.none_or, next]
            · cases named
      · rw [if_neg words, Option.none_or] at found ⊢
        exact ih later shorter found

end Insert

end SqlDump
