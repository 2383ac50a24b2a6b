import SqlDump.Proofs.Insert.FirstHead

/-!
# Leads

The lead of an insert holds all that decides how the statement is divided: its
leftmost head lies in it, and no opener starts behind the head.  So a lead may
be followed by any value list and comes out of the statement again.
-/

namespace SqlDump

namespace Insert

theorem opener_ne_nil : opener ≠ [] := by decide

theorem quote_notMem_opener : '"' ∉ opener := by decide

/-- A text that can stand in front of the value list of an insert into a table. -/
def IsLead (table lead : Text) : Prop :=
  ∃ behind : Text, firstHead? lead = some (table, behind) ∧
    Text.contains opener (behind ++ opener.dropLast) = false

theorem firstHead?_append {text table behind : Text}
    (found : firstHead? text = some (table, behind)) (more : Text) :
    firstHead? (text ++ more) = some (table, behind ++ more) := by
  obtain ⟨before, head, _, rfl⟩ := append_of_firstHead? found
  rw [List.append_assoc]
  exact firstHead?_append_right found (behind ++ more)

/-- A text that goes on with an opener behind a lead is divided there, if it is
divided at all. -/
theorem IsLead.parse?_append {table lead : Text} (isLead : IsLead table lead) (body : Text) :
    parse? (lead ++ opener ++ body) = (Text.before? terminator body).map (⟨table, lead, ·⟩) := by
  obtain ⟨behind, found, first⟩ := isLead
  have split := Text.split?_append opener_ne_nil first body
  rw [List.append_assoc] at split
  rw [List.append_assoc, parse?, firstHead?_append found]
  simp only [split]
  cases Text.before? terminator body with
  | none => rfl
  | some values =>
      rw [List.length_append, Nat.add_sub_cancel, List.take_left]
      rfl

theorem IsLead.parse?_write {table lead : Text} (isLead : IsLead table lead) (values : Text) :
    parse? (write lead values) = some ⟨table, lead, values⟩ := by
  have ended : Text.before? terminator (values ++ terminator) = some values :=
    Text.before?_eq_some_iff.mpr rfl
  rw [write, List.append_assoc, isLead.parse?_append, ended, Option.map_some]

/-- What a statement is divided into is its lead and its value list. -/
theorem isLead_of_parse? {text : Text} {insert : Insert} (parsed : parse? text = some insert) :
    IsLead insert.table insert.lead ∧ text = write insert.lead insert.values := by
  unfold parse? at parsed
  split at parsed
  · cases parsed
  · next table rest found =>
      split at parsed
      · cases parsed
      · next behind body split =>
          split at parsed
          · cases parsed
          · next values ended =>
              have same := Option.some.inj parsed
              have bodyEq := Text.before?_eq_some_iff.mp ended
              have restEq := Text.append_of_split? split
              obtain ⟨before, head, _, textEq⟩ := append_of_firstHead? found
              have joined : text = before ++ head ++ behind ++ (opener ++ body) := by
                rw [← textEq, ← restEq]
                simp [List.append_assoc]
              have lead : text.take (text.length - (opener ++ body).length) =
                  before ++ head ++ behind := by
                rw [joined, List.length_append, Nat.add_sub_cancel, List.take_left]
              rw [lead] at same
              rw [← same]
              constructor
              · refine ⟨behind, ?_, Text.contains_dropLast_of_split? opener_ne_nil split⟩
                exact firstHead?_append_right (textEq ▸ found) behind
              · rw [joined, ← bodyEq]
                simp [write, List.append_assoc]

/-- A statement keeps its table and its lead whatever its value list becomes. -/
theorem parse?_write_of_parse? {text : Text} {insert : Insert}
    (parsed : parse? text = some insert) (values : Text) :
    parse? (write insert.lead values) = some ⟨insert.table, insert.lead, values⟩ :=
  (isLead_of_parse? parsed).1.parse?_write values

/-- How the search for a head goes on behind a text and a double quote: the
head is complete, or its name ends there, or it may start there, or the search
starts afresh. -/
theorem firstHead?_append_quote_cases (front : Text) :
    (∃ table behind : Text, ∀ rest,
      firstHead? (front ++ '"' :: rest) = some (table, behind ++ '"' :: rest)) ∨
    (∃ table : Text, ∀ rest, firstHead? (front ++ '"' :: rest) = some (table, rest)) ∨
    (∀ rest, firstHead? (front ++ '"' :: rest) =
      (quotedName? ('"' :: rest)).or (firstHead? rest)) ∨
    (∀ rest, firstHead? (front ++ '"' :: rest) = firstHead? rest) := by
  induction front using WellFounded.induction (measure List.length).wf with
  | h front ih =>
      by_cases quoted : '"' ∈ front
      · obtain ⟨run, later, rfl, outside⟩ := List.eq_append_cons_of_mem quoted
        have shorter : later.length < (run ++ '"' :: later).length := by
          rw [List.length_append, List.length_cons]
          omega
        simp only [List.append_assoc, List.cons_append, firstHead?_append_quote outside]
        by_cases words : endsWithWords run = true
        · simp only [if_pos words]
          by_cases named : '"' ∈ later
          · obtain ⟨name, behind, rfl, free⟩ := List.eq_append_cons_of_mem named
            simp only [List.append_assoc, List.cons_append, quotedName?_append_quote free]
            by_cases empty : name = []
            · simp only [if_pos empty, Option.none_or]
              simpa only [List.append_assoc, List.cons_append] using ih _ shorter
            · simp only [if_neg empty, Option.some_or]
              exact Or.inl ⟨name, behind, fun _ => rfl⟩
          · simp only [quotedName?_append_quote named]
            by_cases empty : later = []
            · subst empty
              exact Or.inr (Or.inr (Or.inr fun _ => rfl))
            · simp only [if_neg empty, Option.some_or]
              exact Or.inr (Or.inl ⟨later, fun _ => rfl⟩)
        · simp only [if_neg words, Option.none_or]
          exact ih later shorter
      · by_cases words : endsWithWords front = true
        · refine Or.inr (Or.inr (Or.inl fun rest => ?_))
          rw [firstHead?_append_quote quoted, if_pos words]
        · refine Or.inr (Or.inr (Or.inr fun rest => ?_))
          rw [firstHead?_append_quote quoted, if_neg words, Option.none_or]

/-- A name that no words precede is passed over in the search for a head. -/
theorem firstHead?_passes {name : Text} (outside : '"' ∉ name)
    (noWords : endsWithWords name = false) (rest : Text) :
    firstHead? (name ++ '"' :: rest) = firstHead? rest := by
  rw [firstHead?_append_quote outside, noWords]
  rfl

end Insert

end SqlDump
