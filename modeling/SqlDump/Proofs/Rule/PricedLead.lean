import SqlDump.Rule.Packages
import SqlDump.Proofs.Insert.Lead
import SqlDump.Proofs.Text.Replacing

/-!
# Leads with a price column

Putting the price column in front of each column pair keeps the lead of a
package insert a lead for packages.  The pair may stand anywhere, also in front
of the insert, and its first quote may be the one that closes the table name.
So a rebuilt insert still parses into its own table, lead and values.
-/

namespace SqlDump

namespace Packages

def columnsTail : Text :=
  "description\", \"display_order\"".toList

def pricedTail : Text :=
  "price\", \"description\", \"display_order\"".toList

theorem columns_eq_cons : columns = '"' :: columnsTail := by
  have whole : columns = _ := String.toList_ofList
  have tail : columnsTail = _ := String.toList_ofList
  rw [whole, tail]

theorem pricedColumns_eq_cons : pricedColumns = '"' :: pricedTail := by
  have whole : pricedColumns = _ := String.toList_ofList
  have tail : pricedTail = _ := String.toList_ofList
  rw [whole, tail]

theorem columns_ne_nil : columns ≠ [] := by
  rw [columns_eq_cons]
  exact List.cons_ne_nil _ _

theorem columnsTail_append (rest : Text) :
    columnsTail ++ rest =
      "description".toList ++ '"' ::
        (", ".toList ++ '"' :: ("display_order".toList ++ '"' :: rest)) := by
  have whole : columnsTail = "description".toList ++ '"' ::
      (", ".toList ++ '"' :: ("display_order".toList ++ ['"'])) := by
    have tail : columnsTail = _ := String.toList_ofList
    have description : "description".toList = _ := String.toList_ofList
    have order : "display_order".toList = _ := String.toList_ofList
    rw [tail, description, order]
    rfl
  rw [whole]
  simp only [List.append_assoc, List.cons_append, List.nil_append]

theorem pricedTail_append (rest : Text) :
    pricedTail ++ rest =
      "price".toList ++ '"' :: (", ".toList ++ '"' :: (columnsTail ++ rest)) := by
  have whole : pricedTail = "price".toList ++ '"' :: (", ".toList ++ '"' :: columnsTail) := by
    have tail : pricedTail = _ := String.toList_ofList
    have shared : columnsTail = _ := String.toList_ofList
    rw [tail, shared]
    rfl
  rw [whole]
  simp only [List.append_assoc, List.cons_append]

/-- No insert head starts among the columns. -/
theorem firstHead?_columnsTail (rest : Text) :
    Insert.firstHead? (columnsTail ++ rest) = Insert.firstHead? rest := by
  rw [columnsTail_append, Insert.firstHead?_passes (by decide) (by decide),
    Insert.firstHead?_passes (by decide) (by decide),
    Insert.firstHead?_passes (by decide) (by decide)]

theorem firstHead?_pricedTail (rest : Text) :
    Insert.firstHead? (pricedTail ++ rest) = Insert.firstHead? rest := by
  rw [pricedTail_append, Insert.firstHead?_passes (by decide) (by decide),
    Insert.firstHead?_passes (by decide) (by decide), firstHead?_columnsTail]

/-- No opener lies among the columns or reaches into them. -/
theorem contains_opener_columnsTail (rest : Text) :
    Text.contains Insert.opener (columnsTail ++ rest) = Text.contains Insert.opener rest := by
  rw [columnsTail_append, Text.contains_append_cons Insert.quote_notMem_opener,
    Text.contains_append_cons Insert.quote_notMem_opener,
    Text.contains_append_cons Insert.quote_notMem_opener]
  rfl

theorem contains_opener_pricedTail (rest : Text) :
    Text.contains Insert.opener (pricedTail ++ rest) = Text.contains Insert.opener rest := by
  rw [pricedTail_append, Text.contains_append_cons Insert.quote_notMem_opener,
    Text.contains_append_cons Insert.quote_notMem_opener, contains_opener_columnsTail]
  rfl

theorem isLead_priced_one {before after : Text}
    (isLead : Insert.IsLead table (before ++ columns ++ after)) :
    Insert.IsLead table (before ++ pricedColumns ++ after) := by
  obtain ⟨behind, found, first⟩ := isLead
  rw [columns_eq_cons, List.append_assoc, List.cons_append] at found
  rw [Insert.IsLead, pricedColumns_eq_cons, List.append_assoc, List.cons_append]
  rcases Insert.firstHead?_append_quote_cases before with
    ⟨name, start, complete⟩ | ⟨name, closes⟩ | opens | afresh
  · rw [complete] at found ⊢
    obtain ⟨rfl, rfl⟩ := Prod.mk.inj (Option.some.inj found)
    refine ⟨_, rfl, ?_⟩
    rw [List.append_assoc, List.cons_append, List.append_assoc,
      Text.contains_append_cons Insert.quote_notMem_opener] at first ⊢
    rw [contains_opener_columnsTail] at first
    rw [contains_opener_pricedTail, first]
  · rw [closes] at found ⊢
    obtain ⟨rfl, rfl⟩ := Prod.mk.inj (Option.some.inj found)
    refine ⟨_, rfl, ?_⟩
    rw [List.append_assoc, contains_opener_columnsTail] at first
    rw [List.append_assoc, contains_opener_pricedTail, first]
  · -- the insert would go into a table named like the first column
    rw [opens, columnsTail_append, Insert.quotedName?_append_quote (by decide),
      if_neg (by decide), Option.some_or] at found
    have named := (Prod.mk.inj (Option.some.inj found)).1
    exact absurd named (by decide)
  · rw [afresh, firstHead?_columnsTail] at found
    rw [afresh, firstHead?_pricedTail]
    exact ⟨behind, found, first⟩

theorem isLead_pricedLead {lead : Text} (isLead : Insert.IsLead table lead) :
    Insert.IsLead table (pricedLead lead) :=
  Text.replaceAll_induction (fun _ _ => isLead_priced_one) isLead

end Packages

namespace Insert

/-- Rebuilding an insert moves neither its table nor its lead nor its value
list, whatever the new values are.  An insert for packages may have the price
column put in front of each column pair of its lead on the way. -/
theorem parse?_ofValues {text : Text} {insert : Insert} (parsed : parse? text = some insert)
    (values : List Value) :
    let pair := "\"description\", \"display_order\"".toList
    let pricedPair := "\"price\", \"description\", \"display_order\"".toList
    let priced := Text.replaceAll pair pricedPair insert.lead
    Text.Replaced pair pricedPair insert.lead priced ∧
      parse? (ofValues insert.lead values) =
        some ⟨insert.table, insert.lead, ValueList.write values⟩ ∧
      (insert.table = "packages".toList →
        parse? (ofValues priced values) =
          some ⟨"packages".toList, priced, ValueList.write values⟩) := by
  intro pair pricedPair priced
  refine ⟨Text.replaced_replaceAll Packages.columns_ne_nil insert.lead,
    parse?_write_of_parse? parsed _, fun forPackages => ?_⟩
  have isLead := (isLead_of_parse? parsed).1
  rw [forPackages] at isLead
  exact (Packages.isLead_pricedLead isLead).parse?_write _

/-- The pair may reach into the closing quote of the table name, and the values
may look like another insert. -/
theorem parse?_ofValues_packages :
    let lead := "INSERT OR REPLACE INTO \"packages\"description\", \"display_order\" ".toList
    let priced :=
      "INSERT OR REPLACE INTO \"packages\"price\", \"description\", \"display_order\" ".toList
    let pair := "\"description\", \"display_order\"".toList
    let pricedPair := "\"price\", \"description\", \"display_order\"".toList
    let values : List Value := [.bare "1); VALUES (2".toList, .quoted "INSERT OR".toList]
    let written := "1); VALUES (2, INSERT OR".toList
    parse? (lead ++ "VALUES (1);".toList) = some ⟨"packages".toList, lead, "1".toList⟩ ∧
      Text.Replaced pair pricedPair lead priced ∧
      parse? (ofValues lead values) = some ⟨"packages".toList, lead, written⟩ ∧
      parse? (ofValues priced values) = some ⟨"packages".toList, priced, written⟩ := by
  intro lead priced pair pricedPair values written
  have wholeLead : lead = _ := String.toList_ofList
  have wholePair : pair = _ := String.toList_ofList
  have front : "INSERT OR REPLACE INTO \"packages".toList = _ := String.toList_ofList
  have parsed : parse? (lead ++ "VALUES (1);".toList) =
      some ⟨"packages".toList, lead, "1".toList⟩ := by
    rw [wholeLead]
    rfl
  have divided : Text.split? pair lead =
      some ("INSERT OR REPLACE INTO \"packages".toList, " ".toList) := by
    rw [wholePair, wholeLead, front]
    rfl
  have last : Text.split? pair " ".toList = none := rfl
  have pair_ne_nil : pair ≠ [] := Packages.columns_ne_nil
  have moved : Text.replaceAll pair pricedPair lead = priced := by
    have wholePricedPair : pricedPair = _ := String.toList_ofList
    have wholePriced : priced = _ := String.toList_ofList
    rw [Text.replaceAll_of_split?_eq_some pair_ne_nil divided,
      Text.replaceAll_of_split?_eq_none last, front, wholePricedPair, wholePriced]
    rfl
  have joined : ValueList.write values = written := rfl
  obtain ⟨replaced, kept, pricedToo⟩ := parse?_ofValues parsed values
  rw [← moved, ← joined]
  exact ⟨parsed, replaced, kept, pricedToo rfl⟩

end Insert

end SqlDump
