import SqlDump.Proofs.Rule.PricedLead

/-!
# Pricing a column list

The column pair is looked for as text, in the whole lead.  In a list of quoted
columns it is found exactly where a description column is followed by a display
order column, and no occurrence reaches into the list from outside.  So the list
becomes the one with the price column.
-/

namespace SqlDump

namespace Insert

/-- Quoted names at the start of texts can be told apart. -/
theorem eq_of_quoteName_prefix {name word more rest : Text} (free : '"' ∉ name)
    (freeToo : '"' ∉ word) (start : word ++ '"' :: more <+: name ++ '"' :: rest) :
    word = name ∧ more <+: rest := by
  induction name generalizing word with
  | nil =>
      cases word with
      | nil => exact ⟨rfl, (List.cons_prefix_cons.mp start).2⟩
      | cons c word =>
          obtain ⟨rfl, _⟩ := List.cons_prefix_cons.mp start
          exact absurd List.mem_cons_self freeToo
  | cons d name ih =>
      cases word with
      | nil =>
          obtain ⟨rfl, _⟩ := List.cons_prefix_cons.mp start
          exact absurd List.mem_cons_self free
      | cons c word =>
          rw [List.mem_cons, not_or] at free freeToo
          obtain ⟨rfl, later⟩ := List.cons_prefix_cons.mp start
          obtain ⟨rfl, further⟩ := ih free.2 freeToo.2 later
          exact ⟨rfl, further⟩

def furtherColumns : List Text → Text
  | [] => []
  | column :: rest => ", ".toList ++ columnList (column :: rest)

theorem columnList_cons (column : Text) (rest : List Text) :
    columnList (column :: rest) = '"' :: (column ++ '"' :: furtherColumns rest) := by
  cases rest with
  | nil => simp [columnList, quoteName, furtherColumns, List.intercalate]
  | cons following rest =>
      simp [columnList, quoteName, furtherColumns, List.intercalate_cons_cons]

end Insert

namespace Packages

variable {column following : Text} {names rest result : List Text}

theorem pair_of_prefix (free : ∀ name ∈ column :: rest, '"' ∉ name)
    (start : columns <+: Insert.columnList (column :: rest)) :
    column = "description".toList ∧ rest.head? = some "display_order".toList := by
  rw [columns_eq_cons, ← List.append_nil columnsTail, columnsTail_append, Insert.columnList_cons,
    List.cons_prefix_cons] at start
  obtain ⟨rfl, behind⟩ :=
    Insert.eq_of_quoteName_prefix (free _ List.mem_cons_self) (by decide) start.2
  cases rest with
  | nil => exact absurd behind (by decide)
  | cons following rest =>
      rw [Insert.furtherColumns, Insert.columnList_cons, List.prefix_append_right_inj,
        List.cons_prefix_cons] at behind
      have freeToo : '"' ∉ following := free _ (by simp)
      obtain ⟨rfl, _⟩ := Insert.eq_of_quoteName_prefix freeToo (by decide) behind.2
      exact ⟨rfl, rfl⟩

theorem columnList_pair (rest : List Text) :
    Insert.columnList ("description".toList :: "display_order".toList :: rest) =
      columns ++ Insert.furtherColumns rest := by
  rw [columns_eq_cons, List.cons_append, columnsTail_append, Insert.columnList_cons,
    Insert.furtherColumns, Insert.columnList_cons]

theorem columnList_price_pair (rest : List Text) :
    Insert.columnList
        ("price".toList :: "description".toList :: "display_order".toList :: rest) =
      pricedColumns ++ Insert.furtherColumns rest := by
  rw [pricedColumns_eq_cons, List.cons_append, pricedTail_append, Insert.columnList_cons,
    Insert.furtherColumns, columnList_pair, columns_eq_cons, List.cons_append]

/-- No pair starts at the quote that closes a name. -/
theorem not_prefix_of_closing (rest : List Text) :
    ¬ columns <+: '"' :: Insert.furtherColumns rest := by
  rw [columns_eq_cons, List.cons_prefix_cons]
  rintro ⟨_, behind⟩
  cases rest with
  | nil => exact absurd behind (by decide)
  | cons following rest =>
      have tail : columnsTail = _ := String.toList_ofList
      have comma : ", ".toList = _ := String.toList_ofList
      rw [Insert.furtherColumns, tail, comma, List.cons_append, List.cons_prefix_cons] at behind
      exact absurd behind.1 (by decide)

theorem not_infix_of_notMem (free : 'd' ∉ text) : ¬ columns <:+: text := by
  have whole : columns = _ := String.toList_ofList
  intro inside
  exact free (inside.subset (by rw [whole]; simp))

theorem replaced_cons (free : '"' ∉ column)
    (apart : ¬ columns <+: Insert.columnList (column :: rest))
    (behind : Text.Replaced columns pricedColumns (Insert.furtherColumns rest)
      (Insert.furtherColumns result)) :
    Text.Replaced columns pricedColumns (Insert.columnList (column :: rest))
      (Insert.columnList (column :: result)) := by
  rw [Insert.columnList_cons] at apart ⊢
  rw [Insert.columnList_cons]
  have closed := behind.cons (not_prefix_of_closing rest)
  rw [columns_eq_cons] at closed apart ⊢
  exact (closed.append free).cons apart

theorem replaced_further
    (listed : Text.Replaced columns pricedColumns (Insert.columnList names)
      (Insert.columnList (withPrice names))) :
    Text.Replaced columns pricedColumns (Insert.furtherColumns names)
      (Insert.furtherColumns (withPrice names)) := by
  cases names with
  | nil => exact listed
  | cons column rest =>
      obtain ⟨first, others, priced⟩ :=
        List.exists_cons_of_ne_nil (withPrice_cons_ne_nil column rest)
      rw [priced] at listed ⊢
      rw [columns_eq_cons] at listed ⊢
      have outside : '"' ∉ ", ".toList := by decide
      exact listed.append outside

/-- Behind a pair the list is priced like the columns further on. -/
theorem replaced_pair
    (behind : Text.Replaced columns pricedColumns (Insert.furtherColumns rest)
      (Insert.furtherColumns result)) :
    Text.Replaced columns pricedColumns
      (Insert.columnList ("description".toList :: "display_order".toList :: rest))
      (Insert.columnList
        ("price".toList :: "description".toList :: "display_order".toList :: result)) := by
  rw [columnList_pair, columnList_price_pair]
  have first : ¬ columns <:+: [] ++ columns.dropLast := fun inside => by
    have shorter := inside.length_le
    have filled := List.length_pos_iff.mpr columns_ne_nil
    rw [List.nil_append, List.length_dropLast] at shorter
    omega
  exact .next first behind

/-- Putting the price column in makes a column list the one with the price. -/
theorem replaced_columnList (free : ∀ name ∈ names, '"' ∉ name) :
    Text.Replaced columns pricedColumns (Insert.columnList names)
      (Insert.columnList (withPrice names)) := by
  fun_induction withPrice names with
  | case1 => exact .rest (not_infix_of_notMem List.not_mem_nil)
  | case2 column =>
      -- a pair has two columns
      refine replaced_cons (free _ List.mem_cons_self) (fun start => ?_)
        (.rest (not_infix_of_notMem List.not_mem_nil))
      obtain ⟨_, behind⟩ := pair_of_prefix free start
      cases behind
  | case3 column following rest pair ih =>
      obtain ⟨rfl, rfl⟩ := pair
      exact replaced_pair
        (replaced_further (ih fun name member => free name (by simp [member])))
  | case4 column following rest other ih =>
      have behind :=
        replaced_further (ih fun name member => free name (List.mem_cons_of_mem _ member))
      refine replaced_cons (free _ List.mem_cons_self) (fun start => other ?_) behind
      obtain ⟨described, ordered⟩ := pair_of_prefix free start
      exact ⟨described, Option.some.inj ordered⟩

/-- What stands between a preamble and the column list of a package insert, but
for the first letter and the opening parenthesis. -/
def packagesHead : Text :=
  "NSERT OR REPLACE INTO \"packages\" ".toList

theorem namedLead_packages (preamble : Text) (names : List Text) :
    Insert.namedLead preamble table names =
      preamble ++ 'I' :: (packagesHead ++ '(' :: (Insert.columnList names ++ [')', ' '])) := by
  have head : "INSERT OR REPLACE INTO ".toList ++ (Insert.quoteName table ++ " (".toList) =
      'I' :: (packagesHead ++ ['(']) := by
    have words : "INSERT OR REPLACE INTO ".toList = _ := String.toList_ofList
    have between : packagesHead = _ := String.toList_ofList
    rw [words, between]
    rfl
  have tail : ") ".toList = [')', ' '] := String.toList_ofList
  simp only [Insert.namedLead, List.append_assoc, tail]
  rw [← List.append_assoc (Insert.quoteName table),
    ← List.append_assoc "INSERT OR REPLACE INTO ".toList, head]
  simp only [List.cons_append, List.append_assoc, List.nil_append]

/-- No occurrence reaches into or out of the parentheses, so the preamble and
the column list are priced each on its own. -/
theorem pricedLead_namedLead (preamble : Text) (free : ∀ name ∈ names, '"' ∉ name) :
    pricedLead (Insert.namedLead preamble table names) =
      Insert.namedLead (pricedLead preamble) table (withPrice names) := by
  have outside : 'I' ∉ columns ∧ '(' ∉ columns ∧ ')' ∉ columns := by
    have whole : columns = _ := String.toList_ofList
    rw [whole]
    decide
  have front : Text.Replaced columns pricedColumns preamble (pricedLead preamble) :=
    Text.replaced_replaceAll columns_ne_nil preamble
  have head : Text.Replaced columns pricedColumns packagesHead packagesHead :=
    .rest (not_infix_of_notMem (by decide))
  have tail : Text.Replaced columns pricedColumns [' '] [' '] :=
    .rest (not_infix_of_notMem (by decide))
  have list := (replaced_columnList free).append_cons outside.2.2 tail
  have whole := front.append_cons outside.1 (head.append_cons outside.2.1 list)
  rw [namedLead_packages, namedLead_packages]
  exact (whole.eq_replaceAll columns_ne_nil).symm

end Packages

end SqlDump
