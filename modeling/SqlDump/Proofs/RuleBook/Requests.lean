import Mathlib.Data.List.Induction
import Mathlib.Data.List.Pairwise
import SqlDump.Proofs.Text.Order
import SqlDump.RuleBook.Requests

/-!
# The answers of a rule book

A rule book records what was entered: it holds for each table the rule entered last,
and no other rules.  Every request keeps this up, so all answers are those that are
due to the rules entered so far.
-/

namespace SqlDump

namespace RuleBook

variable {book : RuleBook} {history : List Rule}

/-! ## The tables of a book -/

/-- No two rules of the book are for the same table. -/
def IsApart (book : RuleBook) : Prop :=
  book.rules.Pairwise fun first second => first.table ≠ second.table

theorem IsApart.insert (apart : book.IsApart) (rule : Rule) : (book.insert rule).IsApart := by
  refine List.pairwise_cons.mpr ⟨fun other member => ?_, apart.filter _⟩
  have differs := (List.mem_filter.mp member).2
  exact fun same => of_decide_eq_true differs same.symm

theorem IsApart.find?_of_mem (apart : book.IsApart) {rule : Rule} (member : rule ∈ book.rules) :
    book.find? rule.table = some rule := by
  cases found : book.find? rule.table with
  | none => exact absurd (decide_eq_true rfl) (List.find?_eq_none.mp found rule member)
  | some other =>
      have same := table_of_find? found
      have symmetric : Std.Symm fun first second : Rule => first.table ≠ second.table :=
        ⟨fun _ _ differ => differ.symm⟩
      by_cases ne : other = rule
      · rw [ne]
      · exact absurd same (apart.forall (List.mem_of_find?_eq_some found) member ne)

theorem mem_tables_iff (book : RuleBook) (table : Text) :
    table ∈ book.tables ↔ (book.find? table).isSome := by
  rw [tables, List.mem_mergeSort, find?, List.find?_isSome, List.mem_map]
  exact exists_congr fun rule => and_congr_right fun _ => by rw [decide_eq_true_eq]

theorem IsApart.isIncreasing_tables (apart : book.IsApart) : IsIncreasing book.tables := by
  have sorted : book.tables.Pairwise fun first second => Text.le first second = true :=
    @List.pairwise_mergeSort Text Text.le (fun _ _ _ => Text.le_trans) Text.le_total _
  have distinct : book.tables.Nodup :=
    (List.mergeSort_perm _ _).nodup_iff.mpr (List.pairwise_map.mpr apart)
  exact sorted.imp₂ (fun _ _ => Text.bytes_lt_bytes) distinct

/-! ## What a book records -/

/-- The book holds for each table the rule entered last, and no other rules. -/
structure Records (book : RuleBook) (history : List Rule) : Prop where
  found : ∀ table, book.find? table = latest? history table
  apart : book.IsApart

theorem records_empty : empty.Records [] :=
  ⟨fun _ => rfl, .nil⟩

theorem Records.insert (records : book.Records history) (rule : Rule) :
    (book.insert rule).Records (history ++ [rule]) := by
  refine ⟨fun table => ?_, records.apart.insert rule⟩
  rw [latest?_concat]
  by_cases same : rule.table = table
  · rw [if_pos same, ← same, find?_insert_self]
  · rw [if_neg same, find?_insert_of_ne same, records.found]

theorem ofList_concat (rules : List Rule) (rule : Rule) :
    ofList (rules ++ [rule]) = (ofList rules).insert rule := by
  rw [ofList, List.foldl_append]
  rfl

theorem records_ofList (rules : List Rule) : (ofList rules).Records rules := by
  induction rules using List.reverseRecOn with
  | nil => exact records_empty
  | append_singleton rules rule ih =>
      rw [ofList_concat]
      exact ih.insert rule

/-! ## Requests -/

/-- A book that is not used up is made of the rules entered so far. -/
theorem eq_ofList_of_after? {start : List Rule} {requests : List Request}
    (reached : (ofList start).after? requests = some book) :
    book = ofList (start ++ requests.filterMap Request.entered?) := by
  induction requests generalizing start with
  | nil =>
      rw [List.filterMap_nil, List.append_nil]
      exact (Option.some.inj reached).symm
  | cons request requests ih =>
      cases request with
      | enter rule =>
          change ((ofList start).insert rule).after? requests = some book at reached
          rw [← ofList_concat] at reached
          rw [ih reached, List.append_assoc]
          rfl
      | find table => exact ih reached
      | tables => exact ih reached
      | take table => cases reached

/-- Every request gets the answer that is due to the rules entered so far. -/
theorem Records.isAnswered (records : book.Records history) (requests : List Request) :
    IsAnswered history requests (book.answers requests) := by
  induction requests generalizing book history with
  | nil => exact .nil history
  | cons request requests ih =>
      cases request with
      | enter rule =>
          rw [answers, answer, enter, records.found]
          exact .enter rule (ih (records.insert rule))
      | find table =>
          rw [answers, answer, records.found]
          exact .find table (ih records)
      | tables =>
          refine .tables records.apart.isIncreasing_tables (fun table => ?_) (ih records)
          rw [mem_tables_iff, records.found]
      | take table =>
          rw [answers, answer, take, records.found]
          exact .take history requests table

end RuleBook

end SqlDump
