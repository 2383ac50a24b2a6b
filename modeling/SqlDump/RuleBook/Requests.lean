import SqlDump.RuleBook

/-!
# Requests to a rule book

A rule book is asked to enter a rule, to find one, for the tables it has rules
for, or to give up a rule.  Giving up a rule uses the book up.

Whatever was asked before, the answers depend on nothing but the rules entered so
far: the rule for a table is the last one that was entered for it.
-/

namespace SqlDump

inductive Request where
  | enter (rule : Rule)
  | find (table : Text)
  | tables
  | take (table : Text)

inductive Answer where
  | rule (rule? : Option Rule)
  | tables (tables : List Text)

namespace Request

def entered? : Request → Option Rule
  | .enter rule => some rule
  | _ => none

end Request

namespace RuleBook

def answer (book : RuleBook) : Request → Answer
  | .enter rule => .rule (book.enter rule).1
  | .find table => .rule (book.find? table)
  | .tables => .tables book.tables
  | .take table => .rule (book.take table).1

def next? (book : RuleBook) : Request → Option RuleBook
  | .enter rule => some (book.enter rule).2
  | .find _ => some book
  | .tables => some book
  | .take _ => none

/-- The answers to requests, one after the other, as long as there is a book. -/
def answers (book : RuleBook) : List Request → List Answer
  | [] => []
  | request :: requests =>
      book.answer request ::
        match book.next? request with
        | some next => next.answers requests
        | none => []

def after? (book : RuleBook) : List Request → Option RuleBook
  | [] => some book
  | request :: requests =>
      match book.next? request with
      | some next => next.after? requests
      | none => none

/-! ## Answers from the rules entered so far -/

def latest? (history : List Rule) (table : Text) : Option Rule :=
  (history.filter (·.table = table)).getLast?

theorem latest?_concat (history : List Rule) (rule : Rule) (table : Text) :
    latest? (history ++ [rule]) table =
      if rule.table = table then some rule else latest? history table := by
  rw [latest?, List.filter_append]
  by_cases same : rule.table = table
  · simp [same]
  · simp [same, latest?]

/-- The tables in the order of their bytes, each of them once. -/
def IsIncreasing (tables : List Text) : Prop :=
  tables.Pairwise fun first second => Text.bytes first < Text.bytes second

/-- The answers that are due to requests if `history` has been entered before, in the
order in which it was entered. -/
inductive IsAnswered : List Rule → List Request → List Answer → Prop where
  | nil (history : List Rule) : IsAnswered history [] []
  | enter {history : List Rule} {requests : List Request} {answers : List Answer} (rule : Rule)
      (rest : IsAnswered (history ++ [rule]) requests answers) :
      IsAnswered history (.enter rule :: requests)
        (.rule (latest? history rule.table) :: answers)
  | find {history : List Rule} {requests : List Request} {answers : List Answer} (table : Text)
      (rest : IsAnswered history requests answers) :
      IsAnswered history (.find table :: requests) (.rule (latest? history table) :: answers)
  | tables {history : List Rule} {requests : List Request} {answers : List Answer}
      {tables : List Text} (increasing : IsIncreasing tables)
      (exact : ∀ table, table ∈ tables ↔ (latest? history table).isSome)
      (rest : IsAnswered history requests answers) :
      IsAnswered history (.tables :: requests) (.tables tables :: answers)
  | take (history : List Rule) (requests : List Request) (table : Text) :
      IsAnswered history (.take table :: requests) [.rule (latest? history table)]

end RuleBook

/-! ## Rules under keys

Rules may be kept under keys, each rule under the table that it had when it was
entered.  As every rule stands under its own table, the keys can be left out: what
remains is a rule book, and it holds the same rules for the same tables. -/

/-- Rules and the keys that they stand under, the one entered last in front. -/
structure KeyedRules where
  entries : List (Text × Rule)

namespace KeyedRules

def empty : KeyedRules :=
  ⟨[]⟩

def find? (kept : KeyedRules) (key : Text) : Option Rule :=
  (kept.entries.find? (·.1 = key)).map Prod.snd

def erase (kept : KeyedRules) (key : Text) : KeyedRules :=
  ⟨kept.entries.filter (·.1 ≠ key)⟩

def enter (kept : KeyedRules) (rule : Rule) : Option Rule × KeyedRules :=
  (kept.find? rule.table, ⟨(rule.table, rule) :: (kept.erase rule.table).entries⟩)

def take (kept : KeyedRules) (key : Text) : Option Rule × KeyedRules :=
  (kept.find? key, kept.erase key)

def tables (kept : KeyedRules) : List Text :=
  (kept.entries.map Prod.fst).mergeSort Text.le

def ofList (rules : List Rule) : KeyedRules :=
  rules.foldl (fun kept rule => (kept.enter rule).2) empty

def book (kept : KeyedRules) : RuleBook :=
  ⟨kept.entries.map Prod.snd⟩

/-- Every rule stands under its own table. -/
def IsFiled (kept : KeyedRules) : Prop :=
  ∀ entry ∈ kept.entries, entry.2.table = entry.1

variable {kept : KeyedRules}

theorem isFiled_erase (filed : kept.IsFiled) (key : Text) : (kept.erase key).IsFiled :=
  fun entry member => filed entry (List.mem_filter.mp member).1

theorem isFiled_enter (filed : kept.IsFiled) (rule : Rule) : (kept.enter rule).2.IsFiled := by
  intro entry member
  rcases List.mem_cons.mp member with rfl | member
  · rfl
  · exact isFiled_erase filed rule.table entry member

theorem find?_book (filed : kept.IsFiled) (table : Text) :
    kept.book.find? table = kept.find? table := by
  rw [RuleBook.find?, book, List.find?_map, find?, ← List.head?_filter, ← List.head?_filter]
  congr 2
  exact List.filter_congr fun entry member => by
    rw [Function.comp_apply, filed entry member]

theorem book_erase (filed : kept.IsFiled) (table : Text) :
    (kept.erase table).book = kept.book.erase table := by
  rw [RuleBook.erase, book, book, erase, List.filter_map]
  congr 2
  exact List.filter_congr fun entry member => by
    rw [Function.comp_apply, filed entry member]

theorem enter_book (filed : kept.IsFiled) (rule : Rule) :
    kept.book.enter rule = ((kept.enter rule).1, (kept.enter rule).2.book) := by
  rw [RuleBook.enter, RuleBook.insert, find?_book filed, ← book_erase filed]
  rfl

theorem take_book (filed : kept.IsFiled) (table : Text) :
    kept.book.take table = ((kept.take table).1, (kept.take table).2.book) := by
  rw [RuleBook.take, find?_book filed, ← book_erase filed]
  rfl

theorem tables_book (filed : kept.IsFiled) : kept.book.tables = kept.tables := by
  rw [RuleBook.tables, tables, book, List.map_map]
  congr 1
  exact List.map_congr_left fun entry member => filed entry member

/-- Whatever rules are entered, every rule stands under its own table, and without
the keys the rules are those of a rule book. -/
theorem isFiled_ofList (rules : List Rule) :
    (ofList rules).IsFiled ∧ (ofList rules).book = RuleBook.ofList rules := by
  suffices ∀ kept : KeyedRules, kept.IsFiled →
      (rules.foldl (fun kept rule => (kept.enter rule).2) kept).IsFiled ∧
        (rules.foldl (fun kept rule => (kept.enter rule).2) kept).book =
          rules.foldl RuleBook.insert kept.book from this empty nofun
  induction rules with
  | nil => exact fun _ filed => ⟨filed, rfl⟩
  | cons rule rules ih =>
      intro kept filed
      have entered : kept.book.insert rule = (kept.enter rule).2.book :=
        congrArg Prod.snd (enter_book filed rule)
      rw [List.foldl_cons, List.foldl_cons, entered]
      exact ih _ (isFiled_enter filed rule)

end KeyedRules

end SqlDump
