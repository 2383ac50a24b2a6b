import SqlDump.Text

/-!
# Outcomes

A statement comes out of a pass revised, unchanged or not at all.  `Tally`
counts the outcomes of a pass.
-/

namespace SqlDump

inductive Treatment where
  | revised
  | passed
  | dropped
  deriving DecidableEq, Repr

namespace Treatment

def word : Treatment → Text
  | .revised => "rewritten".toList
  | .passed => "passed through".toList
  | .dropped => "dropped".toList

end Treatment

inductive Outcome where
  | revised (statement : Text)
  | passed (statement : Text)
  | dropped
  deriving DecidableEq, Repr

namespace Outcome

def treatment : Outcome → Treatment
  | .revised _ => .revised
  | .passed _ => .passed
  | .dropped => .dropped

def text? : Outcome → Option Text
  | .revised statement => some statement
  | .passed statement => some statement
  | .dropped => none

end Outcome

/-- The number of statements of a pass, in all and by treatment. -/
structure Tally where
  statements : Nat
  revised : Nat
  passed : Nat
  dropped : Nat
  deriving DecidableEq, Repr

namespace Tally

def zero : Tally :=
  ⟨0, 0, 0, 0⟩

def record (tally : Tally) : Treatment → Tally
  | .revised => { tally with statements := tally.statements + 1, revised := tally.revised + 1 }
  | .passed => { tally with statements := tally.statements + 1, passed := tally.passed + 1 }
  | .dropped => { tally with statements := tally.statements + 1, dropped := tally.dropped + 1 }

def ofTreatments (treatments : List Treatment) : Tally :=
  treatments.foldl record zero

/-- Whether each statement is counted under exactly one treatment. -/
def Balanced (tally : Tally) : Prop :=
  tally.statements = tally.revised + tally.passed + tally.dropped

theorem Balanced.record {tally : Tally} (balanced : tally.Balanced) (treatment : Treatment) :
    (tally.record treatment).Balanced := by
  cases treatment <;> simp only [Balanced, Tally.record] at balanced ⊢ <;> omega

theorem balanced_ofTreatments (treatments : List Treatment) :
    (ofTreatments treatments).Balanced := by
  suffices ∀ tally : Tally, tally.Balanced → (treatments.foldl Tally.record tally).Balanced from
    this zero rfl
  induction treatments with
  | nil => exact fun _ balanced => balanced
  | cons treatment rest ih => exact fun tally balanced => ih _ (balanced.record treatment)

theorem foldl_record (treatments : List Treatment) (tally : Tally) :
    treatments.foldl record tally =
      ⟨tally.statements + treatments.length, tally.revised + treatments.count .revised,
        tally.passed + treatments.count .passed, tally.dropped + treatments.count .dropped⟩ := by
  induction treatments generalizing tally with
  | nil => rfl
  | cons treatment rest ih =>
      rw [List.foldl_cons, ih]
      cases treatment <;>
        simp [record, Nat.add_comm, Nat.add_left_comm]

theorem ofTreatments_eq_count (treatments : List Treatment) :
    ofTreatments treatments =
      ⟨treatments.length, treatments.count .revised, treatments.count .passed,
        treatments.count .dropped⟩ := by
  rw [ofTreatments, foldl_record]
  simp only [zero, Nat.zero_add]

end Tally

end SqlDump
