import SqlDump.Proofs.Rule.Settling
import SqlDump.Proofs.Value.Quoting

/-!
# The rule for members settles

A filled row has no null value at a place that the rule looks at, so it is kept.
Filling changes no number of values and writes only the word for a missing one.
-/

namespace SqlDump

namespace Members

theorem isCanonical_missing : missing.IsCanonical :=
  Value.isCanonical_quote "MISSING".toList

theorem length_fill (values : List Value) : (fill values).length = values.length := by
  rw [fill, List.length_mapIdx]

/-- A filled value is what was written, or the word for a missing value. -/
theorem eq_or_eq_missing (position : Nat) (value : Value) :
    (if identity.contains position && value.isNull then missing else value) = value ∨
      (if identity.contains position && value.isNull then missing else value) = missing := by
  split
  · exact Or.inr rfl
  · exact Or.inl rfl

theorem forall₂_mapIdx {α β : Type} {relation : β → α → Prop} {change : Nat → α → β}
    (each : ∀ position item, relation (change position item) item) (items : List α) :
    List.Forall₂ relation (items.mapIdx change) items := by
  induction items generalizing change with
  | nil => exact .nil
  | cons item rest ih =>
      rw [List.mapIdx_cons]
      exact .cons (each 0 item) (ih fun position => each (position + 1))

theorem calmer_fill (values : List Value) :
    Watch.Calmer (ValueList.write (fill values)) (ValueList.write values) := by
  have quiet : missing.text.all Watch.isQuiet = true := by decide
  refine ValueList.calmer_write (forall₂_mapIdx (fun position value => ?_) values)
  rcases eq_or_eq_missing position value with same | same
  · rw [same]
    exact Watch.Calmer.refl value.text
  · rw [same]
    exact Watch.calmer_of_quiet quiet value.text

theorem isCanonical_fill {values : List Value} (canonical : ∀ value ∈ values, value.IsCanonical) :
    ∀ value ∈ fill values, value.IsCanonical := by
  intro value member
  obtain ⟨position, inside, rfl⟩ := List.mem_mapIdx.mp member
  rcases eq_or_eq_missing position values[position] with same | same
  · rw [same]
    exact canonical _ (List.getElem_mem inside)
  · rw [same]
    exact isCanonical_missing

theorem isNullAt_fill (values : List Value) {position : Nat} (watched : position ∈ identity) :
    isNullAt (fill values) position = false := by
  have contained : identity.contains position = true := List.contains_iff_mem.mpr watched
  have proper : missing.isNull = false := by decide
  rw [isNullAt, fill, List.getElem?_mapIdx]
  cases values[position]? with
  | none => rfl
  | some value =>
      rw [Option.map_some, Option.any_some, contained, Bool.true_and]
      cases null : value.isNull with
      | true => exact proper
      | false => exact null

/-- A row is revised only by filling it, and only if it has enough values. -/
theorem eq_fill_of_revises {row next : Row} (revises : Rule.members.Revises row next) :
    leastCount ≤ row.values.length ∧ next = { row with values := fill row.values } := by
  obtain ⟨notices, decided⟩ := revises
  change apply row = _ at decided
  unfold apply at decided
  split at decided
  · cases decided
  · next enough =>
      split at decided
      · cases decided
      · split at decided
        · exact ⟨Nat.le_of_not_lt enough,
            (Verdict.revise.inj (Prod.mk.inj decided).1).symm⟩
        · cases decided

theorem isSettling : Rule.members.IsSettling where
  lead := by
    intro row next revises isLead
    obtain ⟨_, rfl⟩ := eq_fill_of_revises revises
    exact isLead
  effect := by
    intro row next revises watch
    obtain ⟨_, rfl⟩ := eq_fill_of_revises revises
    rfl
  canonical := by
    intro row next revises canonical
    obtain ⟨enough, rfl⟩ := eq_fill_of_revises revises
    refine ⟨isCanonical_fill canonical, fun single => ?_⟩
    have counted := congrArg List.length single
    rw [length_fill, List.length_singleton] at counted
    rw [counted] at enough
    exact absurd enough (by decide)
  calmer := by
    intro row next revises _
    obtain ⟨_, rfl⟩ := eq_fill_of_revises revises
    exact calmer_fill row.values
  settled := by
    intro row next revises
    obtain ⟨enough, rfl⟩ := eq_fill_of_revises revises
    refine ⟨[], ?_⟩
    have first : isNullAt (fill row.values) firstName = false := isNullAt_fill _ (by decide)
    have none_ : identity.any (isNullAt (fill row.values)) = false := by
      rw [List.any_eq_false]
      intro position watched
      rw [isNullAt_fill row.values watched]
      exact Bool.false_ne_true
    change apply _ = _
    rw [apply, length_fill, if_neg (Nat.not_lt.mpr enough), first, none_]
    rfl

end Members

end SqlDump
