import SqlDump.Proofs.Rule.PricedLead
import SqlDump.Proofs.Rule.Members

/-!
# The rule for packages settles

A priced row has five values, so the rule does not look at it again.  The price
is a bare word, and cleaning a description removes only signs and blanks that
have no part in the end of a statement.
-/

namespace SqlDump

namespace Price

def IsPrice (price : Text) : Prop :=
  price ≠ [] ∧ price.all Char.isDigit = true

theorem isPrice_of_marker? {text digits : Text} (found : marker? text = some digits) :
    IsPrice digits := by
  unfold marker? at found
  split at found
  · cases found
  · next rest _ =>
      split at found
      · next d others _ taken _ =>
          have same := Option.some.inj found
          have all : (rest.takeWhile Char.isDigit).all Char.isDigit = true := List.all_takeWhile
          rw [taken, same] at all
          exact ⟨same ▸ List.cons_ne_nil d others, all⟩
      · cases found

theorem isPrice_of_firstMarker? {text digits : Text} (found : firstMarker? text = some digits) :
    IsPrice digits := by
  induction text with
  | nil => cases found
  | cons c rest ih =>
      rw [firstMarker?] at found
      split at found
      · next first marked =>
          have same := Option.some.inj found
          exact same ▸ isPrice_of_marker? marked
      · exact ih found

theorem isPrice_withoutLeadingZeros {digits : Text} (isPrice : IsPrice digits) :
    IsPrice (withoutLeadingZeros digits) := by
  rw [withoutLeadingZeros]
  split
  · exact ⟨by decide, by decide⟩
  · next d rest kept =>
      refine ⟨List.cons_ne_nil d rest, ?_⟩
      rw [← kept, List.all_eq_true]
      intro c member
      exact List.all_eq_true.mp isPrice.2 c ((List.dropWhile_sublist _).subset member)

theorem isPrice_of_split? {description price cleaned : Text}
    (found : split? description = some (price, cleaned)) :
    IsPrice price ∧ cleaned = clean price description := by
  unfold split? at found
  split at found
  · cases found
  · next digits marked =>
      obtain ⟨rfl, rfl⟩ := Prod.mk.inj (Option.some.inj found)
      exact ⟨isPrice_withoutLeadingZeros (isPrice_of_firstMarker? marked), rfl⟩

theorem isBlank_of_isDigit {c : Char} (digit : c.isDigit = true) : Text.isBlank c = false := by
  have range : 48 ≤ c.toNat ∧ c.toNat ≤ 57 := by
    rw [Char.isDigit, Bool.and_eq_true, decide_eq_true_eq, decide_eq_true_eq] at digit
    exact ⟨UInt32.le_iff_toNat_le.mp digit.1, UInt32.le_iff_toNat_le.mp digit.2⟩
  simp only [Text.isBlank, Text.blankRanges, List.any_cons, List.any_nil, Bool.or_false,
    Bool.or_eq_false_iff, Bool.and_eq_false_iff, decide_eq_false_iff_not]
  omega

theorem isWordChar_of_isDigit {c : Char} (digit : c.isDigit = true) :
    Value.isWordChar c = true := by
  have notQuote : c ≠ '\'' := by rintro rfl; cases digit
  have notComma : c ≠ ',' := by rintro rfl; cases digit
  have notOpen : c ≠ '(' := by rintro rfl; cases digit
  have notClose : c ≠ ')' := by rintro rfl; cases digit
  simp [Value.isWordChar, ValueList.isPlain, isBlank_of_isDigit digit, notQuote, notComma, notOpen,
    notClose]

theorem isQuiet_of_isDigit {c : Char} (digit : c.isDigit = true) : Watch.isQuiet c = true := by
  have notBreak : c ≠ '\n' := by rintro rfl; cases digit
  have notClose : c ≠ ')' := by rintro rfl; cases digit
  have notSemicolon : c ≠ ';' := by rintro rfl; cases digit
  simp [Watch.isQuiet, notBreak, notClose, notSemicolon]

theorem IsPrice.isCanonical {price : Text} (isPrice : IsPrice price) :
    (Value.bare price).IsCanonical := by
  apply Value.isCanonical_bare
  rw [List.all_eq_true]
  exact fun c member => isWordChar_of_isDigit (List.all_eq_true.mp isPrice.2 c member)

theorem IsPrice.all_isQuiet {price : Text} (isPrice : IsPrice price) :
    price.all Watch.isQuiet = true := by
  rw [List.all_eq_true]
  exact fun c member => isQuiet_of_isDigit (List.all_eq_true.mp isPrice.2 c member)

theorem IsPrice.all_isQuiet_marker {price : Text} (isPrice : IsPrice price) :
    (marker price).all Watch.isQuiet = true := by
  have signQuiet : sign.all Watch.isQuiet = true := by decide
  rw [marker, List.all_append, List.all_append, signQuiet, isPrice.all_isQuiet]
  rfl

/-- Cleaning a description has no effect on what is seen of a terminator. -/
theorem run_clean {price text : Text} (isPrice : IsPrice price) {watch last : Watch}
    (ran : watch.run text = some last) : watch.run (clean price text) = some last := by
  fun_induction clean price text generalizing watch with
  | case1 text absent => exact ran
  | case2 text before after found ih =>
      rw [← Text.append_of_split? found, List.append_assoc] at ran
      obtain ⟨middle, ranBefore, ranRest⟩ := Watch.exists_run_of_run_append ran
      rw [Watch.run_append,
        Watch.run_of_all_isQuiet isPrice.all_isQuiet_marker (marker_ne_nil price),
        Option.bind_some, ← Text.takeWhile_append_trimStart after] at ranRest
      obtain ⟨started, ranBlanks, ranAfter⟩ := Watch.exists_run_of_run_append ranRest
      have blank : Text.isAllBlank (after.takeWhile Text.isBlank) = true := List.all_takeWhile
      have same := (Watch.run_of_isAllBlank blank ranBlanks).2 rfl
      rw [same] at ranAfter
      rw [List.append_assoc, Watch.run_append, ranBefore, Option.bind_some, Watch.run_append,
        Watch.run_of_all_isQuiet isPrice.all_isQuiet isPrice.1, Option.bind_some, ih ranAfter]

end Price

namespace Packages

theorem isCanonical_priced {description : Value} (canonical : description.IsCanonical) :
    (priced description).1.IsCanonical ∧ (priced description).2.IsCanonical := by
  rw [priced]
  split
  · next price cleaned found =>
      exact ⟨(Price.isPrice_of_split? found).1.isCanonical, Value.isCanonical_quote cleaned⟩
  · exact ⟨Value.isCanonical_null, canonical⟩

theorem calmer_priced {description : Value} (canonical : description.IsCanonical) :
    Watch.Calmer
      ((priced description).1.text ++ (", ".toList ++ (priced description).2.text))
      description.text := by
  rw [priced]
  split
  · next price cleaned found =>
      obtain ⟨isPrice, rfl⟩ := Price.isPrice_of_split? found
      refine Watch.Calmer.quiet_append ?_ isPrice.all_isQuiet
      refine Watch.Calmer.quiet_append ?_ ValueList.separator_quiet
      refine Value.calmer_quote (Watch.Calmer.trans ?_ canonical.calmer_content)
      exact Watch.calmer_of_run fun watch last ran => Price.run_clean isPrice ran
  · have quiet : Value.null.text.all Watch.isQuiet = true := by decide
    refine Watch.Calmer.quiet_append ?_ quiet
    exact Watch.Calmer.quiet_append (Watch.Calmer.refl _) ValueList.separator_quiet

theorem run_pricedLead (lead : Text) (watch : Watch) :
    watch.run (pricedLead lead) = watch.run lead := by
  have columnsQuiet : columns.all Watch.isQuiet = true := by decide
  have pricedQuiet : pricedColumns.all Watch.isQuiet = true := by decide
  have start : watch.run lead = watch.run lead := rfl
  refine Text.replaceAll_induction (motive := fun text => watch.run text = watch.run lead)
    (fun before after same => ?_) start
  rw [Watch.run_append_quiet columnsQuiet (by decide)] at same
  rw [Watch.run_append_quiet pricedQuiet (by decide), same]

/-- A row is revised only if it has four values, of which the third is the description. -/
theorem exists_values_of_revises {row next : Row} (revises : Rule.packages.Revises row next) :
    ∃ id name description order : Value, row.values = [id, name, description, order] ∧
      next = ⟨pricedLead row.lead,
        [id, name, (priced description).1, (priced description).2, order]⟩ := by
  obtain ⟨notices, decided⟩ := revises
  change apply row = _ at decided
  unfold apply at decided
  split at decided
  · split at decided
    · next id name description order shape =>
        refine ⟨id, name, description, order, shape, ?_⟩
        exact (Verdict.revise.inj (Prod.mk.inj decided).1).symm
    · cases decided
  · cases decided

/-- The rule for packages leaves alone what it has priced. -/
theorem isSettling : Rule.packages.IsSettling where
  lead := by
    intro row next revises isLead
    obtain ⟨id, name, description, order, _, rfl⟩ := exists_values_of_revises revises
    exact isLead_pricedLead isLead
  effect := by
    intro row next revises
    obtain ⟨id, name, description, order, _, rfl⟩ := exists_values_of_revises revises
    exact run_pricedLead row.lead
  canonical := by
    intro row next revises canonical
    obtain ⟨id, name, description, order, shape, rfl⟩ := exists_values_of_revises revises
    rw [shape] at canonical
    simp only [List.forall_mem_cons] at canonical
    obtain ⟨idCanonical, nameCanonical, descriptionCanonical, orderCanonical, _⟩ := canonical
    obtain ⟨priceCanonical, cleanedCanonical⟩ := isCanonical_priced descriptionCanonical
    refine ⟨?_, by simp⟩
    simp only [List.forall_mem_cons]
    exact ⟨idCanonical, nameCanonical, priceCanonical, cleanedCanonical, orderCanonical, by simp⟩
  calmer := by
    intro row next revises canonical
    obtain ⟨id, name, description, order, shape, rfl⟩ := exists_values_of_revises revises
    rw [shape] at canonical ⊢
    have descriptionCanonical : description.IsCanonical := canonical description (by simp)
    have each : List.Forall₂ Watch.Calmer
        [id.text, name.text,
          (priced description).1.text ++ (", ".toList ++ (priced description).2.text), order.text]
        [id.text, name.text, description.text, order.text] :=
      .cons (.refl _) (.cons (.refl _) (.cons (calmer_priced descriptionCanonical)
        (.cons (.refl _) .nil)))
    have joined := Watch.calmer_intercalate ValueList.separator_quiet (by decide)
      ValueList.separator_quiet (by decide) each
    simpa [ValueList.write, List.intercalate_cons_cons] using joined
  settled := by
    intro row next revises
    obtain ⟨id, name, description, order, _, rfl⟩ := exists_values_of_revises revises
    change ∃ notices, apply _ = _
    unfold apply
    split
    · exact ⟨_, rfl⟩
    · exact ⟨_, rfl⟩

end Packages

/-! ## The built-in rules settle

Whatever table a cleaner with a built-in rule is set up for, it leaves alone
what it has revised. -/

namespace RuleBook

theorem eq_packages_or_eq_members {table : Text} {rule : Rule}
    (found : builtIn.find? table = some rule) : rule = Rule.packages ∨ rule = Rule.members := by
  have entered : builtIn.rules = [Rule.members, Rule.packages] := rfl
  have member := List.mem_of_find?_eq_some found
  rw [entered, List.mem_cons, List.mem_singleton] at member
  exact member.symm

theorem isSettling_of_find? {table : Text} {rule : Rule}
    (found : builtIn.find? table = some rule) : rule.IsSettling := by
  rcases eq_packages_or_eq_members found with rfl | rfl
  · exact Packages.isSettling
  · exact Members.isSettling

end RuleBook

namespace Cleaner

theorem isSettling_ofSettings (settings : Settings) (colorAllowed : Bool) :
    IsSettling { ofSettings settings with colorAllowed := colorAllowed } :=
  fun _ found => RuleBook.isSettling_of_find? found

end Cleaner

end SqlDump
