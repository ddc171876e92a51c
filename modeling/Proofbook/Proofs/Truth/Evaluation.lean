import Proofbook.Proofs.Formula.Equivalence
import Proofbook.Proofs.Formula.Subformula
import Proofbook.Truth.Table

namespace Proofbook.Formula

variable {σ : Assignment} {t : Truth}

/-! ## Values by the outermost construction -/

theorem evaluate_negation (left : Option Formula) (right : Formula) :
    evaluate σ (connective .not left right) =
      if isUndecidable (connective .not left right) then .ok .undecidable
      else (evaluate σ right).map Truth.not := by
  cases left <;> rw [evaluate]

theorem evaluate_negation_ok {left : Option Formula} {right : Formula} :
    evaluate σ (connective .not left right) = .ok t ↔
      isUndecidable (connective .not left right) = true ∧ t = .undecidable ∨
      isUndecidable (connective .not left right) = false ∧
        ∃ a, evaluate σ right = .ok a ∧ t = a.not := by
  rw [evaluate_negation]
  cases isUndecidable (connective .not left right) with
  | true => simp [eq_comm]
  | false =>
      cases evaluate σ right with
      | ok a => simp [Except.map, eq_comm]
      | error fault => simp [Except.map]

theorem isUndecidable_negation_of_ok {right : Formula} {a : Truth} (ha : evaluate σ right = .ok a)
    (left : Option Formula) : isUndecidable (connective .not left right) = false := by
  cases right with
  | predicate name args => simp [evaluate, isUndecidable] at ha
  | _ => rfl

theorem evaluate_negation_of_ok {left : Option Formula} {right : Formula} {a : Truth}
    (ha : evaluate σ right = .ok a) : evaluate σ (connective .not left right) = .ok a.not :=
  evaluate_negation_ok.mpr (.inr ⟨isUndecidable_negation_of_ok ha left, a, ha, rfl⟩)

theorem evaluate_binary {kind : Connective} (binary : kind ≠ .not) (left right : Formula) :
    evaluate σ (connective kind (some left) right) = (do
      let a ← evaluate σ left
      let b ← evaluate σ right
      return kind.truth a b) := by
  rw [evaluate]
  exact binary

theorem evaluate_binary_ok {kind : Connective} (binary : kind ≠ .not) {left right : Formula} :
    evaluate σ (connective kind (some left) right) = .ok t ↔
      ∃ a b, evaluate σ left = .ok a ∧ evaluate σ right = .ok b ∧ t = kind.truth a b := by
  rw [evaluate_binary binary]
  cases evaluate σ left with
  | error fault => simp [bind, Except.bind]
  | ok a =>
      cases evaluate σ right with
      | error fault => simp [bind, Except.bind]
      | ok b => simp [bind, Except.bind, pure, Except.pure, eq_comm]

theorem evaluate_dangling {kind : Connective} (binary : kind ≠ .not) (right : Formula) :
    evaluate σ (connective kind none right) =
      .error (.notPropositional (connective kind none right)) := by
  cases kind <;> first | exact absurd rfl binary | rfl

theorem evaluate_proposition (name : String) (truth : Option Bool) :
    evaluate σ (proposition name truth) =
      .ok (((σ name).or truth).elim .undecidable Truth.ofBool) := by
  rw [evaluate]
  cases (σ name).or truth <;> rfl

theorem evaluate_other {f : Formula} (noProposition : f.kind ≠ .proposition)
    (noConnective : f.kind ≠ .connective) :
    evaluate σ f = if f.isUndecidable then .ok .undecidable else .error (.notPropositional f) := by
  cases f with
  | proposition name truth => exact absurd rfl noProposition
  | connective kind left right => exact absurd rfl noConnective
  | quantified | predicate | var | equation | inequality | function | premise | conclusion
  | inference | number | text => rw [evaluate] <;> simp

theorem evaluate_of_isUndecidable {f : Formula} (shape : f.isUndecidable = true) :
    evaluate σ f = .ok .undecidable := by
  cases f with
  | connective kind left right =>
      cases kind with
      | not => exact evaluate_negation_ok.mpr (.inl ⟨shape, rfl⟩)
      | and | or | implies | iff => cases shape
  | quantified quantifier name domain body =>
      rw [evaluate_other (by simp [kind]) (by simp [kind]), if_pos shape]
  | _ => cases shape

/-! ## Equivalent formulas -/

def Covers (σ : Assignment) (f : Formula) : Prop := ∀ name ∈ f.propositionNames, (σ name).isSome

theorem covers_connective {kind : Connective} {left : Option Formula} {right : Formula} :
    Covers σ (connective kind left right) ↔
      (∀ f, left = some f → Covers σ f) ∧ Covers σ right := by
  cases left with
  | none => simp [Covers, propositionNames]
  | some f => simp [Covers, propositionNames, or_imp, forall_and]

theorem isUndecidable_negation_congr (left left' : Option Formula) {right right' : Formula}
    (h : equivalent right right' = true) :
    isUndecidable (connective .not left right) = isUndecidable (connective .not left' right') := by
  cases right with
  | predicate name args =>
      obtain ⟨args', rfl, -⟩ := equivalent_predicate.mp h
      rfl
  | _ => cases right' <;> first | rfl | simp [equivalent] at h

theorem isUndecidable_other {f : Formula} (noConnective : f.kind ≠ .connective)
    (noQuantifier : f.kind ≠ .quantifier) : f.isUndecidable = false := by
  cases f <;> first | rfl | exact absurd rfl noConnective | exact absurd rfl noQuantifier

theorem evaluate_equivalent_negation {left left' : Option Formula} {right right' : Formula}
    (h : equivalent right right' = true)
    (same : ∀ t, evaluate σ right = .ok t ↔ evaluate σ right' = .ok t) :
    evaluate σ (connective .not left right) = .ok t ↔
      evaluate σ (connective .not left' right') = .ok t := by
  rw [evaluate_negation_ok, evaluate_negation_ok, isUndecidable_negation_congr left left' h]
  simp only [same]

theorem evaluate_equivalent {a b : Formula} (h : equivalent a b = true) (covered : Covers σ a) :
    evaluate σ a = .ok t ↔ evaluate σ b = .ok t := by
  induction a using inductionOnParts generalizing b t with
  | step a ih =>
    cases a with
    | proposition name truth =>
        obtain ⟨truth', rfl⟩ := equivalent_proposition.mp h
        obtain ⟨value, assigned⟩ := Option.isSome_iff_exists.mp
          (covered name (by simp [propositionNames]))
        rw [evaluate_proposition, evaluate_proposition, assigned, Option.some_or, Option.some_or]
    | connective kind left right =>
        obtain ⟨left', right', rfl, hleft, hright⟩ := equivalent_connective.mp h
        obtain ⟨coveredLeft, coveredRight⟩ := covers_connective.mp covered
        have sameRight (t : Truth) : evaluate σ right = .ok t ↔ evaluate σ right' = .ok t :=
          ih right (by simp [children]) hright coveredRight
        by_cases negation : kind = .not
        · subst negation
          exact evaluate_equivalent_negation hright sameRight
        · cases left with
          | none =>
              obtain rfl := equivalentOption_none.mp hleft
              rw [evaluate_dangling negation, evaluate_dangling negation]
              simp
          | some left =>
              obtain ⟨left', rfl, hleft⟩ := equivalentOption_some.mp hleft
              have sameLeft (t : Truth) : evaluate σ left = .ok t ↔ evaluate σ left' = .ok t :=
                ih left (by simp [children]) hleft (coveredLeft left rfl)
              rw [evaluate_binary_ok negation, evaluate_binary_ok negation]
              simp only [sameLeft, sameRight]
    | _ =>
        -- Neither side is a proposition or a connective, and neither is quantified.
        have same := kind_eq_of_equivalent h
        have plain := (comparable_of_equivalent h).1
        rw [evaluate_other (by simp [kind]) (by simp [kind]),
          evaluate_other (f := b) (by rw [← same]; simp [kind]) (by rw [← same]; simp [kind]),
          isUndecidable_other (by simp [kind]) plain,
          isUndecidable_other (f := b) (by rw [← same]; simp [kind]) (same ▸ plain)]
        simp

end Proofbook.Formula
