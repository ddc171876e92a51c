import Proofbook.Proofs.Formula.Contradiction
import Proofbook.Proofs.Truth.Indistinguishable

/-!
Of two formulas that contradict each other one negates a connective. So it is never taken for
undecidable by its shape, and has the negation of the other's value.
-/

namespace Proofbook

theorem Truth.not_not (t : Truth) : t.not.not = t := by
  cases t <;> rfl

namespace Formula

variable {σ : Assignment} {a b : Formula}

theorem isUndecidable_negation_of_connective {right : Formula} (left : Option Formula)
    (compound : right.kind = .connective) :
    isUndecidable (connective .not left right) = false := by
  cases right with
  | connective => rfl
  | _ => cases compound

theorem evaluate_of_negates (opposed : negates a b = true) (compound : b.kind = .connective)
    (covered : Covers σ a) :
    (∃ t, evaluate σ a = .ok t ∧ evaluate σ b = .ok t.not) ∨
      (∃ f, evaluate σ a = .error (.notPropositional f)) ∧
        ∃ g, evaluate σ b = .error (.notPropositional g) := by
  obtain ⟨left, right, rfl, denied⟩ := negates_iff.mp opposed
  have operand : right.kind = .connective := (kind_eq_of_equivalent denied).trans compound
  rw [evaluate_negation, isUndecidable_negation_of_connective left operand, if_neg (by decide)]
  rcases agree_evaluate denied (covers_connective.mp covered).2 with
    ⟨t, first, second⟩ | ⟨⟨f, first⟩, g, second⟩
  · rw [first, second]
    exact .inl ⟨t.not, rfl, by rw [Truth.not_not]⟩
  · rw [first, second]
    exact .inr ⟨⟨f, rfl⟩, g, rfl⟩

theorem evaluate_of_contradicts (opposed : contradicts a b = true) (coveredFirst : Covers σ a)
    (coveredSecond : Covers σ b) :
    (∃ t, evaluate σ a = .ok t ∧ evaluate σ b = .ok t.not) ∨
      (∃ f, evaluate σ a = .error (.notPropositional f)) ∧
        ∃ g, evaluate σ b = .error (.notPropositional g) := by
  obtain ⟨⟨first, second⟩, forth | back⟩ := contradicts_iff.mp opposed
  · exact evaluate_of_negates forth second coveredFirst
  · rcases evaluate_of_negates back first coveredSecond with ⟨t, negated, value⟩ | ⟨fault, fault'⟩
    · exact .inl ⟨t.not, value, by rw [Truth.not_not, negated]⟩
    · exact .inr ⟨fault', fault⟩

theorem contradictions_are_real :
    (∀ f : Formula, contradicts f f = false) ∧
    ∀ a b : Formula, contradicts a b = true →
      equivalent a b = false ∧
      contradicts b a = true ∧
      (∀ a', equivalent a a' = true → contradicts a' b = true) ∧
      (∀ b', equivalent b b' = true → contradicts a b' = true) ∧
      ∀ σ : Assignment, (∀ name ∈ a.propositionNames, (σ name).isSome) →
        (∀ name ∈ b.propositionNames, (σ name).isSome) →
        ((∃ t, evaluate σ a = .ok t ∧ evaluate σ b = .ok t.not) ∨
          (∃ f, evaluate σ a = .error (.notPropositional f)) ∧
            ∃ g, evaluate σ b = .error (.notPropositional g)) ∧
        ¬(evaluate σ a = .ok .holds ∧ evaluate σ b = .ok .holds) := by
  refine ⟨not_contradicts_self, fun a b opposed => ?_⟩
  have back : contradicts b a = true := by rwa [contradicts_comm]
  refine ⟨not_equivalent_of_contradicts opposed, back, ?_, ?_, ?_⟩
  · intro a' same
    rw [contradicts_comm]
    exact contradicts_of_equivalent back same
  · exact fun b' same => contradicts_of_equivalent opposed same
  · intro σ coveredFirst coveredSecond
    have values := evaluate_of_contradicts opposed coveredFirst coveredSecond
    refine ⟨values, ?_⟩
    rintro ⟨first, second⟩
    rcases values with ⟨t, value, negated⟩ | ⟨⟨f, fault⟩, -⟩
    · cases first.symm.trans value
      cases second.symm.trans negated
    · cases first.symm.trans fault

theorem contradictions_are_real_conjunction :
    let both := conjunction (proposition "P" (some false)) (atom "Q")
    let notBoth := negation (conjunction (atom "P") (atom "Q"))
    let σ : Assignment := fun _ => some true
    contradicts both notBoth = true ∧ equivalent both notBoth = false ∧
      ∃ t, evaluate σ both = .ok t ∧ evaluate σ notBoth = .ok t.not := by
  intro both notBoth σ
  have opposed : contradicts both notBoth = true := by decide
  obtain ⟨differ, -, -, -, values⟩ := contradictions_are_real.2 both notBoth opposed
  refine ⟨opposed, differ, ?_⟩
  rcases (values σ (fun _ _ => rfl) fun _ _ => rfl).1 with found | ⟨⟨f, failed⟩, -⟩
  · exact found
  · cases failed

end Formula

end Proofbook
