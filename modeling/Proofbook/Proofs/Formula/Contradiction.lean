import Proofbook.Proofs.Formula.Erasure

namespace Proofbook.Formula

variable {a b c : Formula}

theorem ne_of_mem_children {part f : Formula} (mem : part ∈ f.children) : part ≠ f := by
  rintro rfl
  exact Nat.lt_irrefl _ (sizeOf_part mem)

theorem not_equivalent_negation (left : Option Formula) (right : Formula) :
    equivalent right (connective .not left right) = false := by
  rw [← Bool.not_eq_true, equivalent_iff]
  rintro ⟨-, -, same⟩
  have inside : right.erase ∈ (connective .not left right).erase.children := by
    simp [erase, children]
  exact ne_of_mem_children inside same

/-! ## Negating -/

theorem negates_iff :
    negates a b = true ↔
      ∃ left right, a = connective .not left right ∧ equivalent right b = true := by
  constructor
  · intro opposed
    unfold negates at opposed
    split at opposed
    · exact ⟨_, _, rfl, opposed⟩
    · cases opposed
  · rintro ⟨left, right, rfl, denied⟩
    exact denied

theorem not_equivalent_of_negates (opposed : negates a b = true) : equivalent a b = false := by
  obtain ⟨left, right, rfl, denied⟩ := negates_iff.mp opposed
  rw [← Bool.not_eq_true]
  intro same
  rw [equivalent_comm] at same
  have own := equivalent_trans denied same
  rw [not_equivalent_negation] at own
  cases own

theorem negates_of_equivalent (opposed : negates a b = true) (same : equivalent b c = true) :
    negates a c = true := by
  obtain ⟨left, right, rfl, denied⟩ := negates_iff.mp opposed
  exact negates_iff.mpr ⟨left, right, rfl, equivalent_trans denied same⟩

theorem negates_of_equivalent_left (opposed : negates a b = true)
    (same : equivalent a c = true) : negates c b = true := by
  obtain ⟨left, right, rfl, denied⟩ := negates_iff.mp opposed
  obtain ⟨left', right', rfl, -, operands⟩ := equivalent_connective.mp same
  rw [equivalent_comm] at operands
  exact negates_iff.mpr ⟨left', right', rfl, equivalent_trans operands denied⟩

/-! ## Contradicting -/

theorem isConnective_iff : a.isConnective = true ↔ a.kind = .connective := by
  cases a <;> simp [isConnective, kind]

theorem contradicts_iff :
    contradicts a b = true ↔
      (a.kind = .connective ∧ b.kind = .connective) ∧ (negates a b = true ∨ negates b a = true) := by
  unfold contradicts
  rw [Bool.and_eq_true, Bool.and_eq_true, Bool.or_eq_true, isConnective_iff, isConnective_iff]

theorem contradicts_comm (a b : Formula) : contradicts a b = contradicts b a := by
  unfold contradicts
  rw [Bool.and_comm a.isConnective, Bool.or_comm (negates a b)]

theorem not_equivalent_of_contradicts (opposed : contradicts a b = true) :
    equivalent a b = false := by
  obtain ⟨-, forth | back⟩ := contradicts_iff.mp opposed
  · exact not_equivalent_of_negates forth
  · rw [equivalent_comm]
    exact not_equivalent_of_negates back

theorem not_contradicts_self (f : Formula) : contradicts f f = false := by
  rw [← Bool.not_eq_true]
  intro opposed
  obtain ⟨-, own⟩ := contradicts_iff.mp opposed
  obtain ⟨left, right, rfl, denied⟩ := negates_iff.mp (or_self_iff.mp own)
  rw [not_equivalent_negation] at denied
  cases denied

theorem contradicts_of_equivalent (opposed : contradicts a b = true)
    (same : equivalent b c = true) : contradicts a c = true := by
  obtain ⟨⟨first, second⟩, negated⟩ := contradicts_iff.mp opposed
  refine contradicts_iff.mpr ⟨⟨first, kind_eq_of_equivalent same ▸ second⟩, ?_⟩
  exact negated.imp (negates_of_equivalent · same) (negates_of_equivalent_left · same)

end Proofbook.Formula
