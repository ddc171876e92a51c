import Proofbook.Proofs.Formula.Erasure
import Proofbook.Proofs.Outcome
import Proofbook.Proofs.Truth.Enumeration
import Proofbook.Proofs.Truth.Propositional

namespace Proofbook

namespace Formula

variable {σ : Assignment} {a b : Formula}

/-! ## Propositions -/

mutual

theorem propositionNames_erase : (f : Formula) → f.erase.propositionNames = f.propositionNames
  | quantified _ _ none body => propositionNames_erase body
  | quantified _ _ (some domain) body =>
    congrArg₂ _ (propositionNames_erase domain) (propositionNames_erase body)
  | connective _ none right => propositionNames_erase right
  | connective _ (some left) right =>
    congrArg₂ _ (propositionNames_erase left) (propositionNames_erase right)
  | predicate _ args | function _ args => propositionNamesList_erase args
  | equation left right | inequality _ left right =>
    congrArg₂ _ (propositionNames_erase left) (propositionNames_erase right)
  | inference _ premises => propositionNamesList_erase premises
  | var .. | proposition .. | premise | conclusion | number .. | text .. => rfl

theorem propositionNamesList_erase :
    (fs : List Formula) → propositionNamesList (eraseList fs) = propositionNamesList fs
  | [] => rfl
  | f :: fs => congrArg₂ _ (propositionNames_erase f) (propositionNamesList_erase fs)

end

/-- Both computations give the same value, or each of them meets what is not propositional. -/
def Agree {α : Type} (x y : Except Error α) : Prop :=
  (∃ v, x = .ok v ∧ y = .ok v) ∨
    (∃ f, x = .error (.notPropositional f)) ∧ ∃ g, y = .error (.notPropositional g)

section

variable {α β : Type} {x y : Except Error α} {f g : α → Except Error β}

theorem Agree.bind (first : Agree x y) (rest : ∀ v, Agree (f v) (g v)) :
    Agree (x >>= f) (y >>= g) := by
  rcases first with ⟨v, rfl, rfl⟩ | ⟨⟨p, rfl⟩, q, rfl⟩
  · exact rest v
  · exact .inr ⟨⟨p, rfl⟩, q, rfl⟩

end

theorem evaluate_error {f : Formula} {fault : Error} (failed : evaluate σ f = .error fault) :
    ∃ g, fault = .notPropositional g := by
  rcases propositional_or_reports f with propositional | ⟨place, g, -, reported⟩
  · obtain ⟨t, value⟩ := propositional.evaluates σ
    rw [value] at failed
    cases failed
  · rw [reported] at failed
    exact ⟨g, (Except.error.inj failed).symm⟩

theorem agree_evaluate (h : equivalent a b = true) (covered : Covers σ a) :
    Agree (evaluate σ a) (evaluate σ b) := by
  have same (t : Truth) : evaluate σ a = .ok t ↔ evaluate σ b = .ok t :=
    evaluate_equivalent h covered
  cases first : evaluate σ a with
  | ok t => exact .inl ⟨t, rfl, (same t).mp first⟩
  | error fault =>
      obtain ⟨f, rfl⟩ := evaluate_error first
      cases second : evaluate σ b with
      | ok t =>
          rw [(same t).mpr second] at first
          cases first
      | error fault =>
          obtain ⟨g, rfl⟩ := evaluate_error second
          exact .inr ⟨⟨f, rfl⟩, g, rfl⟩

end Formula

/-! ## Truth tables -/

namespace Truth

open Formula

end Truth

namespace Formula

open Truth

end Formula

end Proofbook
