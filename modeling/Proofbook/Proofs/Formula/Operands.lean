import Proofbook.Formula.Equivalence
import Proofbook.Proofs.Formula.Regular

namespace Proofbook.Formula

def isDangling : Formula → Bool
  | connective .not none _ => false
  | connective _ none _ => true
  | _ => false

def isOverfull : Formula → Bool
  | connective .not (some _) _ => true
  | _ => false

def hasItsOperands : Formula → Bool
  | connective kind left _ => left.isNone == (kind == .not)
  | _ => true

def Complete (f : Formula) : Prop := ∀ sub, Subformula sub f → sub.hasItsOperands = true

variable {f : Formula}

theorem hasItsOperands_iff :
    f.hasItsOperands = true ↔ f.isDangling = false ∧ f.isOverfull = false := by
  cases f with
  | connective kind left right =>
      cases kind <;> cases left <;> simp [hasItsOperands, isDangling, isOverfull]
  | _ => simp [hasItsOperands, isDangling, isOverfull]

theorem isIrregular_of_isOverfull (overfull : f.isOverfull = true) : f.isIrregular = true := by
  cases f with
  | connective kind left right => cases kind <;> cases left <;> first | rfl | cases overfull
  | _ => cases overfull

theorem not_isDangling_of_wellFormed (complete : f.wellFormed = true) : f.isDangling = false := by
  cases f with
  | connective kind left right => cases kind <;> cases left <;> first | rfl | cases complete
  | _ => rfl

def Single (f : Formula) : Prop := ∀ sub, Subformula sub f → sub.isOverfull = false

theorem single_of_regular (regular : f.Regular) : f.Single := by
  intro sub inside
  cases overfull : sub.isOverfull with
  | false => rfl
  | true =>
      have irregular := isIrregular_of_isOverfull overfull
      rw [regular sub inside] at irregular
      cases irregular

theorem single_of_decode {value : Json} (read : decode value = .ok f) : f.Single := by
  intro sub inside
  cases overfull : sub.isOverfull with
  | false => rfl
  | true =>
      obtain ⟨x, -, rfl⟩ := irregular_of_decode read inside (isIrregular_of_isOverfull overfull)
      cases overfull

structure Stateable (f : Formula) : Prop where
  wellFormed : f.wellFormed = true
  single : f.Single

theorem Stateable.hasItsOperands (stateable : f.Stateable) : f.hasItsOperands = true :=
  hasItsOperands_iff.mpr
    ⟨not_isDangling_of_wellFormed stateable.wellFormed, stateable.single f (.self f)⟩

theorem Stateable.complete_iff (stateable : f.Stateable) :
    f.Complete ↔ ∀ part ∈ f.children, ∀ sub, Subformula sub part → sub.isDangling = false := by
  rw [Complete, forall_subformula]
  constructor
  · rintro ⟨-, parts⟩ part mem sub inside
    exact (hasItsOperands_iff.mp (parts part mem sub inside)).1
  · intro below
    refine ⟨stateable.hasItsOperands, fun part mem sub inside => ?_⟩
    exact hasItsOperands_iff.mpr
      ⟨below part mem sub inside, stateable.single sub (.part mem inside)⟩

theorem stateable_seeds : ∀ a ∈ Axiom.seeds, a.statement.Stateable := by
  have complete : ∀ a ∈ Axiom.seeds, a.statement.wellFormed = true := by decide
  exact fun a mem => ⟨complete a mem, single_of_regular (regular_seeds a mem)⟩

end Proofbook.Formula
