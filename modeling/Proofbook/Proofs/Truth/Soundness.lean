import Proofbook.Proofs.Formula.Derivation
import Proofbook.Proofs.Truth.Evaluation

/-!
Three things could stand in the way of soundness. A rule matches its premises up to equivalence,
which forgets the truth values that propositions carry themselves; the assignment overrides them.
The negation that modus tollens forms may have the shape of a statement about provability; then its
operand is a predicate, which has no value at all, so the implication had none either. And
universal instantiation strips a quantifier; but no quantified formula holds.
-/

namespace Proofbook.Formula

variable {σ : Assignment}

def Established (σ : Assignment) (f : Formula) : Prop :=
  Covers σ f ∧ evaluate σ f = .ok .holds

/-! ## Premises of each shape -/

theorem implication_holds {antecedent consequent : Formula}
    (h : evaluate σ (implication antecedent consequent) = .ok .holds) :
    ∃ a b, evaluate σ antecedent = .ok a ∧ evaluate σ consequent = .ok b ∧
      a.implies b = .holds := by
  obtain ⟨a, b, ha, hb, holds⟩ := (evaluate_binary_ok (by decide)).mp h
  exact ⟨a, b, ha, hb, holds.symm⟩

theorem negation_holds {stray : Option Formula} {denied : Formula}
    (h : evaluate σ (connective .not stray denied) = .ok .holds) :
    evaluate σ denied = .ok .fails := by
  rcases evaluate_negation_ok.mp h with ⟨-, flagged⟩ | ⟨-, a, ha, holds⟩
  · cases flagged
  · cases a with
    | fails => exact ha
    | holds => cases holds
    | undecidable => cases holds

theorem quantified_not_holds (kind : Quantifier) (name : String) (domain : Option Formula)
    (body : Formula) : evaluate σ (quantified kind name domain body) ≠ .ok .holds := by
  rw [evaluate_other (by simp [Formula.kind]) (by simp [Formula.kind])]
  split <;> simp

/-! ## Conclusions -/

theorem modusPonens_sound {antecedent consequent fact : Formula}
    (implies : Established σ (implication antecedent consequent)) (known : Established σ fact)
    (matching : equivalent antecedent fact = true) : Established σ consequent := by
  obtain ⟨coveredAntecedent, coveredConsequent⟩ := covers_connective.mp implies.1
  obtain ⟨a, b, ha, hb, holds⟩ := implication_holds implies.2
  have fires : evaluate σ antecedent = .ok .holds :=
    (evaluate_equivalent matching (coveredAntecedent antecedent rfl)).mpr known.2
  obtain rfl : a = .holds := by
    rw [ha] at fires
    exact Except.ok.inj fires
  obtain rfl : b = .holds := by cases b <;> first | rfl | cases holds
  exact ⟨coveredConsequent, hb⟩

theorem modusTollens_sound {antecedent consequent denied : Formula} {stray : Option Formula}
    (implies : Established σ (implication antecedent consequent))
    (known : Established σ (connective .not stray denied))
    (matching : equivalent consequent denied = true) : Established σ (negation antecedent) := by
  obtain ⟨coveredAntecedent, coveredConsequent⟩ := covers_connective.mp implies.1
  obtain ⟨a, b, ha, hb, holds⟩ := implication_holds implies.2
  have refuted : evaluate σ consequent = .ok .fails :=
    (evaluate_equivalent matching coveredConsequent).mpr (negation_holds known.2)
  obtain rfl : b = .fails := by
    rw [hb] at refuted
    exact Except.ok.inj refuted
  obtain rfl : a = .fails := by cases a <;> first | rfl | cases holds
  exact ⟨covers_connective.mpr ⟨by simp, coveredAntecedent antecedent rfl⟩,
    evaluate_negation_of_ok ha⟩

/-! ## Rules and derivations -/

theorem derive_sound {rule : Rule} {premises : List Formula} {d : Formula}
    (derived : derive rule premises = some d) (known : ∀ p ∈ premises, Established σ p) :
    Established σ d := by
  rcases derive_cases derived with ⟨antecedent, fact, -, rfl, matching⟩ |
    ⟨antecedent, consequent, stray, denied, -, rfl, matching, rfl⟩ |
    ⟨name, domain, term, -, rfl⟩ | ⟨-, rfl⟩
  · have implies := known (implication antecedent d) (by simp)
    exact modusPonens_sound implies (known fact (by simp)) matching
  · have implies := known (implication antecedent consequent) (by simp)
    have negated := known (connective .not stray denied) (by simp)
    exact modusTollens_sound implies negated matching
  · have instantiated := known (quantified .universal name domain d) (by simp)
    exact absurd instantiated.2 (quantified_not_holds .universal name domain d)
  · exact known d (by simp)

theorem derivable_established {given : List Formula} {d : Formula}
    (known : ∀ f ∈ given, Established σ f) (derivation : Derivable given d) :
    Established σ d := by
  induction derivation with
  | premise mem => exact known _ mem
  | rule _ derived ih => exact derive_sound derived ih

theorem derivable_holds {given : List Formula} {σ : Assignment} {d : Formula}
    (covered : ∀ f ∈ given, ∀ name ∈ f.propositionNames, (σ name).isSome)
    (hold : ∀ f ∈ given, evaluate σ f = .ok .holds) (derivation : Derivable given d) :
    evaluate σ d = .ok .holds :=
  (derivable_established (fun f mem => ⟨covered f mem, hold f mem⟩) derivation).2

def chainedPremises : List Formula :=
  [implication (atom "R") (implication (atom "P") (atom "Q")), atom "R",
    connective .not (some (atom "P")) (proposition "Q" (some true))]

def onlyR : Assignment := fun name => some (name == "R")

theorem derivable_chained : Derivable chainedPremises (negation (atom "P")) := by
  have outer : Derivable chainedPremises
      (implication (atom "R") (implication (atom "P") (atom "Q"))) :=
    .premise (by simp [chainedPremises])
  have known : Derivable chainedPremises (atom "R") := .premise (by simp [chainedPremises])
  have denied : Derivable chainedPremises
      (connective .not (some (atom "P")) (proposition "Q" (some true))) :=
    .premise (by simp [chainedPremises])
  exact (outer.modusPonens known rfl).modusTollens denied rfl

theorem derivable_holds_chained :
    (∀ f ∈ chainedPremises, ∀ name ∈ f.propositionNames, (onlyR name).isSome) ∧
    (∀ f ∈ chainedPremises, evaluate onlyR f = .ok .holds) ∧
    Derivable chainedPremises (negation (atom "P")) ∧
    evaluate onlyR (negation (atom "P")) = .ok .holds := by
  have covered : ∀ f ∈ chainedPremises, ∀ name ∈ f.propositionNames, (onlyR name).isSome :=
    fun _ _ _ _ => rfl
  have hold : ∀ f ∈ chainedPremises, evaluate onlyR f = .ok .holds := by
    simp [chainedPremises, evaluate, implication, atom, onlyR, isUndecidable, bind, Except.bind,
      pure, Except.pure, Except.map, Connective.truth, Truth.ofBool, Truth.implies, Truth.or,
      Truth.and, Truth.not]
  exact ⟨covered, hold, derivable_chained, derivable_holds covered hold derivable_chained⟩

end Proofbook.Formula
