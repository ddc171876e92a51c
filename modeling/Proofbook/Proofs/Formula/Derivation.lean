import Proofbook.Formula.Inference

namespace Proofbook.Formula

theorem derive_cases {rule : Rule} {premises : List Formula} {d : Formula}
    (derived : derive rule premises = some d) :
    (∃ antecedent fact, rule = .modusPonens ∧
      premises = [implication antecedent d, fact] ∧ equivalent antecedent fact = true) ∨
    (∃ antecedent consequent stray denied, rule = .modusTollens ∧
      premises = [implication antecedent consequent, connective .not stray denied] ∧
      equivalent consequent denied = true ∧ d = negation antecedent) ∨
    (∃ name domain term, rule = .universalInstantiation ∧
      premises = [quantified .universal name domain d, term]) ∨
    (rule = .postulate ∧ premises = [d]) := by
  unfold derive at derived
  split at derived
  · rename_i antecedent consequent fact
    split at derived
    · rename_i matching
      cases derived
      exact .inl ⟨antecedent, fact, rfl, rfl, matching⟩
    · cases derived
  · rename_i antecedent consequent stray denied
    split at derived
    · rename_i matching
      cases derived
      exact .inr (.inl ⟨antecedent, consequent, stray, denied, rfl, rfl, matching, rfl⟩)
    · cases derived
  · rename_i name domain body term
    cases derived
    exact .inr (.inr (.inl ⟨name, domain, term, rfl, rfl⟩))
  · cases derived
    exact .inr (.inr (.inr ⟨rfl, rfl⟩))
  · cases derived

section

variable {antecedent consequent : Formula}

theorem derive_modusPonens {fact : Formula} (matching : equivalent antecedent fact = true) :
    derive .modusPonens [implication antecedent consequent, fact] = some consequent := by
  simp [derive, implication, matching]

theorem derive_modusTollens {stray : Option Formula} {denied : Formula}
    (matching : equivalent consequent denied = true) :
    derive .modusTollens [implication antecedent consequent, connective .not stray denied] =
      some (negation antecedent) := by
  simp [derive, implication, matching]

end

inductive Derivable (given : List Formula) : Formula → Prop where
  | premise {f : Formula} : f ∈ given → Derivable given f
  | rule {rule : Rule} {premises : List Formula} {d : Formula} :
      (∀ p ∈ premises, Derivable given p) → derive rule premises = some d → Derivable given d

namespace Derivable

variable {given : List Formula} {antecedent consequent : Formula}

theorem rule_two {rule : Rule} {first second d : Formula} (h₁ : Derivable given first)
    (h₂ : Derivable given second) (derived : derive rule [first, second] = some d) :
    Derivable given d := by
  refine .rule (fun p mem => ?_) derived
  rcases List.mem_cons.mp mem with rfl | mem
  · exact h₁
  · obtain rfl := List.mem_singleton.mp mem
    exact h₂

theorem modusPonens {fact : Formula} (implies : Derivable given (implication antecedent consequent))
    (known : Derivable given fact) (matching : equivalent antecedent fact = true) :
    Derivable given consequent :=
  implies.rule_two known (derive_modusPonens matching)

theorem modusTollens {stray : Option Formula} {denied : Formula}
    (implies : Derivable given (implication antecedent consequent))
    (known : Derivable given (connective .not stray denied))
    (matching : equivalent consequent denied = true) : Derivable given (negation antecedent) :=
  implies.rule_two known (derive_modusTollens matching)

end Derivable

end Proofbook.Formula
