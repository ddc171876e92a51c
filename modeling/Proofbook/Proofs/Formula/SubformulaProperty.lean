import Mathlib.Data.Set.Finite.Lattice
import Mathlib.Data.Set.Finite.List
import Proofbook.Proofs.Formula.Derivation
import Proofbook.Proofs.Formula.Subformula

/-!
Rules take formulas apart and put nothing together, except that modus tollens negates a part. A
negation is neither an implication nor quantified, so a negation that was derived gives nothing new
as a first premise, and as a second one it gives nothing of itself.
-/

namespace Proofbook.Formula

variable {given : List Formula} {f part d : Formula}

def Within (given : List Formula) (f : Formula) : Prop := ∃ g ∈ given, Subformula f g

theorem Subformula.child {g : Formula} (inside : Subformula f g) (mem : part ∈ f.children) :
    Subformula part g := by
  induction inside with
  | self => exact .part mem (.self part)
  | part inner _ ih => exact .part inner ih

theorem Within.child (within : Within given f) (mem : part ∈ f.children) : Within given part := by
  obtain ⟨g, there, inside⟩ := within
  exact ⟨g, there, inside.child mem⟩

/-! ## One application of a rule -/

inductive Analytic (given : List Formula) : Formula → Prop where
  | within {f : Formula} : Within given f → Analytic given f
  | negated {f : Formula} : Within given f → Analytic given (negation f)

theorem Analytic.implication {antecedent consequent : Formula}
    (analytic : Analytic given (implication antecedent consequent)) :
    Within given antecedent ∧ Within given consequent := by
  cases analytic with
  | within inside =>
      constructor
      · exact inside.child (by simp [Formula.implication, children])
      · exact inside.child (by simp [Formula.implication, children])

theorem Analytic.body {kind : Quantifier} {name : String} {domain : Option Formula}
    {body : Formula} (analytic : Analytic given (quantified kind name domain body)) :
    Within given body := by
  cases analytic with
  | within inside => exact inside.child (by simp [children])

theorem Analytic.derive {rule : Rule} {premises : List Formula}
    (analytic : ∀ p ∈ premises, Analytic given p) (derived : derive rule premises = some d) :
    Analytic given d := by
  rcases derive_cases derived with ⟨antecedent, fact, -, rfl, -⟩ |
    ⟨antecedent, consequent, stray, denied, -, rfl, -, rfl⟩ | ⟨name, domain, term, -, rfl⟩ |
    ⟨-, rfl⟩
  · have implies := analytic (Formula.implication antecedent d) List.mem_cons_self
    exact .within implies.implication.2
  · have implies := analytic (Formula.implication antecedent consequent) List.mem_cons_self
    exact .negated implies.implication.1
  · have instantiated := analytic (quantified .universal name domain d) List.mem_cons_self
    exact .within instantiated.body
  · exact analytic d List.mem_cons_self

/-! ## Any number of applications -/

theorem Derivable.analytic (derivation : Derivable given d) : Analytic given d := by
  induction derivation with
  | premise mem => exact .within ⟨_, mem, .self _⟩
  | rule _ derived ih => exact .derive ih derived

theorem finite_subformulas (f : Formula) : {sub | Subformula sub f}.Finite := by
  induction f using inductionOnParts with
  | step f parts =>
      have below : (⋃ part ∈ {part | part ∈ f.children}, {sub | Subformula sub part}).Finite :=
        (List.finite_toSet f.children).biUnion parts
      apply (below.insert f).subset
      intro sub inside
      cases inside with
      | self => exact Set.mem_insert _ _
      | part mem inner => exact Set.mem_insert_of_mem _ (Set.mem_biUnion mem inner)

theorem finite_within (given : List Formula) : {f | Within given f}.Finite := by
  have union : {f | Within given f} = ⋃ g ∈ {g | g ∈ given}, {sub | Subformula sub g} := by
    ext f
    simp [Within]
  rw [union]
  exact (List.finite_toSet given).biUnion fun g _ => finite_subformulas g

theorem subformula_property (given : List Formula) :
    (∀ d, Derivable given d →
      ∃ g ∈ given, ∃ sub, Subformula sub g ∧ (d = sub ∨ d = negation sub)) ∧
    {d | Derivable given d}.Finite := by
  constructor
  · intro d derivation
    cases derivation.analytic with
    | within inside =>
        obtain ⟨g, there, sub⟩ := inside
        exact ⟨g, there, d, sub, .inl rfl⟩
    | @negated f inside =>
        obtain ⟨g, there, sub⟩ := inside
        exact ⟨g, there, f, sub, .inr rfl⟩
  · have finite := (finite_within given).union ((finite_within given).image negation)
    apply finite.subset
    intro d derivation
    cases Derivable.analytic derivation with
    | within inside => exact .inl inside
    | negated inside => exact .inr (Set.mem_image_of_mem negation inside)

theorem subformula_property_tollens_twice :
    let given := [implication (atom "P") (atom "Q"), implication (atom "R") (atom "P"),
      negation (atom "Q")]
    Derivable given (negation (atom "R")) ∧
      ∃ g ∈ given, ∃ sub, Subformula sub g ∧
        (negation (atom "R") = sub ∨ negation (atom "R") = negation sub) := by
  intro given
  have first : Derivable given (implication (atom "P") (atom "Q")) := .premise (by simp [given])
  have second : Derivable given (implication (atom "R") (atom "P")) := .premise (by simp [given])
  have denied : Derivable given (negation (atom "Q")) := .premise (by simp [given])
  have derivation : Derivable given (negation (atom "R")) :=
    second.modusTollens (first.modusTollens denied rfl) rfl
  exact ⟨derivation, (subformula_property given).1 _ derivation⟩

end Proofbook.Formula
