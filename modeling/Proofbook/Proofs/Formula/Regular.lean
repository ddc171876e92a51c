import Proofbook.Proofs.Formula.Decoding
import Proofbook.Proofs.Formula.Derivation
import Proofbook.Proofs.Formula.Substitution
import Proofbook.Registry.Entry

namespace Proofbook.Formula

variable {f g : Formula}

theorem Regular.child (regular : f.Regular) {part : Formula} (mem : part ∈ f.children) :
    part.Regular :=
  (regular_iff.mp regular).2 part mem

theorem regular_of_decode {value : Json} (finite : value.HasFiniteNumbers)
    (read : decode value = .ok f) : f.Regular := by
  intro sub inside
  cases irregular : sub.isIrregular with
  | false => rfl
  | true =>
      obtain ⟨x, here, rfl⟩ := irregular_of_decode read inside irregular
      rw [isIrregular, finite x here] at irregular
      cases irregular

theorem regular_atom (name : String) : (atom name).Regular :=
  regular_iff.mpr ⟨rfl, List.forall_mem_nil _⟩

theorem regular_negation (regular : f.Regular) : (negation f).Regular :=
  regular_iff.mpr ⟨rfl, List.forall_mem_singleton.mpr regular⟩

theorem regular_forAll (name : String) (regular : f.Regular) : (forAll name f).Regular :=
  regular_iff.mpr ⟨rfl, List.forall_mem_singleton.mpr regular⟩

theorem regular_seeds : ∀ a ∈ Axiom.seeds, a.statement.Regular := by
  have denied := regular_negation (regular_atom "P")
  have operands : ∀ part ∈ [atom "P", negation (atom "P")], part.Regular :=
    List.forall_mem_cons.mpr ⟨regular_atom "P", List.forall_mem_singleton.mpr denied⟩
  have either : (disjunction (atom "P") (negation (atom "P"))).Regular :=
    regular_iff.mpr ⟨rfl, operands⟩
  have both : (conjunction (atom "P") (negation (atom "P"))).Regular :=
    regular_iff.mpr ⟨rfl, operands⟩
  exact List.forall_mem_cons.mpr ⟨regular_forAll "P" either,
    List.forall_mem_singleton.mpr (regular_forAll "P" (regular_negation both))⟩

/-! ## Substitution -/

section

variable (x : String) (r : Formula)

theorem isIrregular_substitute (notVar : f.kind ≠ .var) :
    (substitute x r f).isIrregular = f.isIrregular := by
  cases f with
  | var => exact absurd rfl notVar
  | connective kind left right => cases kind <;> cases left <;> rfl
  | _ => rfl

theorem Regular.substitute (regular : f.Regular) {r : Formula} (new : r.Regular) (x : String) :
    (substitute x r f).Regular := by
  induction f using inductionOnParts with
  | step f ih =>
      -- Only a variable may turn into a formula of another sort.
      by_cases notVar : f.kind ≠ .var
      · refine regular_iff.mpr ⟨?_, fun part' mem => ?_⟩
        · rw [isIrregular_substitute x r notVar]
          exact (regular_iff.mp regular).1
        · obtain ⟨part, inside, rfl | rfl⟩ := child_substitute x r notVar mem
          · exact regular.child inside
          · exact ih part inside (regular.child inside)
      · cases f with
        | var name bound =>
            rw [substitute_var]
            split
            · exact new
            · exact regular
        | _ => exact absurd nofun notVar

end

/-! ## Rules -/

theorem regular_derive {rule : Rule} {premises : List Formula} {d : Formula}
    (given : ∀ p ∈ premises, p.Regular) (derived : derive rule premises = some d) : d.Regular := by
  rcases derive_cases derived with ⟨antecedent, fact, -, rfl, -⟩ |
    ⟨antecedent, consequent, stray, denied, -, rfl, -, rfl⟩ | ⟨name, domain, term, -, rfl⟩ |
    ⟨-, rfl⟩
  · exact (given _ List.mem_cons_self).child (by simp [implication, children])
  · exact regular_negation ((given _ List.mem_cons_self).child (by simp [implication, children]))
  · exact (given _ List.mem_cons_self).child (by simp [children])
  · exact given _ List.mem_cons_self

end Proofbook.Formula
