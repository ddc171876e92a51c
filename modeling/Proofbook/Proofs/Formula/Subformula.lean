import Proofbook.Formula.Basic

namespace Proofbook.Formula

private theorem sizeOf_two {part left right f : Formula} (mem : part ∈ [left, right])
    (lt : sizeOf left < sizeOf f ∧ sizeOf right < sizeOf f) : sizeOf part < sizeOf f := by
  simp only [List.mem_cons, List.not_mem_nil, or_false] at mem
  rcases mem with rfl | rfl
  · exact lt.1
  · exact lt.2

private theorem sizeOf_among {part f : Formula} (parts : List Formula) (mem : part ∈ parts)
    (lt : sizeOf parts < sizeOf f) : sizeOf part < sizeOf f :=
  Nat.lt_trans (List.sizeOf_lt_of_mem mem) lt

theorem sizeOf_part {part f : Formula} (mem : part ∈ f.children) : sizeOf part < sizeOf f := by
  cases f with
  | quantified kind name domain body =>
      cases domain with
      | none =>
          obtain rfl := List.mem_singleton.mp mem
          simp
      | some domain => exact sizeOf_two mem (by simp; omega)
  | connective kind left right =>
      cases left with
      | none =>
          obtain rfl := List.mem_singleton.mp mem
          simp
      | some left => exact sizeOf_two mem (by simp; omega)
  | predicate name args =>
      exact sizeOf_among args mem (by rw [predicate.sizeOf_spec]; omega)
  | function name args =>
      exact sizeOf_among args mem (by rw [function.sizeOf_spec]; omega)
  | inference rule premises =>
      exact sizeOf_among premises mem (by rw [inference.sizeOf_spec]; omega)
  | equation left right => exact sizeOf_two mem (by simp; omega)
  | inequality kind left right => exact sizeOf_two mem (by simp; omega)
  | var | proposition | premise | conclusion | number | text => cases mem

@[elab_as_elim]
theorem inductionOnParts {motive : Formula → Prop}
    (step : ∀ f, (∀ part ∈ f.children, motive part) → motive f) (f : Formula) : motive f :=
  step f fun part _ => inductionOnParts step part
termination_by sizeOf f
decreasing_by exact sizeOf_part ‹_›

inductive Subformula : Formula → Formula → Prop where
  | self (f : Formula) : Subformula f f
  | part {sub part f : Formula} : part ∈ f.children → Subformula sub part → Subformula sub f

theorem forall_subformula {holds : Formula → Prop} {f : Formula} :
    (∀ sub, Subformula sub f → holds sub) ↔
      holds f ∧ ∀ part ∈ f.children, ∀ sub, Subformula sub part → holds sub := by
  constructor
  · intro all
    exact ⟨all f (.self f), fun part mem sub inside => all sub (.part mem inside)⟩
  · rintro ⟨root, parts⟩ sub inside
    cases inside with
    | self => exact root
    | part mem inside => exact parts _ mem sub inside

end Proofbook.Formula
