import Proofbook.Formula.Equivalence

namespace Proofbook.Formula

theorem kind_eq_of_equivalent {a b : Formula} (h : equivalent a b = true) : a.kind = b.kind := by
  cases a <;> cases b <;> first | rfl | cases h

theorem comparable_of_equivalent {a b : Formula} (h : equivalent a b = true) :
    a.kind ≠ .quantifier ∧ a.kind ≠ .inequality ∧ a.isMarker = false := by
  cases a with
  | quantified | inequality | premise | conclusion | inference => cases b <;> cases h
  | _ => exact ⟨nofun, nofun, rfl⟩

theorem equivalent_proposition {name : String} {truth : Option Bool} {b : Formula} :
    equivalent (proposition name truth) b = true ↔ ∃ truth', b = proposition name truth' := by
  constructor
  · intro h
    cases b with
    | proposition name' truth' =>
        obtain rfl := eq_of_beq h
        exact ⟨truth', rfl⟩
    | _ => cases h
  · rintro ⟨truth', rfl⟩
    exact beq_self_eq_true name

theorem equivalent_connective {kind : Connective} {left : Option Formula} {right b : Formula} :
    equivalent (connective kind left right) b = true ↔
      ∃ left' right', b = connective kind left' right' ∧
        equivalentOption left left' = true ∧ equivalent right right' = true := by
  constructor
  · intro h
    cases b with
    | connective kind' left' right' =>
        obtain ⟨outer, hright⟩ := Bool.and_eq_true_iff.mp h
        obtain ⟨kinds, hleft⟩ := Bool.and_eq_true_iff.mp outer
        obtain rfl := eq_of_beq kinds
        exact ⟨left', right', rfl, hleft, hright⟩
    | _ => cases h
  · rintro ⟨left', right', rfl, hleft, hright⟩
    exact Bool.and_eq_true_iff.mpr
      ⟨Bool.and_eq_true_iff.mpr ⟨beq_self_eq_true kind, hleft⟩, hright⟩

theorem equivalent_predicate {name : String} {args : List Formula} {b : Formula} :
    equivalent (predicate name args) b = true ↔
      ∃ args', b = predicate name args' ∧ equivalentList args args' = true := by
  constructor
  · intro h
    cases b with
    | predicate name' args' =>
        obtain ⟨names, hargs⟩ := Bool.and_eq_true_iff.mp h
        obtain rfl := eq_of_beq names
        exact ⟨args', rfl, hargs⟩
    | _ => cases h
  · rintro ⟨args', rfl, hargs⟩
    exact Bool.and_eq_true_iff.mpr ⟨beq_self_eq_true name, hargs⟩

theorem equivalentOption_none {b : Option Formula} :
    equivalentOption none b = true ↔ b = none := by
  cases b with
  | none => exact iff_of_true rfl rfl
  | some b => exact iff_of_false nofun nofun

theorem equivalentOption_some {a : Formula} {b : Option Formula} :
    equivalentOption (some a) b = true ↔ ∃ b', b = some b' ∧ equivalent a b' = true := by
  constructor
  · intro h
    cases b with
    | none => cases h
    | some b => exact ⟨b, rfl, h⟩
  · rintro ⟨b, rfl, h⟩
    exact h

theorem equivalent_implication {antecedent consequent b : Formula} :
    equivalent (implication antecedent consequent) b = true ↔
      ∃ antecedent' consequent', b = implication antecedent' consequent' ∧
        equivalent antecedent antecedent' = true ∧ equivalent consequent consequent' = true := by
  constructor
  · intro same
    obtain ⟨left', right', rfl, lefts, rights⟩ := equivalent_connective.mp same
    obtain ⟨antecedent', rfl, lefts⟩ := equivalentOption_some.mp lefts
    exact ⟨antecedent', right', rfl, lefts, rights⟩
  · rintro ⟨antecedent', consequent', rfl, lefts, rights⟩
    exact equivalent_connective.mpr
      ⟨_, _, rfl, equivalentOption_some.mpr ⟨_, rfl, lefts⟩, rights⟩

end Proofbook.Formula
