import Mathlib.Data.List.Forall2
import Proofbook.Proofs.Formula.Derivation
import Proofbook.Proofs.Formula.Erasure
import Proofbook.Proofs.Formula.Substitution

/-!
Substitution commutes with erasure (`erase_substitute`) and keeps formulas comparable, so its part
of the statement is one equation between erasures. A rule compares two of its premises itself; that
equivalence is symmetric and transitive carries a match from one list of premises to the other.
-/

namespace Proofbook.Formula

/-! ## Erasure part by part -/

theorem eraseList_eq_map (fs : List Formula) : eraseList fs = fs.map erase := by
  induction fs with
  | nil => rfl
  | cons f fs ih => exact congrArg (erase f :: ·) ih

theorem erase_quantified (kind : Quantifier) (name : String) (domain : Option Formula)
    (body : Formula) :
    (quantified kind name domain body).erase =
      quantified kind name (domain.map erase) body.erase := by
  cases domain <;> rfl

theorem erase_eq_mapParts {f : Formula} (notProposition : f.kind ≠ .proposition)
    (notNumber : f.kind ≠ .number) : f.erase = f.mapParts erase := by
  cases f with
  | proposition => exact absurd rfl notProposition
  | number => exact absurd rfl notNumber
  | quantified kind name domain body => exact erase_quantified kind name domain body
  | connective kind left right => cases left <;> rfl
  | predicate name args => exact congrArg (predicate name) (eraseList_eq_map args)
  | function name args => exact congrArg (function name) (eraseList_eq_map args)
  | inference rule premises => exact congrArg (inference rule) (eraseList_eq_map premises)
  | _ => rfl

/-! ## Substitution -/

section

variable {a b r s : Formula} (x : String)

theorem erase_substitute_of_parts {f : Formula} (notVar : f.kind ≠ .var)
    (notQuantified : f.kind ≠ .quantifier) (notProposition : f.kind ≠ .proposition)
    (notNumber : f.kind ≠ .number) (parts : ∀ part ∈ f.children,
      (substitute x r part).erase = substitute x r.erase part.erase) :
    (substitute x r f).erase = substitute x r.erase f.erase := by
  have replaced := kind_mapParts (substitute x r) f
  have erased := kind_erase f
  calc (substitute x r f).erase
      = (f.mapParts (substitute x r)).mapParts erase := by
        rw [substitute_eq_mapParts x r notVar notQuantified,
          erase_eq_mapParts (replaced ▸ notProposition) (replaced ▸ notNumber)]
    _ = (f.mapParts erase).mapParts (substitute x r.erase) := by
        rw [mapParts_mapParts, mapParts_mapParts, mapParts_congr parts]
    _ = substitute x r.erase f.erase := by
        rw [← erase_eq_mapParts notProposition notNumber,
          substitute_eq_mapParts x r.erase (erased ▸ notVar) (erased ▸ notQuantified)]

theorem erase_substitute (r f : Formula) :
    (substitute x r f).erase = substitute x r.erase f.erase := by
  induction f using inductionOnBinders with
  | var name bound =>
      by_cases same : name = x
      · simp only [substitute_var, erase, if_pos same]
      · simp only [substitute_var, erase, if_neg same]
  | quantified kind name domain body ranging inner =>
      have domains : (domain.map (substitute x r)).map erase =
          (domain.map erase).map (substitute x r.erase) := by
        rw [Option.map_map, Option.map_map]
        exact Option.map_congr ranging
      rw [substitute_quantified, erase_quantified, erase_quantified, substitute_quantified, domains]
      by_cases shielded : name = x
      · simp only [if_pos shielded]
      · simp only [if_neg shielded, inner]
  | other f notVar notQuantified parts =>
      cases f with
      | proposition | number => rfl
      | _ =>
          exact erase_substitute_of_parts x notVar notQuantified (by simp [kind]) (by simp [kind])
            parts

theorem comparable_substitute (comparable : a.Comparable) (new : r.Comparable) :
    (substitute x r a).Comparable := by
  induction a using inductionOnBinders with
  | var name bound =>
      rw [substitute_var]
      split
      · exact new
      · exact comparable
  | quantified kind name domain body ranging inner =>
      exact absurd rfl (comparable_iff.mp comparable).1.1
  | other f notVar notQuantified parts =>
      obtain ⟨root, each⟩ := comparable_iff.mp comparable
      rw [substitute_eq_mapParts x r notVar notQuantified, comparable_iff, kind_mapParts,
        isMarker_mapParts, children_mapParts, List.forall_mem_map]
      exact ⟨root, fun part mem => parts part mem (each part mem)⟩

theorem equivalent_substitute (formulas : equivalent a b = true)
    (replacements : equivalent r s = true) :
    equivalent (substitute x r a) (substitute x s b) = true := by
  obtain ⟨first, second, same⟩ := (equivalent_iff a b).mp formulas
  obtain ⟨first', second', same'⟩ := (equivalent_iff r s).mp replacements
  refine (equivalent_iff _ _).mpr
    ⟨comparable_substitute x first first', comparable_substitute x second second', ?_⟩
  rw [erase_substitute, erase_substitute, same, same']

end

/-! ## Rules -/

abbrev EquivalentAll (ps qs : List Formula) : Prop :=
  List.Forall₂ (fun p q => equivalent p q = true) ps qs

variable {rule : Rule} {ps qs : List Formula}

theorem EquivalentAll.symm (same : EquivalentAll ps qs) : EquivalentAll qs ps :=
  same.flip.imp fun p q related => by rwa [equivalent_comm]

theorem EquivalentAll.two {a b : Formula} (same : EquivalentAll [a, b] qs) :
    ∃ a' b', qs = [a', b'] ∧ equivalent a a' = true ∧ equivalent b b' = true := by
  cases same with
  | cons first rest =>
      cases rest with
      | cons second rest =>
          cases rest
          exact ⟨_, _, rfl, first, second⟩

theorem equivalent_congr {a b a' b' : Formula} (matching : equivalent a b = true)
    (first : equivalent a a' = true) (second : equivalent b b' = true) :
    equivalent a' b' = true := by
  rw [equivalent_comm] at first
  exact equivalent_trans (equivalent_trans first matching) second

theorem derive_of_equivalent {d : Formula} (derived : derive rule ps = some d)
    (same : EquivalentAll ps qs) :
    ∃ e, derive rule qs = some e ∧ equivalent d e = true := by
  rcases derive_cases derived with ⟨antecedent, fact, rfl, rfl, matching⟩ |
    ⟨antecedent, consequent, stray, denied, rfl, rfl, matching, rfl⟩ |
    ⟨name, domain, term, rfl, rfl⟩ | ⟨rfl, rfl⟩
  · obtain ⟨_, fact', rfl, conditionals, facts⟩ := same.two
    obtain ⟨antecedent', d', rfl, antecedents, consequents⟩ :=
      equivalent_implication.mp conditionals
    have matching' := equivalent_congr matching antecedents facts
    exact ⟨d', derive_modusPonens matching', consequents⟩
  · obtain ⟨_, _, rfl, conditionals, negations⟩ := same.two
    obtain ⟨antecedent', consequent', rfl, antecedents, consequents⟩ :=
      equivalent_implication.mp conditionals
    obtain ⟨stray', denied', rfl, -, denials⟩ := equivalent_connective.mp negations
    have matching' := equivalent_congr matching consequents denials
    refine ⟨negation antecedent', derive_modusTollens matching', ?_⟩
    exact equivalent_connective.mpr ⟨none, antecedent', rfl, rfl, antecedents⟩
  · -- No formula is equivalent to the quantified premise.
    obtain ⟨_, _, rfl, quantifieds, -⟩ := same.two
    exact absurd rfl (comparable_of_equivalent quantifieds).1
  · cases same with
    | cons statements rest =>
        cases rest
        exact ⟨_, rfl, statements⟩

theorem derive_equivalent (rule : Rule) (same : EquivalentAll ps qs) :
    (derive rule ps = none ∧ derive rule qs = none) ∨
      ∃ d e, derive rule ps = some d ∧ derive rule qs = some e ∧ equivalent d e = true := by
  cases first : derive rule ps with
  | some d =>
      obtain ⟨e, second, related⟩ := derive_of_equivalent first same
      exact .inr ⟨d, e, rfl, second, related⟩
  | none =>
      cases second : derive rule qs with
      | none => exact .inl ⟨rfl, rfl⟩
      | some e =>
          obtain ⟨d, derived, -⟩ := derive_of_equivalent second same.symm
          rw [first] at derived
          cases derived

theorem equivalence_is_congruence :
    (∀ (a b r s : Formula) (x : String), equivalent a b = true → equivalent r s = true →
      equivalent (substitute x r a) (substitute x s b) = true) ∧
    ∀ (rule : Rule) (ps qs : List Formula),
      List.Forall₂ (fun p q => equivalent p q = true) ps qs →
      (derive rule ps = none ∧ derive rule qs = none) ∨
        ∃ d e, derive rule ps = some d ∧ derive rule qs = some e ∧ equivalent d e = true :=
  ⟨fun _ _ _ _ x => equivalent_substitute x, fun rule _ _ => derive_equivalent rule⟩

theorem equivalence_is_congruence_zero :
    let conditional (truth : Option Bool) :=
      implication (predicate "P" [var "x" false]) (proposition "Q" truth)
    let zero := number .zero
    let negativeZero := number (.ofMagnitude true 0)
    let instantiated := substitute "x" zero (conditional (some true))
    let instantiated' := substitute "x" negativeZero (conditional none)
    let denied := negation (atom "Q")
    equivalent (conditional (some true)) (conditional none) = true ∧
      equivalent zero negativeZero = true ∧ equivalent instantiated instantiated' = true ∧
      List.Forall₂ (fun p q => equivalent p q = true) [instantiated, denied]
        [instantiated', denied] ∧
      ∃ d e, derive .modusTollens [instantiated, denied] = some d ∧
        derive .modusTollens [instantiated', denied] = some e ∧ equivalent d e = true := by
  intro conditional zero negativeZero instantiated instantiated' denied
  have conditionals : equivalent (conditional (some true)) (conditional none) = true := by decide
  have zeros : equivalent zero negativeZero = true := by decide
  have premises : List.Forall₂ (fun p q => equivalent p q = true) [instantiated, denied]
      [instantiated', denied] := by
    have denials : equivalent denied denied = true := by decide
    exact .cons (equivalence_is_congruence.1 _ _ _ _ "x" conditionals zeros) (.cons denials .nil)
  refine ⟨conditionals, zeros, equivalence_is_congruence.1 _ _ _ _ "x" conditionals zeros,
    premises, ?_⟩
  rcases equivalence_is_congruence.2 .modusTollens _ _ premises with ⟨nothing, -⟩ | derived
  · cases nothing
  · exact derived

end Proofbook.Formula
