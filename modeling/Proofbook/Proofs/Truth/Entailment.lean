import Proofbook.Formula.Inference
import Proofbook.Proofs.Formula.Erasure
import Proofbook.Proofs.Truth.Evaluation

namespace Proofbook.Formula

variable {G H : List Formula} {c d : Formula}

theorem entails_iff : entails G c = true ↔ ∃ g ∈ G, equivalent g c = true := List.any_eq_true

theorem entails_of_subset (included : G ⊆ H) (entailed : entails G c = true) :
    entails H c = true := by
  obtain ⟨g, mem, same⟩ := entails_iff.mp entailed
  exact entails_iff.mpr ⟨g, included mem, same⟩

theorem entails_congr (members : ∀ f, f ∈ G ↔ f ∈ H) (c : Formula) :
    entails G c = entails H c := by
  rw [Bool.eq_iff_iff]
  constructor
  · exact entails_of_subset fun f => (members f).mp
  · exact entails_of_subset fun f => (members f).mpr

theorem entails_of_equivalent (entailed : entails G c = true) (same : equivalent c d = true) :
    entails G d = true := by
  obtain ⟨g, mem, first⟩ := entails_iff.mp entailed
  exact entails_iff.mpr ⟨g, mem, equivalent_trans first same⟩

theorem entails_cut (first : entails G c = true) (second : entails (c :: H) d = true) :
    entails (G ++ H) d = true := by
  obtain ⟨h, mem, same⟩ := entails_iff.mp second
  rcases List.mem_cons.mp mem with rfl | mem
  · exact entails_of_subset (List.subset_append_left G H) (entails_of_equivalent first same)
  · exact entails_of_subset (List.subset_append_right G H) (entails_iff.mpr ⟨h, mem, same⟩)

theorem entails_holds {σ : Assignment} (entailed : entails G c = true)
    (covered : ∀ g ∈ G, Covers σ g) (hold : ∀ g ∈ G, evaluate σ g = .ok .holds) :
    evaluate σ c = .ok .holds := by
  obtain ⟨g, mem, same⟩ := entails_iff.mp entailed
  exact (evaluate_equivalent same (covered g mem)).mp (hold g mem)

theorem entailment_is_structural_and_sound :
    (∀ (G H : List Formula) (c : Formula), (∀ f, f ∈ G ↔ f ∈ H) → entails G c = entails H c) ∧
    (∀ (G H : List Formula) (c : Formula), G ⊆ H → entails G c = true → entails H c = true) ∧
    (∀ (G H : List Formula) (c d : Formula), entails G c = true → entails (c :: H) d = true →
      entails (G ++ H) d = true) ∧
    ∀ (G : List Formula) (c : Formula) (σ : Assignment), entails G c = true →
      (∀ g ∈ G, ∀ name ∈ g.propositionNames, (σ name).isSome) →
      (∀ g ∈ G, evaluate σ g = .ok .holds) → evaluate σ c = .ok .holds :=
  ⟨fun _ _ c members => entails_congr members c, fun _ _ _ => entails_of_subset,
    fun _ _ _ _ => entails_cut, fun _ _ _ => entails_holds⟩

theorem entailment_is_structural_and_sound_conjunction :
    let stated := conjunction (proposition "Q" (some false)) (atom "R")
    let plain := conjunction (atom "Q") (atom "R")
    let allTrue : Assignment := fun _ => some true
    (∀ f, f ∈ [stated, atom "P"] ↔ f ∈ [atom "P", stated, stated]) ∧
      entails [stated, atom "P"] plain = entails [atom "P", stated, stated] plain ∧
      [stated] ⊆ [stated, atom "P"] ∧ entails [stated] plain = true ∧
      entails [stated, atom "P"] plain = true ∧ entails [plain, atom "P"] stated = true ∧
      entails ([stated] ++ [atom "P"]) stated = true ∧
      (∀ g ∈ [stated], ∀ name ∈ g.propositionNames, (allTrue name).isSome) ∧
      (∀ g ∈ [stated], evaluate allTrue g = .ok .holds) ∧ evaluate allTrue plain = .ok .holds := by
  intro stated plain allTrue
  obtain ⟨same, more, cut, sound⟩ := entailment_is_structural_and_sound
  have members : ∀ f, f ∈ [stated, atom "P"] ↔ f ∈ [atom "P", stated, stated] := by
    intro f
    simp [or_comm]
  have included : [stated] ⊆ [stated, atom "P"] := by simp
  have entailed : entails [stated] plain = true := by decide
  have back : entails [plain, atom "P"] stated = true := by decide
  have covered : ∀ g ∈ [stated], ∀ name ∈ g.propositionNames, (allTrue name).isSome :=
    fun _ _ _ _ => rfl
  have hold : ∀ g ∈ [stated], evaluate allTrue g = .ok .holds := List.forall_mem_singleton.mpr rfl
  exact ⟨members, same _ _ plain members, included, entailed, more _ _ plain included entailed,
    back, cut _ _ _ _ entailed back, covered, hold, sound _ _ allTrue entailed covered hold⟩

end Proofbook.Formula
