import Proofbook.Proofs.Formula.Subformula
import Proofbook.Truth.Table
import Mathlib.Algebra.Ring.Nat
import Mathlib.Data.Nat.Bitwise

namespace Proofbook

/-! ## Names in a formula -/

namespace Formula

variable {name : String}

theorem mem_propositionNamesList {fs : List Formula} :
    name ∈ propositionNamesList fs ↔ ∃ f ∈ fs, name ∈ f.propositionNames := by
  induction fs with
  | nil => simp [propositionNamesList]
  | cons f fs ih => simp [propositionNamesList, ih]

theorem mem_propositionNames_of_parts {f : Formula} (noProposition : f.kind ≠ .proposition) :
    name ∈ f.propositionNames ↔ ∃ part ∈ f.children, name ∈ part.propositionNames := by
  cases f with
  | proposition => exact absurd rfl noProposition
  | quantified kind bound domain body => cases domain <;> simp [propositionNames, children]
  | connective kind left right => cases left <;> simp [propositionNames, children]
  | _ => simp [propositionNames, children, mem_propositionNamesList]

theorem mem_propositionNames {f : Formula} :
    name ∈ f.propositionNames ↔ ∃ truth, Subformula (proposition name truth) f := by
  induction f using inductionOnParts with
  | step f ih =>
    by_cases here : f.kind = .proposition
    · cases f <;> cases here
      constructor
      · intro mem
        obtain rfl := List.mem_singleton.mp mem
        exact ⟨_, .self _⟩
      · rintro ⟨truth, inside⟩
        cases inside with
        | self => exact List.mem_singleton.mpr rfl
        | part mem => cases mem
    · rw [mem_propositionNames_of_parts here]
      constructor
      · rintro ⟨part, mem, named⟩
        obtain ⟨truth, inside⟩ := (ih part mem).mp named
        exact ⟨truth, .part mem inside⟩
      · rintro ⟨truth, inside⟩
        cases inside with
        | self => exact absurd rfl here
        | part mem inside => exact ⟨_, mem, (ih _ mem).mpr ⟨truth, inside⟩⟩

end Formula

namespace Truth

variable {name : String} {names : List String} {values : List Bool}

/-! ## Names in order -/

theorem mem_insertName {other : String} :
    name ∈ insertName other names ↔ name = other ∨ name ∈ names := by
  induction names with
  | nil => simp [insertName]
  | cons first rest ih =>
      rw [insertName]
      split
      · simp
      · split
        · simp_all
        · simp only [List.mem_cons, ih]
          exact or_left_comm

theorem mem_sortNames : name ∈ sortNames names ↔ name ∈ names := by
  induction names with
  | nil => rfl
  | cons first rest ih =>
      have step : sortNames (first :: rest) = insertName first (sortNames rest) := rfl
      rw [step, mem_insertName, ih, List.mem_cons]

theorem pairwise_insertName (sorted : names.Pairwise (· < ·)) :
    (insertName name names).Pairwise (· < ·) := by
  induction names with
  | nil => exact List.pairwise_singleton _ _
  | cons first rest ih =>
      obtain ⟨least, sorted⟩ := List.pairwise_cons.mp sorted
      rw [insertName]
      split
      · rename_i before
        refine List.pairwise_cons.mpr ⟨?_, List.pairwise_cons.mpr ⟨least, sorted⟩⟩
        intro other mem
        rcases List.mem_cons.mp mem with rfl | mem
        · exact before
        · exact String.lt_trans before (least other mem)
      · split
        · exact List.pairwise_cons.mpr ⟨least, sorted⟩
        · rename_i notBefore other
          have after : first < name := by
            refine Decidable.byContradiction fun notAfter => other ?_
            exact String.le_antisymm (String.not_lt.mp notAfter) (String.not_lt.mp notBefore)
          refine List.pairwise_cons.mpr ⟨fun other mem => ?_, ih sorted⟩
          rcases mem_insertName.mp mem with rfl | mem
          · exact after
          · exact least other mem

theorem pairwise_sortNames (names : List String) : (sortNames names).Pairwise (· < ·) := by
  induction names with
  | nil => exact .nil
  | cons first rest ih => exact pairwise_insertName ih

theorem nodup_sortNames (names : List String) : (sortNames names).Nodup := by
  refine (pairwise_sortNames names).imp ?_
  rintro first second before rfl
  exact String.lt_irrefl first before

/-! ## Rows in order -/

theorem mem_valuations {n : Nat} : values ∈ valuations n ↔ values.length = n := by
  induction n generalizing values with
  | zero => simp [valuations]
  | succ n ih =>
      cases values with
      | nil => simp [valuations]
      | cons value values => cases value <;> simp [valuations, ih]

theorem pairwise_valuations (n : Nat) : (valuations n).Pairwise (· < ·) := by
  induction n with
  | zero => exact List.pairwise_singleton _ _
  | succ n ih =>
      have half (value : Bool) : ((valuations n).map (value :: ·)).Pairwise (· < ·) :=
        List.pairwise_map.mpr (ih.imp fun lt => List.cons_lt_cons_iff.mpr (.inr ⟨rfl, lt⟩))
      refine List.pairwise_append.mpr ⟨half false, half true, fun low isLow high isHigh => ?_⟩
      obtain ⟨low, -, rfl⟩ := List.mem_map.mp isLow
      obtain ⟨high, -, rfl⟩ := List.mem_map.mp isHigh
      exact List.cons_lt_cons_iff.mpr (.inl (by decide))

theorem nodup_valuations (n : Nat) : (valuations n).Nodup := by
  refine (pairwise_valuations n).imp ?_
  rintro first second before rfl
  exact List.lt_irrefl first before

/-! ## Rows by number -/

/-- The binary digits of a number, from the greatest of as many as are asked for. -/
def rowValues (count number : Nat) : List Bool :=
  (List.range count).map fun position => number.testBit (count - 1 - position)

theorem length_rowValues (count number : Nat) : (rowValues count number).length = count := by
  rw [rowValues, List.length_map, List.length_range]

theorem rowValues_succ (count number : Nat) :
    rowValues (count + 1) number = number.testBit count :: rowValues count number := by
  unfold rowValues
  rw [List.range_succ_eq_map, List.map_cons, List.map_map]
  congr 1
  apply List.map_congr_left
  intro position _
  rw [Function.comp_apply]
  congr 1
  omega

theorem rowValues_add (count number : Nat) :
    rowValues count (2 ^ count + number) = rowValues count number := by
  unfold rowValues
  apply List.map_congr_left
  intro position mem
  have inside := List.mem_range.mp mem
  exact Nat.testBit_two_pow_add_gt (by omega) number

theorem valuations_eq_map_rowValues (count : Nat) :
    valuations count = (List.range (2 ^ count)).map (rowValues count) := by
  induction count with
  | zero => rfl
  | succ count ih =>
      -- The first digit of a row tells in which half of the table it is.
      have low : ∀ number ∈ List.range (2 ^ count),
          rowValues (count + 1) number = false :: rowValues count number := by
        intro number mem
        rw [rowValues_succ, Nat.testBit_lt_two_pow (List.mem_range.mp mem)]
      have high : ∀ number ∈ List.range (2 ^ count),
          rowValues (count + 1) (2 ^ count + number) = true :: rowValues count number := by
        intro number mem
        rw [rowValues_succ, Nat.testBit_two_pow_add_eq,
          Nat.testBit_lt_two_pow (List.mem_range.mp mem), rowValues_add]
        rfl
      rw [valuations, ih, Nat.pow_succ, Nat.mul_two, List.range_add, List.map_append, List.map_map,
        List.map_map, List.map_map, List.map_congr_left low]
      congr 1
      exact (List.map_congr_left high).symm

theorem length_valuations (count : Nat) : (valuations count).length = 2 ^ count := by
  rw [valuations_eq_map_rowValues, List.length_map, List.length_range]

theorem getElem?_valuations {count number : Nat} :
    (valuations count)[number]? = some values ↔
      number < 2 ^ count ∧ rowValues count number = values := by
  rw [valuations_eq_map_rowValues, List.getElem?_map, Option.map_eq_some_iff]
  simp only [List.getElem?_eq_some_iff, List.length_range, List.getElem_range]
  constructor
  · rintro ⟨_, ⟨inside, rfl⟩, digits⟩
    exact ⟨inside, digits⟩
  · rintro ⟨inside, digits⟩
    exact ⟨number, ⟨inside, rfl⟩, digits⟩

theorem toNat_rowValues (count number : Nat) :
    (BitVec.ofBoolListBE (rowValues count number)).toNat = number % 2 ^ count := by
  induction count with
  | zero =>
      rw [Nat.pow_zero, Nat.mod_one]
      rfl
  | succ count ih =>
      rw [rowValues_succ, BitVec.ofBoolListBE, BitVec.toNat_cons', ih, length_rowValues,
        Nat.toNat_testBit, Nat.mod_pow_succ, Nat.shiftLeft_eq, Nat.mul_comm, Nat.add_comm]

/-! ## Assignments of a row -/

theorem assign_cons (first : String) (value : Bool) :
    assign (first :: names) (value :: values) name =
      if name = first then some value else assign names values name := by
  rw [assign, List.zip_cons_cons, List.lookup_cons]
  by_cases here : name = first
  · simp [here]
  · rw [beq_false_of_ne here, if_neg here]
    rfl

theorem map_assign (distinct : names.Nodup) (same : values.length = names.length) :
    names.map (assign names values) = values.map some := by
  induction names generalizing values with
  | nil =>
      obtain rfl := List.eq_nil_of_length_eq_zero same
      rfl
  | cons first rest ih =>
      cases values with
      | nil => cases same
      | cons value values =>
          obtain ⟨fresh, distinct⟩ := List.nodup_cons.mp distinct
          have others : rest.map (assign (first :: rest) (value :: values)) =
              rest.map (assign rest values) := by
            refine List.map_congr_left fun name mem => ?_
            rw [assign_cons, if_neg (ne_of_mem_of_not_mem mem fresh)]
          rw [List.map_cons, List.map_cons, others, ih distinct (Nat.succ.inj same), assign_cons,
            if_pos rfl]

end Truth

end Proofbook
