import Proofbook.Proofs.Outcome
import Proofbook.Proofs.Text.ByteOrder
import Proofbook.Proofs.Truth.Enumeration
import Proofbook.Proofs.Truth.Information
import Mathlib.Data.Set.Card

namespace Proofbook

namespace Truth

open Formula

variable {f : Formula} {limit : Nat}

/-! ## When there is a table -/

theorem forValuations_eq_error {ε α : Type} {row : List Bool → Except ε α} {fault : ε}
    (failed : ∀ values, row values = .error fault) (n : Nat) :
    forValuations row n = .error fault := by
  induction n generalizing row with
  | zero => rw [forValuations, failed]; rfl
  | succ n ih => rw [forValuations, ih fun values => failed (false :: values)]; rfl

def columns (f : Formula) : List String := sortNames f.propositionNames

theorem mem_columns {name : String} :
    name ∈ columns f ↔ ∃ truth, Subformula (proposition name truth) f :=
  mem_sortNames.trans mem_propositionNames

theorem nodup_columns (f : Formula) : (columns f).Nodup := nodup_sortNames _

def row (f : Formula) (values : List Bool) : Except Error Row := do
  let truth ← f.evaluate (assign (columns f) values)
  return { values, truth }

def IsTooLarge (f : Formula) (limit : Nat) : Prop :=
  limit < (columns f).length ∨ greatestTable < (columns f).length

theorem table_of_isTooLarge (large : IsTooLarge f limit) :
    table f limit = .error (.tableTooLarge (columns f).length limit) := by
  unfold IsTooLarge columns at large
  unfold table
  simp only [if_pos large]
  rfl

theorem table_of_not_isTooLarge (small : ¬IsTooLarge f limit) :
    table f limit = (forValuations (row f) (columns f).length).map (Table.mk (columns f)) := by
  unfold IsTooLarge columns at small
  unfold table
  simp only [if_neg small]
  rfl

theorem table_of_reported {g : Formula}
    (reported : ∀ σ, evaluate σ f = .error (.notPropositional g)) (small : ¬IsTooLarge f limit) :
    table f limit = .error (.notPropositional g) := by
  have failed (values : List Bool) : row f values = .error (.notPropositional g) := by
    rw [row, reported]
    rfl
  rw [table_of_not_isTooLarge small, forValuations_eq_error failed]
  rfl

theorem bytes_iff {count : Nat} : blockBound ≤ Nat.pow 2 count * rowSize ↔ 58 ≤ count := by
  have bytes : Nat.pow 2 count * rowSize = 2 ^ (count + 5) := (Nat.pow_add 2 count 5).symm
  have bound : blockBound = 2 ^ 63 := rfl
  rw [bytes, bound, Nat.pow_le_pow_iff_right (by decide)]
  omega

theorem overflows_iff :
    overflows f limit = true ↔
      58 ≤ (columns f).length ∧ (columns f).length ≤ 63 ∧ (columns f).length ≤ limit := by
  unfold overflows columns
  simp only [Bool.and_eq_true, decide_eq_true_iff, bytes_iff]
  exact ⟨fun ⟨⟨admitted, fits⟩, broad⟩ => ⟨broad, fits, admitted⟩,
    fun ⟨broad, fits, admitted⟩ => ⟨⟨admitted, fits⟩, broad⟩⟩

theorem not_isTooLarge_of_overflows (large : overflows f limit = true) : ¬IsTooLarge f limit := by
  obtain ⟨-, fits, admitted⟩ := overflows_iff.mp large
  exact not_or.mpr ⟨Nat.not_lt.mpr admitted, Nat.not_lt.mpr fits⟩

theorem bytes_lt_of_not_overflows (small : ¬IsTooLarge f limit)
    (settled : overflows f limit = false) :
    Nat.pow 2 (columns f).length * rowSize < blockBound := by
  refine Nat.not_le.mp fun large => Bool.eq_false_iff.mp settled (overflows_iff.mpr ?_)
  obtain ⟨admitted, fits⟩ := not_or.mp small
  exact ⟨bytes_iff.mp large, Nat.not_lt.mp fits, Nat.not_lt.mp admitted⟩

/-! ## What is in a table -/

theorem table_ok {t : Table} (h : table f limit = .ok t) :
    t.propositions = columns f ∧ t.rows.map Row.values = valuations (columns f).length ∧
      ∀ row ∈ t.rows, evaluate (assign (columns f) row.values) f = .ok row.truth := by
  by_cases large : IsTooLarge f limit
  · rw [table_of_isTooLarge large] at h
    cases h
  · rw [table_of_not_isTooLarge large, Except.map_eq_ok] at h
    obtain ⟨rows, formed, rfl⟩ := h
    rw [forValuations_eq_mapM, Except.mapM_eq_ok] at formed
    have each : List.Forall₂ (fun values row => values = row.values ∧
        evaluate (assign (columns f) values) f = .ok row.truth)
        (valuations (columns f).length) rows := by
      refine formed.imp fun values row made => ?_
      obtain ⟨truth, value, made⟩ := Except.bind_eq_ok.mp made
      obtain rfl := Except.pure_eq_ok.mp made
      exact ⟨rfl, value⟩
    have same : valuations (columns f).length = rows.map Row.values := by
      rw [← List.forall₂_eq_eq_eq, List.forall₂_map_right_iff]
      exact each.imp fun _ _ made => made.1
    rw [same, List.forall₂_map_left_iff, List.forall₂_same] at each
    exact ⟨rfl, same.symm, fun row mem => (each row mem).2⟩

theorem evaluate_row {t : Table} (h : table f limit = .ok t) {row : Row} (mem : row ∈ t.rows)
    {σ : Assignment} (assigned : t.propositions.map σ = row.values.map some) :
    evaluate σ f = .ok row.truth := by
  obtain ⟨listed, rows, values⟩ := table_ok h
  have length : row.values.length = (columns f).length :=
    mem_valuations.mp (rows ▸ List.mem_map_of_mem mem)
  have agree : ∀ name ∈ columns f, σ name = assign (columns f) row.values name := by
    rw [listed, ← map_assign (nodup_columns f) length] at assigned
    exact List.map_inj_left.mp assigned
  rw [← values row mem]
  refine evaluate_congr fun name truth inside => ?_
  rw [agree name (mem_columns.mpr ⟨truth, inside⟩)]

theorem values_of_getElem? {t : Table} (h : table f limit = .ok t) {number : Nat} {row : Row}
    (found : t.rows[number]? = some row) :
    number < 2 ^ (columns f).length ∧ rowValues (columns f).length number = row.values := by
  obtain ⟨-, rows, -⟩ := table_ok h
  apply getElem?_valuations.mp
  rw [← rows, List.getElem?_map, found, Option.map_some]

end Truth

namespace Formula

open Truth

/-- There is a row for every assignment to the names, each once and in lexicographic order. -/
theorem table_is_complete {f : Formula} {limit : Nat} {t : Table} (h : table f limit = .ok t) :
    (∀ name, name ∈ t.propositions ↔ ∃ truth, Subformula (proposition name truth) f) ∧
    t.propositions.Pairwise (fun first second => Text.bytes first < Text.bytes second) ∧
    t.rows.length = 2 ^ t.propositions.length ∧
    (∀ number row, t.rows[number]? = some row →
      row.values.length = t.propositions.length ∧
      (BitVec.ofBoolListBE row.values).toNat = number ∧
      ∀ σ : Assignment, t.propositions.map σ = row.values.map some →
        evaluate σ f = .ok row.truth) ∧
    (∀ values : List Bool, values.length = t.propositions.length →
      (t.rows.map Row.values).count values = 1) ∧
    (t.rows.map Row.values).Pairwise (· < ·) := by
  obtain ⟨listed, rows, -⟩ := table_ok h
  refine ⟨fun name => ?_, ?_, ?_, fun number row found => ?_, fun values length => ?_, ?_⟩
  · rw [listed]
    exact mem_columns
  · rw [listed]
    exact (pairwise_sortNames _).imp Text.bytes_lt_bytes
  · rw [listed, ← length_valuations, ← rows, List.length_map]
  · obtain ⟨inside, digits⟩ := values_of_getElem? h found
    refine ⟨?_, ?_, fun σ => evaluate_row h (List.mem_of_getElem? found)⟩
    · rw [listed, ← digits, length_rowValues]
    · rw [← digits, toNat_rowValues, Nat.mod_eq_of_lt inside]
  · rw [rows]
    exact List.count_eq_one_of_mem (nodup_valuations _) (mem_valuations.mpr (listed ▸ length))
  · rw [rows]
    exact pairwise_valuations _

def refutation : Formula :=
  implication (atom "Q") (conjunction (proposition "P" (some true)) (negation (atom "P")))

def refutationTable : Table where
  propositions := ["P", "Q"]
  rows := [⟨[false, false], .holds⟩, ⟨[false, true], .fails⟩, ⟨[true, false], .holds⟩,
    ⟨[true, true], .fails⟩]

theorem table_is_complete_refutation :
    table refutation 2 = .ok refutationTable ∧
    ∀ σ : Assignment, σ "P" = some true → σ "Q" = some false →
      evaluate σ refutation = .ok .holds := by
  have made : table refutation 2 = .ok refutationTable := by rfl
  refine ⟨made, fun σ first second => ?_⟩
  obtain ⟨-, -, -, rows, -⟩ := table_is_complete made
  refine (rows 2 _ rfl).2.2 σ ?_
  simp [refutationTable, first, second]

end Formula

end Proofbook
