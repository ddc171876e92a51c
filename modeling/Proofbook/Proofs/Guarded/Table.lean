import Proofbook.Proofs.Guarded.Basic
import Proofbook.Proofs.Truth.Tabulation

namespace Proofbook

open Checked

namespace Guarded

/-- One binary digit of a number, counted from the greatest. -/
def digit (count number position : Nat) : Checked Bool := do
  let place ← bit (← difference (← difference count 1) position)
  return number &&& place != 0

def digits (count number : Nat) : Checked (List Bool) :=
  (List.range count).mapM (digit count number)

def table (formula : Formula) (limit : Nat) : Checked Truth.Table := do
  let names := Truth.sortNames formula.propositionNames
  if limit < names.length ∨ Truth.greatestTable < names.length then
    fail (.tableTooLarge names.length limit)
  else
    reserve (← bit names.length) Truth.rowSize
    let rows ← (List.range (← bit names.length)).mapM fun number => do
      let values ← digits names.length number
      let truth ← ofExcept (formula.evaluate (Truth.assign names values))
      return { values, truth : Truth.Row }
    return { propositions := names, rows }

end Guarded

/-! ## No shift is too wide -/

namespace Guarded

variable {count limit : Nat} {formula : Formula}

theorem digit_eq {position : Nat} (inside : position < count) (fits : count ≤ wordSize)
    (number : Nat) : digit count number position = .ok (number.testBit (count - 1 - position)) := by
  have last : difference count 1 = .ok (count - 1) := difference_of_le (by omega)
  have place : difference (count - 1) position = .ok (count - 1 - position) :=
    difference_of_le (by omega)
  have shifted : bit (count - 1 - position) = .ok (1 <<< (count - 1 - position)) :=
    bit_of_lt (by omega)
  rw [digit, last, ok_bind, place, ok_bind, shifted, ok_bind, Nat.one_shiftLeft, Nat.and_two_pow]
  cases number.testBit (count - 1 - position) <;> simp

theorem digits_eq (fits : count ≤ wordSize) (number : Nat) :
    digits count number = .ok (Truth.rowValues count number) :=
  mapM_eq_ok_map fun _ mem => digit_eq (List.mem_range.mp mem) fits number

/-! ## When the rows can be reserved -/

theorem length_columns_lt (small : ¬Truth.IsTooLarge formula limit) :
    (Truth.columns formula).length < wordSize :=
  Nat.lt_succ_of_le (Nat.not_lt.mp (not_or.mp small).2)

theorem bit_columns (small : ¬Truth.IsTooLarge formula limit) :
    bit (Truth.columns formula).length = .ok (Nat.pow 2 (Truth.columns formula).length) := by
  rw [bit_of_lt (length_columns_lt small), Nat.one_shiftLeft]
  rfl

theorem follows_table (settled : Truth.overflows formula limit = false) :
    (table formula limit).Follows (Truth.table formula limit) := by
  refine .ite (fun _ => follows_fail _) fun small => ?_
  have shifted := bit_columns small
  have reserved := reserve_of_lt (Truth.bytes_lt_of_not_overflows small settled)
  refine .ok_bind shifted (.ok_bind reserved (.ok_bind shifted ?_))
  rw [Truth.forValuations_eq_mapM, Truth.valuations_eq_map_rowValues, List.mapM_map]
  refine Checked.Follows.bind (Checked.Follows.mapM fun number _ => ?_) fun rows _ => follows_ok _
  refine .ok_bind (digits_eq (Nat.le_of_lt (length_columns_lt small)) number) ?_
  exact (follows_ofExcept _).bind fun truth _ => follows_ok _

theorem table_of_overflows (overflows : Truth.overflows formula limit = true) :
    table formula limit = Checked.trap (.capacity (2 ^ (Truth.columns formula).length)) := by
  have small := Truth.not_isTooLarge_of_overflows overflows
  have refused := reserve_of_le (Truth.bytes_iff.mpr (Truth.overflows_iff.mp overflows).1)
  refine (if_neg small).trans ?_
  rw [← Truth.columns, bit_columns small, ok_bind, refused]
  rfl

end Guarded

end Proofbook
