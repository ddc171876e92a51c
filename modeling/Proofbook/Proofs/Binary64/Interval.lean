import Proofbook.Binary64.Shortest
import Mathlib.Algebra.Order.Field.Power
import Mathlib.Algebra.Order.Ring.Rat
import Mathlib.Tactic.FieldSimp
import Mathlib.Tactic.Linarith
import Mathlib.Tactic.NormNum
import Mathlib.Tactic.Positivity
import Mathlib.Tactic.Ring

namespace Proofbook

theorem ratio_rescale {base : ℕ} (pos : 0 < base) (exponent : ℤ) (num den : ℕ) :
    ((rescale base exponent num den).1 : ℚ) / (rescale base exponent num den).2 =
      num / den / (base : ℚ) ^ exponent := by
  have nonzero : (base : ℚ) ≠ 0 := by exact_mod_cast pos.ne'
  have split : (base : ℚ) ^ exponent = base ^ exponent.toNat / base ^ (-exponent).toNat := by
    rw [← zpow_natCast, ← zpow_natCast, ← zpow_sub₀ nonzero]
    congr 1
    omega
  rw [split]
  simp only [rescale, Nat.pow_eq, Nat.cast_mul, Nat.cast_pow]
  field_simp

namespace Binary64

/-! ## Boundaries -/

/-- The mantissa of the finite number with the given bits above the sign. -/
def mantissaAt (bits : ℕ) : ℕ :=
  if bits / 2 ^ 52 = 0 then bits % 2 ^ 52 else 2 ^ 52 + bits % 2 ^ 52

def scaleAt (bits : ℕ) : ℤ := if bits / 2 ^ 52 = 0 then -1074 else (bits / 2 ^ 52 : ℕ) - 1075

/-- Quarters of the gap above a number that lie between it and the boundary below it. -/
def quartersBelow (bits : ℕ) : ℕ := if bits % 2 ^ 52 = 0 ∧ 1 < bits / 2 ^ 52 then 1 else 2

def boundary (bits : ℕ) : ℚ := (mantissaAt bits + 1 / 2) * 2 ^ scaleAt bits

theorem boundary_below (bits : ℕ) :
    boundary bits =
      (mantissaAt (bits + 1) - quartersBelow (bits + 1) / 4) * 2 ^ scaleAt (bits + 1) := by
  unfold boundary mantissaAt scaleAt quartersBelow
  by_cases last : bits % 2 ^ 52 = 2 ^ 52 - 1
  · have fraction : (bits + 1) % 2 ^ 52 = 0 := by omega
    have exponent : (bits + 1) / 2 ^ 52 = bits / 2 ^ 52 + 1 := by omega
    rw [fraction, exponent, last, if_neg (Nat.succ_ne_zero _), if_neg (Nat.succ_ne_zero _)]
    by_cases least : bits / 2 ^ 52 = 0
    · rw [if_pos least, if_pos least, if_neg (by omega), least]
      congr 1
      norm_num
    · -- The next number is a power of two, and the gap above it is twice as large.
      have scale : ((bits / 2 ^ 52 + 1 : ℕ) : ℤ) - 1075 = (bits / 2 ^ 52 : ℕ) - 1075 + 1 := by
        push_cast
        ring
      rw [if_neg least, if_neg least, if_pos (by omega), scale, zpow_add_one₀ two_ne_zero]
      push_cast
      ring
  · have fraction : (bits + 1) % 2 ^ 52 = bits % 2 ^ 52 + 1 := by omega
    have exponent : (bits + 1) / 2 ^ 52 = bits / 2 ^ 52 := by omega
    have inner : ¬(bits % 2 ^ 52 + 1 = 0 ∧ 1 < bits / 2 ^ 52) := by omega
    rw [fraction, exponent, if_neg inner]
    congr 1
    split <;> push_cast <;> ring

theorem strictMono_boundary : StrictMono boundary := by
  apply strictMono_nat_of_lt_succ
  intro bits
  have gap : (0 : ℚ) < 2 ^ scaleAt (bits + 1) := by positivity
  have some : (0 : ℚ) ≤ quartersBelow (bits + 1) := Nat.cast_nonneg _
  rw [boundary_below, boundary]
  apply mul_lt_mul_of_pos_right _ gap
  linarith

theorem mantissaAt_mod_two (bits : ℕ) : mantissaAt bits % 2 = bits % 2 := by
  unfold mantissaAt
  split <;> omega

theorem mantissaAt_pos {bits : ℕ} (nonzero : bits ≠ 0) : 0 < mantissaAt bits := by
  unfold mantissaAt
  split <;> omega

theorem mantissaAt_lt (bits : ℕ) : mantissaAt bits < 2 ^ 53 := by
  unfold mantissaAt
  split <;> omega

/-! ## Intervals -/

structure Interval.Holds (i : Interval) (r : ℚ) : Prop where
  lower : (i.low : ℚ) / i.den ≤ r
  upper : r ≤ (i.high : ℚ) / i.den
  inside : i.closed = false → (i.low : ℚ) / i.den < r ∧ r < (i.high : ℚ) / i.den

variable {x y : Binary64} {bits : ℕ} {r : ℚ}

theorem ratio_unit (x : Binary64) (n : ℕ) :
    ((n * (rescale 2 (2 - x.scale) 1 1).1 : ℕ) : ℚ) / (rescale 2 (2 - x.scale) 1 1).2 =
      n / 4 * 2 ^ x.scale := by
  have unit := ratio_rescale two_pos (2 - x.scale) 1 1
  have scale : (1 : ℚ) / 2 ^ (2 - x.scale) = 2 ^ x.scale / 4 := by
    rw [zpow_sub₀ two_ne_zero, one_div_div]
    norm_num
  rw [Nat.cast_one, div_one, Nat.cast_ofNat, scale] at unit
  rw [Nat.cast_mul, mul_div_assoc, unit]
  ring

theorem interval_value (x : Binary64) :
    (x.interval.value : ℚ) / x.interval.den =
      mantissaAt x.magnitudeBits * 2 ^ scaleAt x.magnitudeBits := by
  have value : x.interval.value = 4 * x.mantissa * (rescale 2 (2 - x.scale) 1 1).1 := rfl
  have den : x.interval.den = (rescale 2 (2 - x.scale) 1 1).2 := rfl
  have mantissa : x.mantissa = mantissaAt x.magnitudeBits := rfl
  have scale : x.scale = scaleAt x.magnitudeBits := rfl
  rw [value, den, ratio_unit, mantissa, scale]
  push_cast
  ring

theorem interval_low (here : x.magnitudeBits = bits + 1) :
    (x.interval.low : ℚ) / x.interval.den = boundary bits := by
  have mantissa : x.mantissa = mantissaAt (bits + 1) := here ▸ rfl
  have scale : x.scale = scaleAt (bits + 1) := here ▸ rfl
  have low : x.interval.low =
      (4 * mantissaAt (bits + 1) - quartersBelow (bits + 1)) * (rescale 2 (2 - x.scale) 1 1).1 := by
    rw [← here]
    rfl
  have den : x.interval.den = (rescale 2 (2 - x.scale) 1 1).2 := rfl
  have enough : quartersBelow (bits + 1) ≤ 4 * mantissaAt (bits + 1) := by
    unfold quartersBelow mantissaAt
    split <;> split <;> omega
  rw [low, den, ratio_unit, scale, boundary_below, Nat.cast_sub enough]
  push_cast
  ring

theorem interval_high (x : Binary64) :
    (x.interval.high : ℚ) / x.interval.den = boundary x.magnitudeBits := by
  have high : x.interval.high = (4 * x.mantissa + 2) * (rescale 2 (2 - x.scale) 1 1).1 := rfl
  have den : x.interval.den = (rescale 2 (2 - x.scale) 1 1).2 := rfl
  have mantissa : x.mantissa = mantissaAt x.magnitudeBits := rfl
  have scale : x.scale = scaleAt x.magnitudeBits := rfl
  rw [high, den, ratio_unit, boundary, mantissa, scale]
  push_cast
  ring

theorem interval_den_pos (x : Binary64) : 0 < x.interval.den := by
  have den : x.interval.den = 1 * Nat.pow 2 (2 - x.scale).toNat := rfl
  rw [den, Nat.one_mul]
  exact Nat.two_pow_pos _

theorem interval_order (nonzero : x.isZero = false) :
    0 < x.interval.low ∧ x.interval.low < x.interval.value ∧
      x.interval.value < x.interval.high := by
  have some : 0 < x.mantissa := mantissaAt_pos (beq_eq_false_iff_ne.mp nonzero)
  have unit : 0 < (rescale 2 (2 - x.scale) 1 1).1 := by
    have power : (rescale 2 (2 - x.scale) 1 1).1 = 1 * Nat.pow 2 (-(2 - x.scale)).toNat := rfl
    rw [power, Nat.one_mul]
    exact Nat.two_pow_pos _
  have least : 1 ≤ quartersBelow x.magnitudeBits ∧ quartersBelow x.magnitudeBits ≤ 2 := by
    unfold quartersBelow
    split <;> decide
  refine ⟨Nat.mul_pos ?_ unit, Nat.mul_lt_mul_of_pos_right ?_ unit,
    Nat.mul_lt_mul_of_pos_right ?_ unit⟩
  · show 0 < 4 * x.mantissa - quartersBelow x.magnitudeBits
    omega
  · show 4 * x.mantissa - quartersBelow x.magnitudeBits < 4 * x.mantissa
    omega
  · omega

theorem interval_closed (x : Binary64) :
    x.interval.closed = (x.magnitudeBits % 2 == 0) :=
  congrArg (· == 0) (mantissaAt_mod_two x.magnitudeBits)

theorem Interval.Holds.not_lt (hx : x.interval.Holds r) (hy : y.interval.Holds r) :
    ¬x.magnitudeBits < y.magnitudeBits := by
  intro less
  obtain ⟨bits, here⟩ := Nat.exists_eq_add_of_lt less
  have here : y.magnitudeBits = x.magnitudeBits + bits + 1 := by omega
  have top := hx.upper
  have bottom := hy.lower
  rw [interval_high] at top
  rw [interval_low here] at bottom
  -- The real is on the only boundary that the two intervals may have in common.
  have same : x.magnitudeBits = x.magnitudeBits + bits := by
    apply le_antisymm (Nat.le_add_right _ _)
    exact strictMono_boundary.le_iff_le.mp (bottom.trans top)
  have ends : r = boundary x.magnitudeBits := by
    rw [← same] at bottom
    exact le_antisymm top bottom
  have closed : x.interval.closed = true := by
    by_contra isOpen
    have strict := (hx.inside (Bool.not_eq_true _ ▸ isOpen)).2
    rw [interval_high, ← ends] at strict
    exact lt_irrefl r strict
  have closed' : y.interval.closed = true := by
    by_contra isOpen
    have strict := (hy.inside (Bool.not_eq_true _ ▸ isOpen)).1
    rw [interval_low here, ← same, ← ends] at strict
    exact lt_irrefl r strict
  rw [interval_closed, beq_iff_eq] at closed closed'
  omega

theorem Interval.Holds.unique (hx : x.interval.Holds r) (hy : y.interval.Holds r) :
    x.magnitudeBits = y.magnitudeBits :=
  le_antisymm (Nat.not_lt.mp (hy.not_lt hx)) (Nat.not_lt.mp (hx.not_lt hy))

theorem boundary_pos (bits : ℕ) : 0 < boundary bits := by
  unfold boundary
  positivity

theorem Interval.Holds.pos (nonzero : x.isZero = false) (holds : x.interval.Holds r) : 0 < r := by
  obtain ⟨bits, here⟩ := Nat.exists_eq_add_one_of_ne_zero (beq_eq_false_iff_ne.mp nonzero)
  have bottom := holds.lower
  rw [interval_low here] at bottom
  exact lt_of_lt_of_le (boundary_pos bits) bottom

end Binary64

end Proofbook
