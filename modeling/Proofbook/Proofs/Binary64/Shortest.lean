import Proofbook.Proofs.Binary64.Interval
import Mathlib.Data.Nat.Cast.Order.Field

/-!
With seventeen digits a decimal is always found, because the decimals with so many digits are closer
to each other than the ends of an interval are.
-/

namespace Proofbook

namespace Binary64

/-! ## Multiples of a power of ten -/

section

variable {den : ℕ} {exponent : ℤ} {n k : ℕ}

theorem rescaled_div (exponent : ℤ) (n den : ℕ) :
    ((rescale 10 exponent n den).1 : ℚ) / (den * Nat.pow 10 exponent.toNat : ℕ) =
      n / den / 10 ^ exponent :=
  ratio_rescale (by decide) exponent n den

variable (pos : 0 < den)

include pos

theorem rescaled_lt_iff :
    (rescale 10 exponent n den).1 < k * (den * Nat.pow 10 exponent.toNat) ↔
      (n : ℚ) / den < k * 10 ^ exponent := by
  have step : (0 : ℚ) < (den * Nat.pow 10 exponent.toNat : ℕ) := by
    exact_mod_cast Nat.mul_pos pos (Nat.pow_pos (by decide))
  rw [← div_lt_iff₀ (by positivity), ← rescaled_div, div_lt_iff₀ step]
  exact_mod_cast Iff.rfl

theorem lt_rescaled_iff :
    k * (den * Nat.pow 10 exponent.toNat) < (rescale 10 exponent n den).1 ↔
      (k * 10 ^ exponent : ℚ) < n / den := by
  have step : (0 : ℚ) < (den * Nat.pow 10 exponent.toNat : ℕ) := by
    exact_mod_cast Nat.mul_pos pos (Nat.pow_pos (by decide))
  rw [← lt_div_iff₀ (by positivity), ← rescaled_div, lt_div_iff₀ step]
  exact_mod_cast Iff.rfl

end

section

variable {tie : Tie} {i : Interval} (pos : 0 < i.den) {exponent : ℤ} (k : ℕ)

include pos

theorem admitsBelow_iff :
    i.admitsBelow (rescale 10 exponent i.low i.den).1 (k * (i.den * Nat.pow 10 exponent.toNat)) ↔
      (i.low : ℚ) / i.den ≤ k * 10 ^ exponent ∧
        (i.closed = false → (i.low : ℚ) / i.den < k * 10 ^ exponent) := by
  unfold Interval.admitsBelow
  cases i.closed with
  | true =>
      rw [if_pos rfl, decide_eq_true_iff, ← not_lt, lt_rescaled_iff pos, not_lt]
      exact ⟨fun le => ⟨le, nofun⟩, And.left⟩
  | false =>
      rw [if_neg Bool.false_ne_true, decide_eq_true_iff, rescaled_lt_iff pos]
      exact ⟨fun lt => ⟨le_of_lt lt, fun _ => lt⟩, fun both => both.2 rfl⟩

theorem admitsAbove_iff :
    i.admitsAbove (k * (i.den * Nat.pow 10 exponent.toNat)) (rescale 10 exponent i.high i.den).1 ↔
      (k * 10 ^ exponent : ℚ) ≤ i.high / i.den ∧
        (i.closed = false → (k * 10 ^ exponent : ℚ) < i.high / i.den) := by
  unfold Interval.admitsAbove
  cases i.closed with
  | true =>
      rw [if_pos rfl, decide_eq_true_iff, ← not_lt, rescaled_lt_iff pos, not_lt]
      exact ⟨fun le => ⟨le, nofun⟩, And.left⟩
  | false =>
      rw [if_neg Bool.false_ne_true, decide_eq_true_iff, lt_rescaled_iff pos]
      exact ⟨fun lt => ⟨le_of_lt lt, fun _ => lt⟩, fun both => both.2 rfl⟩

end

section

variable (tie : Tie) (i : Interval) (exponent : ℤ)

def floorOnGrid : ℕ :=
  (rescale 10 exponent i.value i.den).1 / (i.den * Nat.pow 10 exponent.toNat)

def floorAdmitted : Bool :=
  i.admitsBelow (rescale 10 exponent i.low i.den).1
    (floorOnGrid i exponent * (i.den * Nat.pow 10 exponent.toNat))

def ceilingAdmitted : Bool :=
  i.admitsAbove ((floorOnGrid i exponent + 1) * (i.den * Nat.pow 10 exponent.toNat))
    (rescale 10 exponent i.high i.den).1

theorem nearestOnGrid_cases :
    nearestOnGrid tie i exponent = some (floorOnGrid i exponent + 1) ∧ ceilingAdmitted i exponent ∨
    nearestOnGrid tie i exponent = some (floorOnGrid i exponent) ∧ floorAdmitted i exponent ∨
    nearestOnGrid tie i exponent = none ∧ floorAdmitted i exponent = false ∧
      ceilingAdmitted i exponent = false := by
  have unfolded : nearestOnGrid tie i exponent =
      if ceilingAdmitted i exponent && (!floorAdmitted i exponent || tie.roundsUp
          (floorOnGrid i exponent) ((rescale 10 exponent i.value i.den).1 %
            (i.den * Nat.pow 10 exponent.toNat)) (i.den * Nat.pow 10 exponent.toNat)) then
        some (floorOnGrid i exponent + 1)
      else if floorAdmitted i exponent then some (floorOnGrid i exponent) else none := rfl
  rw [unfolded]
  cases ceilingAdmitted i exponent <;> cases floorAdmitted i exponent <;> simp

end

section

variable {tie : Tie} {i : Interval} {exponent : ℤ} {digits : ℕ}

theorem floorOnGrid_bounds (pos : 0 < i.den) (exponent : ℤ) :
    (floorOnGrid i exponent * 10 ^ exponent : ℚ) ≤ i.value / i.den ∧
      (i.value : ℚ) / i.den < ((floorOnGrid i exponent + 1 : ℕ) : ℚ) * 10 ^ exponent := by
  have step : 0 < i.den * Nat.pow 10 exponent.toNat := Nat.mul_pos pos (Nat.pow_pos (by decide))
  constructor
  · rw [← not_lt, ← rescaled_lt_iff pos, not_lt]
    exact Nat.div_mul_le_self _ _
  · rw [← rescaled_lt_iff pos, mul_comm]
    exact Nat.lt_mul_div_succ _ step

theorem holds_of_nearestOnGrid (pos : 0 < i.den) (low : i.low < i.value) (high : i.value < i.high)
    (found : nearestOnGrid tie i exponent = some digits) : i.Holds (digits * 10 ^ exponent) := by
  have scaled : (0 : ℚ) < i.den := by exact_mod_cast pos
  have low : (i.low : ℚ) / i.den < i.value / i.den := by
    gcongr
  have high : (i.value : ℚ) / i.den < i.high / i.den := by
    gcongr
  obtain ⟨below, above⟩ := floorOnGrid_bounds pos exponent
  rcases nearestOnGrid_cases tie i exponent with ⟨chosen, good⟩ | ⟨chosen, good⟩ | ⟨chosen, -⟩
  · obtain rfl := Option.some.inj (found.symm.trans chosen)
    obtain ⟨upper, strict⟩ := (admitsAbove_iff pos _).mp good
    exact ⟨le_of_lt (low.trans above), upper, fun isOpen => ⟨low.trans above, strict isOpen⟩⟩
  · obtain rfl := Option.some.inj (found.symm.trans chosen)
    obtain ⟨lower, strict⟩ := (admitsBelow_iff pos _).mp good
    have upper := below.trans_lt high
    exact ⟨lower, le_of_lt upper, fun isOpen => ⟨strict isOpen, upper⟩⟩
  · rw [chosen] at found
    cases found

theorem narrow_of_nearestOnGrid (pos : 0 < i.den) (missed : nearestOnGrid tie i exponent = none) :
    (i.high : ℚ) / i.den - i.low / i.den ≤ 10 ^ exponent := by
  rcases nearestOnGrid_cases tie i exponent with ⟨chosen, -⟩ | ⟨chosen, -⟩ | ⟨-, floor, ceiling⟩
  · rw [chosen] at missed
    cases missed
  · rw [chosen] at missed
    cases missed
  · have lower : (floorOnGrid i exponent * 10 ^ exponent : ℚ) ≤ i.low / i.den := by
      by_contra more
      have inside := not_le.mp more
      have admitted := (admitsBelow_iff pos _).mpr ⟨le_of_lt inside, fun _ => inside⟩
      exact Bool.false_ne_true (floor.symm.trans admitted)
    have upper : (i.high : ℚ) / i.den ≤ ((floorOnGrid i exponent + 1 : ℕ) : ℚ) * 10 ^ exponent := by
      by_contra more
      have inside := not_le.mp more
      have admitted := (admitsAbove_iff pos _).mpr ⟨le_of_lt inside, fun _ => inside⟩
      exact Bool.false_ne_true (ceiling.symm.trans admitted)
    push_cast at upper
    linarith

end

/-! ## Seventeen digits suffice -/

section

variable {x : Binary64} {num den : ℕ}

theorem pow_length_toDigits_le (pos : 0 < num) : 10 ^ ((Nat.toDigits 10 num).length - 1) ≤ num := by
  by_contra more
  have some : 0 < (Nat.toDigits 10 num).length := Nat.length_toDigits_pos
  rcases Nat.eq_zero_or_pos ((Nat.toDigits 10 num).length - 1) with single | several
  · rw [single] at more
    omega
  · have shorter := (Nat.length_toDigits_le_iff (by decide) several).mpr (Nat.not_le.mp more)
    omega

theorem lt_pow_length_toDigits (num : ℕ) : num < 10 ^ (Nat.toDigits 10 num).length :=
  (Nat.length_toDigits_le_iff (by decide) Nat.length_toDigits_pos).mp le_rfl

theorem zpow_neg_le (posDen : 0 < den) {k : ℕ} (enough : den ≤ num * 10 ^ k) :
    (10 : ℚ) ^ (-k : ℤ) ≤ num / den := by
  have den' : (0 : ℚ) < den := by exact_mod_cast posDen
  rw [zpow_neg, zpow_natCast, le_div_iff₀ den', inv_mul_le_iff₀ (by positivity), mul_comm]
  exact_mod_cast enough

theorem zpow_decimalExponent_le (posNum : 0 < num) (posDen : 0 < den) :
    (10 : ℚ) ^ decimalExponent num den ≤ num / den := by
  unfold decimalExponent
  split
  · have some : 0 < (Nat.toDigits 10 (num / den)).length := Nat.length_toDigits_pos
    have least := pow_length_toDigits_le (Nat.div_pos ‹_› posDen)
    calc (10 : ℚ) ^ (((Nat.toDigits 10 (num / den)).length : ℤ) - 1)
        = (10 ^ ((Nat.toDigits 10 (num / den)).length - 1) : ℕ) := by
          rw [← Nat.cast_pred some, zpow_natCast]
          exact (Nat.cast_pow 10 _).symm
      _ ≤ (num / den : ℕ) := by exact_mod_cast least
      _ ≤ num / den := Nat.cast_div_le
  · have some : 0 < (Nat.toDigits 10 (den / num)).length := Nat.length_toDigits_pos
    dsimp only
    split
    · rw [← neg_sub, ← Nat.cast_pred some]
      exact zpow_neg_le posDen ‹_›
    · apply zpow_neg_le posDen
      have most := lt_pow_length_toDigits (den / num)
      rw [mul_comm]
      exact ((Nat.div_lt_iff_lt_mul posNum).mp most).le

theorem mantissaAt_lt_width (bits : ℕ) :
    (mantissaAt bits : ℚ) < (1 / 2 + quartersBelow bits / 4) * 10 ^ 16 := by
  unfold quartersBelow
  split
  · have power : mantissaAt bits = 2 ^ 52 := by
      unfold mantissaAt
      split <;> omega
    rw [power]
    norm_num
  · have small : (mantissaAt bits : ℚ) < 2 ^ 53 := by exact_mod_cast mantissaAt_lt bits
    apply small.trans
    norm_num

theorem exists_found (tie : Tie) (nonzero : x.isZero = false) :
    ∃ digits, nearestOnGrid tie x.interval
      (decimalExponent x.interval.value x.interval.den - 16) = some digits := by
  obtain ⟨bits, here⟩ := Nat.exists_eq_add_one_of_ne_zero (beq_eq_false_iff_ne.mp nonzero)
  obtain ⟨low, order, -⟩ := interval_order nonzero
  by_contra none
  have missed := Option.eq_none_iff_forall_ne_some.mpr fun d some => none ⟨d, some⟩
  have narrow := narrow_of_nearestOnGrid x.interval_den_pos missed
  have top := zpow_decimalExponent_le (low.trans order) x.interval_den_pos
  have wide := mantissaAt_lt_width x.magnitudeBits
  have gap : (0 : ℚ) < 2 ^ scaleAt x.magnitudeBits := by positivity
  rw [zpow_sub₀ (by norm_num), le_div_iff₀ (by positivity)] at narrow
  rw [interval_value] at top
  rw [interval_high, interval_low here, boundary_below bits, ← here, boundary] at narrow
  have product := mul_lt_mul_of_pos_right wide gap
  norm_num at narrow product
  linarith

theorem exists_holds (tie : Tie) (nonzero : x.isZero = false) :
    ∃ (digits : ℕ) (exponent : ℤ), x.interval.Holds (digits * 10 ^ exponent) ∧ x.shortest tie =
      ⟨significantDigits digits, (Nat.toDigits 10 digits).length + exponent⟩ := by
  obtain ⟨-, low, high⟩ := interval_order nonzero
  unfold shortest
  rw [nonzero, if_neg Bool.false_ne_true]
  dsimp only
  split
  · rename_i digits exponent found
    obtain ⟨n, -, chosen⟩ := List.exists_of_findSome?_eq_some found
    obtain ⟨digits', taken, pair⟩ := Option.map_eq_some_iff.mp chosen
    obtain ⟨rfl, rfl⟩ := Prod.mk.inj pair
    exact ⟨digits', _, holds_of_nearestOnGrid x.interval_den_pos low high taken, rfl⟩
  · rename_i missed
    obtain ⟨digits, taken⟩ := exists_found tie nonzero
    have none := List.findSome?_eq_none_iff.mp missed 16 (List.mem_range.mpr (by decide))
    rw [Nat.cast_ofNat, taken] at none
    cases none

end

end Binary64

end Proofbook
