import Proofbook.Binary64.Rounding
import Mathlib.Algebra.Order.Ring.Int
import Mathlib.Tactic.Ring
import Mathlib.Tactic.Linarith

namespace Proofbook

/-! ## Rounding a quotient -/

section

variable {num den : Nat}

theorem roundHalfEven_cases (num den : Nat) :
    (roundHalfEven num den = num / den ∧ 2 * (num % den) ≤ den ∨
      roundHalfEven num den = num / den + 1 ∧ den ≤ 2 * (num % den)) ∧
    (2 * (num % den) = den → roundHalfEven num den % 2 = 0) := by
  unfold roundHalfEven
  dsimp only
  split
  · omega
  · split <;> omega

theorem roundHalfEven_nearest (num : Nat) (pos : 0 < den) (k : Int) :
    (roundHalfEven num den * den - num : Int).natAbs ≤ (k * den - num).natAbs ∧
      ((k * den - num).natAbs = (roundHalfEven num den * den - num : Int).natAbs →
        k = roundHalfEven num den ∨ roundHalfEven num den % 2 = 0) := by
  have parts : (num : Int) = (num / den : Nat) * den + (num % den : Nat) := by
    exact_mod_cast (Nat.div_add_mod' num den).symm
  have small : num % den < den := Nat.mod_lt num pos
  obtain ⟨chosen, even⟩ := roundHalfEven_cases num den
  generalize roundHalfEven num den = m at chosen even ⊢
  generalize num / den = q at parts chosen
  generalize num % den = rest at parts small chosen even
  have next : ((q : Int) + 1) * den = q * den + den := by ring
  have scaled : m = q ∧ (m : Int) * den = q * den ∨
      m = q + 1 ∧ (m : Int) * den = q * den + den := by
    rcases chosen with ⟨rfl, -⟩ | ⟨rfl, -⟩
    · exact .inl ⟨rfl, rfl⟩
    · exact .inr ⟨rfl, by push_cast; exact next⟩
  -- The multiples at hand are the two around the number; all others are farther away.
  have placed : k < q ∧ k * den ≤ q * den - den ∨ k = q ∧ k * den = q * den ∨
      k = q + 1 ∧ k * den = q * den + den ∨ q + 1 < k ∧ q * den + 2 * den ≤ k * den := by
    rcases lt_trichotomy k q with below | rfl | above
    · exact .inl ⟨below, by nlinarith⟩
    · exact .inr (.inl ⟨rfl, rfl⟩)
    · rcases eq_or_lt_of_le (Int.add_one_le_of_lt above) with rfl | beyond
      · exact .inr (.inr (.inl ⟨rfl, next⟩))
      · exact .inr (.inr (.inr ⟨beyond, by nlinarith⟩))
  omega

theorem roundHalfEven_nearest_multiple {unit value : Nat} (posDen : 0 < den) (posUnit : 0 < unit)
    (same : num * unit = den * value) (k : Int) :
    (roundHalfEven num den * unit - value : Int).natAbs ≤ (k * unit - value).natAbs ∧
      ((k * unit - value).natAbs = (roundHalfEven num den * unit - value : Int).natAbs →
        k = roundHalfEven num den ∨ roundHalfEven num den % 2 = 0) := by
  have distance (j : Int) : (j * den - num).natAbs * unit = den * (j * unit - value).natAbs := by
    have same : (num : Int) * unit = den * value := by exact_mod_cast same
    have scaled : (j * den - num) * unit = den * (j * unit - value) := by
      rw [sub_mul, mul_sub, same]
      ring
    simpa [Int.natAbs_mul] using congrArg Int.natAbs scaled
  obtain ⟨least, even⟩ := roundHalfEven_nearest num posDen k
  constructor
  · have scaled := Nat.mul_le_mul_right unit least
    rw [distance, distance] at scaled
    exact Nat.le_of_mul_le_mul_left scaled posDen
  · intro equal
    apply even
    apply Nat.eq_of_mul_eq_mul_right posUnit
    rw [distance, distance, equal]

end

namespace Binary64

/-! ## Values -/

/-- The value of a finite number, counted in units of `2 ^ -1074`. -/
def units (x : Binary64) : Int :=
  (if x.isNegative then -1 else 1) * (x.mantissa * 2 ^ (x.scale + 1074).toNat : Nat)

def one : Nat := 2 ^ 1074

/-- The finite number nearest to an integer; of two that are as near, one whose last bit is 0. -/
structure IsNearest (x : Binary64) (value : Int) : Prop where
  finite : x.isFinite = true
  nearest : ∀ y : Binary64, y.isFinite = true →
    (x.units - value * one).natAbs ≤ (y.units - value * one).natAbs
  even : ∀ y : Binary64, y.isFinite = true →
    (y.units - value * one).natAbs = (x.units - value * one).natAbs →
    y.units = x.units ∨ x.magnitudeBits % 2 = 0

variable {x : Binary64} {negative : Bool} {magnitude : Nat}

theorem toNat_bits_ofMagnitude (small : magnitude < 2 ^ 63) :
    (ofMagnitude negative magnitude).bits.toNat =
      magnitude + if negative then 2 ^ 63 else 0 := by
  have reduced : magnitude % Nat.pow 2 63 = magnitude := Nat.mod_eq_of_lt small
  have fits : magnitude + (if negative then Nat.pow 2 63 else 0) < 2 ^ 64 := by
    rw [Nat.pow_eq]
    split <;> omega
  rw [ofMagnitude, reduced]
  exact UInt64.toNat_ofNat_of_lt fits

theorem magnitudeBits_ofMagnitude (small : magnitude < 2 ^ 63) :
    (ofMagnitude negative magnitude).magnitudeBits = magnitude := by
  rw [magnitudeBits, toNat_bits_ofMagnitude small, Nat.pow_eq]
  split <;> omega

theorem isNegative_ofMagnitude (small : magnitude < 2 ^ 63) :
    (ofMagnitude negative magnitude).isNegative = negative := by
  rw [isNegative, toNat_bits_ofMagnitude small, Nat.pow_eq]
  cases negative with
  | true => simp
  | false => simpa using small

theorem natAbs_units (x : Binary64) :
    ∃ count places : Nat, count < 2 ^ 53 ∧ x.units.natAbs = count * 2 ^ places := by
  refine ⟨x.mantissa, (x.scale + 1074).toNat, ?_, ?_⟩
  · have fraction : x.fractionBits < 2 ^ 52 := Nat.mod_lt _ (by decide)
    unfold mantissa
    rw [Nat.pow_eq]
    split <;> omega
  · rw [units, Int.natAbs_mul, Int.natAbs_natCast]
    split <;> exact Nat.one_mul _

theorem units_ofMagnitude {places count : Nat} (least : 2 ^ 52 ≤ count) (most : count ≤ 2 ^ 53)
    (inRange : places ≤ 2044) :
    (ofMagnitude negative (places * 2 ^ 52 + count)).units =
      (if negative then -1 else 1) * (count * 2 ^ places : Nat) := by
  have small : places * 2 ^ 52 + count < 2 ^ 63 := by omega
  rw [units, isNegative_ofMagnitude small]
  congr 2
  unfold mantissa scale exponentBits fractionBits
  rw [magnitudeBits_ofMagnitude small, Nat.pow_eq]
  rcases Nat.lt_or_eq_of_le most with below | rfl
  · have exponent : (places * 2 ^ 52 + count) / 2 ^ 52 = places + 1 := by omega
    have fraction : (places * 2 ^ 52 + count) % 2 ^ 52 = count - 2 ^ 52 := by omega
    have scaled : ((places + 1 : Nat) - 1075 + 1074 : Int).toNat = places := by omega
    rw [exponent, fraction, if_neg (Nat.succ_ne_zero _), if_neg (Nat.succ_ne_zero _), scaled,
      Nat.add_sub_cancel' least]
  · -- The rounding has carried into the next power of two.
    have exponent : (places * 2 ^ 52 + 2 ^ 53) / 2 ^ 52 = places + 2 := by omega
    have fraction : (places * 2 ^ 52 + 2 ^ 53) % 2 ^ 52 = 0 := by omega
    have scaled : ((places + 2 : Nat) - 1075 + 1074 : Int).toNat = places + 1 := by omega
    rw [exponent, fraction, if_neg (Nat.succ_ne_zero _), if_neg (Nat.succ_ne_zero _), scaled,
      Nat.pow_succ]
    ring

theorem isFinite_ofMagnitude (inRange : magnitude < infinityBits) :
    (ofMagnitude negative magnitude).isFinite = true := by
  have bound : infinityBits = 2047 * 2 ^ 52 := rfl
  rw [isFinite, exponentBits, magnitudeBits_ofMagnitude (by omega), Nat.pow_eq, bne_iff_ne]
  omega

/-! ## Rounding an integer -/

/-- The quotient whose rounding gives the mantissa of a positive integer. -/
def scaledInt (n : Nat) : Nat × Nat := (n * 2 ^ (52 - n.log2), 2 ^ (n.log2 - 52))

def roundedMantissa (n : Nat) : Nat := roundHalfEven (scaledInt n).1 (scaledInt n).2

def lastPlace (n : Nat) : Nat := 2 ^ (n.log2 + 1022)

theorem binaryExponent_one {n : Nat} (positive : n ≠ 0) : binaryExponent n 1 = n.log2 := by
  have estimate : (n.log2 : Int) - (Nat.log2 1 : Nat) = n.log2 := by
    rw [show Nat.log2 1 = 0 by decide]
    exact sub_zero _
  have below : (rescale 2 n.log2 n 1).2 ≤ (rescale 2 n.log2 n 1).1 := by
    simpa [rescale] using Nat.log2_self_le positive
  unfold binaryExponent
  rw [estimate]
  exact if_pos below

theorem ofInt_eq {n : Int} (nonzero : n ≠ 0) :
    ofInt n = ofMagnitude (n < 0)
      (min ((n.natAbs.log2 + 1022) * 2 ^ 52 + roundedMantissa n.natAbs) infinityBits) := by
  have positive : n.natAbs ≠ 0 := Int.natAbs_ne_zero.mpr nonzero
  have scale : max (-1074) ((n.natAbs.log2 : Int) - 52) = n.natAbs.log2 - 52 := by omega
  have offset : ((n.natAbs.log2 : Int) - 52 + 1074).toNat = n.natAbs.log2 + 1022 := by omega
  have down : (-((n.natAbs.log2 : Int) - 52)).toNat = 52 - n.natAbs.log2 := by omega
  have up : ((n.natAbs.log2 : Int) - 52).toNat = n.natAbs.log2 - 52 := by omega
  unfold ofInt ofRatio
  rw [if_neg positive, binaryExponent_one positive, scale]
  simp only [offset, rescale, down, up, roundedMantissa, scaledInt, Nat.pow_eq, Nat.one_mul]

theorem scaledInt_bounds {n : Nat} (positive : n ≠ 0) :
    2 ^ 52 * (scaledInt n).2 ≤ (scaledInt n).1 ∧ (scaledInt n).1 < 2 ^ 53 * (scaledInt n).2 := by
  have least : 2 ^ n.log2 ≤ n := Nat.log2_self_le positive
  have most : n < 2 ^ (n.log2 + 1) := Nat.lt_log2_self
  constructor
  · calc 2 ^ 52 * 2 ^ (n.log2 - 52) = 2 ^ n.log2 * 2 ^ (52 - n.log2) := by
          rw [← Nat.pow_add, ← Nat.pow_add]
          congr 1
          omega
      _ ≤ n * 2 ^ (52 - n.log2) := Nat.mul_le_mul_right _ least
  · calc n * 2 ^ (52 - n.log2) < 2 ^ (n.log2 + 1) * 2 ^ (52 - n.log2) :=
          Nat.mul_lt_mul_of_pos_right most (Nat.two_pow_pos _)
      _ = 2 ^ 53 * 2 ^ (n.log2 - 52) := by
          rw [← Nat.pow_add, ← Nat.pow_add]
          congr 1
          omega

theorem roundedMantissa_bounds {n : Nat} (positive : n ≠ 0) :
    2 ^ 52 ≤ roundedMantissa n ∧ roundedMantissa n ≤ 2 ^ 53 := by
  obtain ⟨least, most⟩ := scaledInt_bounds positive
  have posDen : 0 < (scaledInt n).2 := Nat.two_pow_pos _
  have lower := (Nat.le_div_iff_mul_le posDen).mpr least
  have upper := (Nat.div_lt_iff_lt_mul posDen).mpr most
  obtain ⟨chosen, -⟩ := roundHalfEven_cases (scaledInt n).1 (scaledInt n).2
  unfold roundedMantissa
  omega

theorem scaledInt_units (n : Nat) :
    (scaledInt n).1 * lastPlace n = (scaledInt n).2 * (n * one) := by
  have exponents : 2 ^ (52 - n.log2) * 2 ^ (n.log2 + 1022) = 2 ^ (n.log2 - 52) * one := by
    rw [one, ← Nat.pow_add, ← Nat.pow_add]
    exact congrArg (2 ^ ·) (by omega)
  unfold scaledInt lastPlace
  rw [Nat.mul_assoc, exponents, Nat.mul_left_comm]

theorem nearest_multiple (n : Nat) (k : Int) :
    (roundedMantissa n * lastPlace n - (n * one : Nat) : Int).natAbs ≤
        (k * lastPlace n - (n * one : Nat)).natAbs ∧
      ((k * lastPlace n - (n * one : Nat)).natAbs =
          (roundedMantissa n * lastPlace n - (n * one : Nat) : Int).natAbs →
        k = roundedMantissa n ∨ roundedMantissa n % 2 = 0) :=
  roundHalfEven_nearest_multiple (Nat.two_pow_pos _) (Nat.two_pow_pos _) (scaledInt_units n) k

theorem power_le_units {n : Nat} (positive : n ≠ 0) : 2 ^ 52 * lastPlace n ≤ n * one := by
  have least : 2 ^ n.log2 ≤ n := Nat.log2_self_le positive
  calc 2 ^ 52 * lastPlace n = 2 ^ n.log2 * one := by
        rw [lastPlace, one, ← Nat.pow_add, ← Nat.pow_add]
        exact congrArg (2 ^ ·) (by omega)
    _ ≤ n * one := Nat.mul_le_mul_right _ least

theorem nearest_of_natAbs {n count places : Nat} (positive : n ≠ 0) {z : Int}
    (small : count < 2 ^ 53) (size : z.natAbs = count * 2 ^ places) :
    (roundedMantissa n * lastPlace n - (n * one : Nat) : Int).natAbs ≤
        (z - (n * one : Nat)).natAbs ∧
      ((z - (n * one : Nat)).natAbs =
          (roundedMantissa n * lastPlace n - (n * one : Nat) : Int).natAbs →
        z = roundedMantissa n * lastPlace n ∨ roundedMantissa n % 2 = 0) := by
  by_cases coarse : n.log2 + 1022 ≤ places
  · -- The number is a multiple of the last place.
    obtain ⟨k, rfl⟩ : ∃ k : Int, z = k * lastPlace n := by
      have divides : (lastPlace n : Int) ∣ z := by
        rw [Int.natCast_dvd, size]
        exact Dvd.dvd.mul_left (Nat.pow_dvd_pow 2 coarse) count
      obtain ⟨k, multiple⟩ := divides
      exact ⟨k, by rw [multiple, mul_comm]⟩
    obtain ⟨nearest, even⟩ := nearest_multiple n k
    exact ⟨nearest, fun equal => (even equal).imp_left fun same => by rw [same]⟩
  · -- The number is below a power of two that is not above the integer.
    have below : z.natAbs < 2 ^ 52 * lastPlace n := by
      rw [size]
      calc count * 2 ^ places < 2 ^ 53 * 2 ^ places :=
            Nat.mul_lt_mul_of_pos_right small (Nat.two_pow_pos _)
        _ ≤ 2 ^ 53 * 2 ^ (n.log2 + 1021) :=
            Nat.mul_le_mul_left _ (Nat.pow_le_pow_right (by decide) (by omega))
        _ = 2 ^ 52 * lastPlace n := by
            rw [lastPlace, ← Nat.pow_add, ← Nat.pow_add]
            exact congrArg (2 ^ ·) (by omega)
    have above := power_le_units positive
    obtain ⟨nearest, -⟩ := nearest_multiple n (2 ^ 52)
    omega

theorem rounded_finite {n : Nat} (positive : n ≠ 0) (inRange : n.log2 < 1023) :
    (n.log2 + 1022) * 2 ^ 52 + roundedMantissa n < infinityBits := by
  have bound : infinityBits = 2047 * 2 ^ 52 := rfl
  obtain ⟨-, most⟩ := roundedMantissa_bounds positive
  omega

theorem ofInt_of_inRange {n : Int} (nonzero : n ≠ 0) (inRange : n.natAbs.log2 < 1023) :
    ofInt n =
      ofMagnitude (n < 0) ((n.natAbs.log2 + 1022) * 2 ^ 52 + roundedMantissa n.natAbs) := by
  have finite := rounded_finite (Int.natAbs_ne_zero.mpr nonzero) inRange
  rw [ofInt_eq nonzero, Nat.min_eq_left (Nat.le_of_lt finite)]

theorem units_ofInt {n : Int} (nonzero : n ≠ 0) (inRange : n.natAbs.log2 < 1023) :
    (ofInt n).units =
      if n < 0 then -(roundedMantissa n.natAbs * lastPlace n.natAbs : Int)
      else roundedMantissa n.natAbs * lastPlace n.natAbs := by
  obtain ⟨least, most⟩ := roundedMantissa_bounds (Int.natAbs_ne_zero.mpr nonzero)
  rw [ofInt_of_inRange nonzero inRange, units_ofMagnitude least most (by omega), Nat.cast_mul,
    lastPlace]
  by_cases negative : n < 0
  · rw [if_pos negative, if_pos (decide_eq_true negative), neg_one_mul]
  · rw [if_neg negative, if_neg (by rwa [decide_eq_true_iff]), one_mul]

theorem isNearest_ofInt {n : Int} (inRange : n.natAbs.log2 < 1023) : (ofInt n).IsNearest n := by
  by_cases zero : n = 0
  · subst zero
    have units : (ofInt 0).units = 0 := by decide
    refine ⟨by decide, fun y _ => ?_, fun y _ _ => .inr (by decide)⟩
    rw [units, Int.zero_mul]
    exact Nat.zero_le _
  · have positive : n.natAbs ≠ 0 := Int.natAbs_ne_zero.mpr zero
    have finite := rounded_finite positive inRange
    have bound : infinityBits = 2047 * 2 ^ 52 := rfl
    have lastBit : (ofInt n).magnitudeBits % 2 = roundedMantissa n.natAbs % 2 := by
      rw [ofInt_of_inRange zero inRange, magnitudeBits_ofMagnitude (by omega)]
      omega
    have each (y : Binary64) :
        ((ofInt n).units - n * one).natAbs ≤ (y.units - n * one).natAbs ∧
          ((y.units - n * one).natAbs = ((ofInt n).units - n * one).natAbs →
            y.units = (ofInt n).units ∨ (ofInt n).magnitudeBits % 2 = 0) := by
      obtain ⟨count, places, small, size⟩ := natAbs_units y
      rw [units_ofInt zero inRange, lastBit]
      rcases lt_or_gt_of_ne zero with negative | positive'
      · have value : n * one = -(n.natAbs * one : Nat) := by
          rw [Nat.cast_mul, ← neg_mul, Int.ofNat_natAbs_of_nonpos (Int.le_of_lt negative), neg_neg]
        have size' : (-y.units).natAbs = count * 2 ^ places := by rw [Int.natAbs_neg, size]
        obtain ⟨nearest, even⟩ := nearest_of_natAbs positive small size'
        rw [if_pos negative, value]
        generalize n.natAbs * one = exact at nearest even ⊢
        generalize (roundedMantissa n.natAbs * lastPlace n.natAbs : Int) = rounded at nearest even ⊢
        omega
      · have value : n * one = (n.natAbs * one : Nat) := by
          rw [Nat.cast_mul, Int.natAbs_of_nonneg (Int.le_of_lt positive')]
        obtain ⟨nearest, even⟩ := nearest_of_natAbs positive small size
        rw [if_neg (not_lt_of_gt positive'), value]
        exact ⟨nearest, even⟩
    refine ⟨?_, fun y _ => (each y).1, fun y _ => (each y).2⟩
    rw [ofInt_of_inRange zero inRange]
    exact isFinite_ofMagnitude finite

end Binary64

end Proofbook
