import Proofbook.Binary64.Basic

/-!
# Rounding to the nearest number

A nonnegative quotient of integers is rounded to the nearest 64-bit number in exact integer
arithmetic: it is scaled by the power of two that leaves 53 bits before the point (fewer for the
smallest numbers), and the scaled quotient is rounded, a half going to the even neighbour.
A rounding that carries into the next power of two needs no separate case, because the bits of
consecutive numbers are consecutive integers.
-/

namespace Proofbook

/-- The quotient rounded to the nearest integer; a half goes to the even neighbour. -/
def roundHalfEven (num den : Nat) : Nat :=
  let quotient := num / den
  let rest := num % den
  if 2 * rest < den then quotient
  else if den < 2 * rest then quotient + 1
  else quotient + quotient % 2

/-- The quotient `num / den` divided by `base ^ exponent`, as a quotient of integers. -/
def rescale (base : Nat) (exponent : Int) (num den : Nat) : Nat × Nat :=
  (num * base.pow (-exponent).toNat, den * base.pow exponent.toNat)

namespace Binary64

/-- The greatest `k` with `2 ^ k ≤ num / den`, for a positive quotient. -/
def binaryExponent (num den : Nat) : Int :=
  let estimate : Int := (num.log2 : Int) - den.log2
  let scaled := rescale 2 estimate num den
  if scaled.2 ≤ scaled.1 then estimate else estimate - 1

def ofRatio (negative : Bool) (num den : Nat) : Binary64 :=
  if num = 0 then ofMagnitude negative 0
  else
    let scale := max (-1074) (binaryExponent num den - 52)
    let scaled := rescale 2 scale num den
    let magnitude := (scale + 1074).toNat * Nat.pow 2 52 + roundHalfEven scaled.1 scaled.2
    ofMagnitude negative (min magnitude infinityBits)

def ofInt (value : Int) : Binary64 := ofRatio (value < 0) value.natAbs 1

def ofDecimal (negative : Bool) (digits : Nat) (exponent : Int) : Binary64 :=
  let places : Int := (Nat.toDigits 10 digits).length + exponent
  if digits = 0 ∨ places < -400 then ofMagnitude negative 0
  else if 400 < places then infinity negative
  else
    let scaled := rescale 10 (-exponent) digits 1
    ofRatio negative scaled.1 scaled.2

end Binary64

end Proofbook
