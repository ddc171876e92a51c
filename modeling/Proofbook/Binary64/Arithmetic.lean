import Proofbook.Binary64.Rounding

namespace Proofbook.Binary64

def mul (x y : Binary64) : Binary64 :=
  let exact := rescale 2 (-(x.scale + y.scale)) (x.mantissa * y.mantissa) 1
  ofRatio (x.isNegative != y.isNegative) exact.1 exact.2

def div (x y : Binary64) : Binary64 :=
  let exact := rescale 2 (y.scale - x.scale) x.mantissa y.mantissa
  ofRatio (x.isNegative != y.isNegative) exact.1 exact.2

-- A product that is rounded, a quotient by a rounded number, and an overflow.
example : (ofInt (2 ^ 53 - 1)).mul (ofInt (-3)) = ofInt (-27021597764222973) := by decide +kernel
example : (ofInt 3).div (ofInt 10) = ofDecimal false 3 (-1) := by decide +kernel
example : (ofInt (2 ^ 600)).mul (ofInt (2 ^ 600)) = infinity false := by decide +kernel

end Proofbook.Binary64
