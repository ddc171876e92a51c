import Proofbook.Binary64.Arithmetic
import Proofbook.Binary64.Numeral

/-!
# Numbers read in steps

A written number can be read from left to right with little storage: its digits are collected in
an integer of 64 bits, and then the point is moved to its place by a multiplication with a power
of ten or a division by one. Digits that no longer fit are passed over. Each step is rounded, so
the result may differ from the nearest number in its last bits.
-/

namespace Proofbook

/-- Digits appended to a number while it fits in 64 bits, and the digits that do not fit. -/
def appendDigits (n : Nat) : List Char → Nat × List Char
  | [] => (n, [])
  | c :: digits =>
    let longer := 10 * n + (c.toNat - '0'.toNat)
    if longer < Nat.pow 2 64 then appendDigits longer digits else (n, c :: digits)

namespace Binary64

def powerOfTen (exponent : Nat) : Binary64 := ofRatio false (Nat.pow 10 exponent) 1

/--
A number below `2 ^ 64` times ten to the power of `places`. The greatest power of ten in range is
`10 ^ 308`, so a longer way to the left takes two divisions; after two full ones nothing is left.
-/
def movePoint (x : Binary64) (places : Int) : Binary64 :=
  if x.isZero then x
  else if 308 < places then infinity x.isNegative
  else if 0 ≤ places then x.mul (powerOfTen places.toNat)
  else
    let left := (-places).toNat
    (x.div (powerOfTen (min left 308))).div (powerOfTen (min (left - 308) 308))

end Binary64

def Numeral.stepwise (n : Numeral) : Binary64 :=
  let (whole, dropped) := appendDigits 0 n.whole
  let (significand, ignored) := appendDigits whole n.decimals
  let decimals : Int := (n.decimals.length : Int) - ignored.length
  (Binary64.ofRatio n.negative significand 1).movePoint
    (n.exponent.getD 0 + dropped.length - decimals)

-- Short numbers come out nearest, a long or a very small one need not.
example : (Numeral.mk true ['0'] ['1', '2', '5'] none).stepwise = .ofDecimal true 125 (-3) := by
  decide +kernel
example : (Numeral.mk false ['5'] ['8', '4'] (some (-30))).stepwise =
    .ofDecimal false 58399999999999995 (-46) := by
  decide +kernel
example : (Numeral.mk false "9007199254740993".toList ['0'] none).stepwise =
    .ofInt 9007199254740994 := by
  decide +kernel

end Proofbook
