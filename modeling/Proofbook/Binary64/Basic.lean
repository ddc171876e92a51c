/-!
# Binary floating-point numbers

Numbers are 64-bit binary floating-point values, kept as their bits. Two values are equal in the
logic exactly when all their bits agree, while `Binary64.agrees` is the equality of the number
format: the two zeros agree, and a NaN agrees with nothing, itself included.

A finite number stands for `mantissa * 2 ^ scale`, negated when the sign bit is set.
-/

namespace Proofbook

structure Binary64 where
  bits : UInt64
deriving DecidableEq

namespace Binary64

def isNegative (x : Binary64) : Bool := Nat.pow 2 63 ≤ x.bits.toNat

def magnitudeBits (x : Binary64) : Nat := x.bits.toNat % Nat.pow 2 63

def exponentBits (x : Binary64) : Nat := x.magnitudeBits / Nat.pow 2 52

def fractionBits (x : Binary64) : Nat := x.magnitudeBits % Nat.pow 2 52

def isFinite (x : Binary64) : Bool := x.exponentBits != 2047

def isNaN (x : Binary64) : Bool := x.exponentBits == 2047 && x.fractionBits != 0

def isZero (x : Binary64) : Bool := x.magnitudeBits == 0

/-- The integer `m` of the value `m * 2 ^ scale` of a finite number, the sign left out. -/
def mantissa (x : Binary64) : Nat :=
  if x.exponentBits = 0 then x.fractionBits else Nat.pow 2 52 + x.fractionBits

def scale (x : Binary64) : Int :=
  if x.exponentBits = 0 then -1074 else (x.exponentBits : Int) - 1075

def ofMagnitude (negative : Bool) (magnitude : Nat) : Binary64 :=
  ⟨UInt64.ofNat (magnitude % Nat.pow 2 63 + if negative then Nat.pow 2 63 else 0)⟩

def infinityBits : Nat := 2047 * Nat.pow 2 52

def zero : Binary64 := ofMagnitude false 0

def infinity (negative : Bool) : Binary64 := ofMagnitude negative infinityBits

def agrees (x y : Binary64) : Bool :=
  !x.isNaN && !y.isNaN && (x == y || (x.isZero && y.isZero))

def agreesOrNaN (x y : Binary64) : Bool := x.agrees y || (x.isNaN && y.isNaN)

end Binary64

end Proofbook
