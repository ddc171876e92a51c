import Proofbook.Binary64.Rounding

/-!
# Shortest decimal digits

A finite number is written with the fewest decimal digits that still round to it, and among the
candidates with that many digits with the nearest one. Both are decided in exact integer
arithmetic: the number is the middle part of an interval of reals that round to it, and for
one digit, two digits and so on the two neighbours of the number on the grid of decimals with
that many digits are tried. Seventeen digits always suffice.

Two neighbours may be equally near; `Tie` says which of them is taken.
-/

namespace Proofbook

inductive Tie where
  | upward
  | toEven
deriving DecidableEq

def Tie.roundsUp (tie : Tie) (floor rest den : Nat) : Bool :=
  den < 2 * rest || (2 * rest == den && match tie with
    | .upward => true
    | .toEven => floor % 2 == 1)

/-- The decimal fraction `0.d₁d₂…dₙ * 10 ^ point`. -/
structure Decimal where
  digits : List Char
  point : Int

namespace Binary64

/--
The reals that round to a positive number, over one denominator: the interval from `low` to
`high` around `value`, its ends included exactly when `closed`.
-/
structure Interval where
  low : Nat
  value : Nat
  high : Nat
  den : Nat
  closed : Bool

/-- The gap below a power of two is half the gap above it. -/
def interval (x : Binary64) : Interval :=
  let m := x.mantissa
  let below := if x.fractionBits = 0 ∧ 1 < x.exponentBits then 1 else 2
  let unit := rescale 2 (2 - x.scale) 1 1
  { low := (4 * m - below) * unit.1, value := 4 * m * unit.1, high := (4 * m + 2) * unit.1
    den := unit.2, closed := m % 2 == 0 }

def decimalExponent (num den : Nat) : Int :=
  if den ≤ num then (Nat.toDigits 10 (num / den)).length - 1
  else
    let places := (Nat.toDigits 10 (den / num)).length
    if den ≤ num * Nat.pow 10 (places - 1) then 1 - places else -places

def Interval.admitsBelow (i : Interval) (low point : Nat) : Bool :=
  if i.closed then low ≤ point else low < point

def Interval.admitsAbove (i : Interval) (point high : Nat) : Bool :=
  if i.closed then point ≤ high else point < high

def nearestOnGrid (tie : Tie) (i : Interval) (exponent : Int) : Option Nat :=
  let (value, step) := rescale 10 exponent i.value i.den
  let low := (rescale 10 exponent i.low i.den).1
  let high := (rescale 10 exponent i.high i.den).1
  let floor := value / step
  let below := i.admitsBelow low (floor * step)
  let above := i.admitsAbove ((floor + 1) * step) high
  if above && (!below || tie.roundsUp floor (value % step) step) then some (floor + 1)
  else if below then some floor
  else none

def significantDigits (n : Nat) : List Char :=
  ((Nat.toDigits 10 n).reverse.dropWhile (· == '0')).reverse

def shortest (tie : Tie) (x : Binary64) : Decimal :=
  if x.isZero then ⟨['0'], 1⟩
  else
    let i := x.interval
    let top := decimalExponent i.value i.den
    let found := (List.range 17).findSome? fun (n : Nat) =>
      (nearestOnGrid tie i (top - n)).map fun digits => (digits, top - n)
    match found with
    | some (digits, exponent) =>
      ⟨significantDigits digits, (Nat.toDigits 10 digits).length + exponent⟩
    | none => ⟨['0'], 1⟩

end Binary64

namespace Decimal

def positional (d : Decimal) : List Char × List Char :=
  if d.point ≤ 0 then (['0'], List.replicate (-d.point).toNat '0' ++ d.digits)
  else
    let n := d.point.toNat
    (d.digits.take n ++ List.replicate (n - d.digits.length) '0', d.digits.drop n)

def exponent (d : Decimal) : Int := d.point - 1

end Decimal

namespace Binary64

def signText (x : Binary64) : List Char := if x.isNegative then ['-'] else []

/--
The text of a number inside formulas: the shortest digits in positional form, however long, with
a point only when there are decimals. A tie goes up.
-/
def toText (x : Binary64) : String :=
  if x.isNaN then "NaN"
  else if !x.isFinite then if x.isNegative then "-inf" else "inf"
  else
    let (whole, decimals) := (x.shortest .upward).positional
    String.ofList (x.signText ++ whole ++ if decimals.isEmpty then [] else '.' :: decimals)

end Binary64

-- The format of numbers in formulas: no exponent, no needless point, a tie up, a sign on zero.
example : (Binary64.ofDecimal false 15 (-1)).toText = "1.5" := by decide +kernel
example : (Binary64.ofDecimal false 1 21).toText = "1000000000000000000000" := by decide +kernel
example : (Binary64.ofDecimal false 1 (-5)).toText = "0.00001" := by decide +kernel
example : (Binary64.ofRatio false 1 (2 ^ 25)).toText = "0.000000029802322387695313" := by
  decide +kernel
example : (Binary64.ofMagnitude true 0).toText = "-0" := by decide +kernel

end Proofbook
