/-!
# Durations in texts

A span of time, counted in nanoseconds, is written in the largest of the units second,
millisecond, microsecond and nanosecond of which it holds at least one, with its exact decimals.
-/

namespace Proofbook.Text

def decimalsText (places rest : Nat) : List Char :=
  let digits := Nat.toDigits 10 rest
  let padded := List.replicate (places - digits.length) '0' ++ digits
  (padded.reverse.dropWhile (· == '0')).reverse

def quantityText (places nanoseconds : Nat) : List Char :=
  let decimals := decimalsText places (nanoseconds % Nat.pow 10 places)
  Nat.toDigits 10 (nanoseconds / Nat.pow 10 places) ++
    if decimals.isEmpty then [] else '.' :: decimals

def duration (nanoseconds : Nat) : String :=
  let (places, unit) :=
    if Nat.pow 10 9 ≤ nanoseconds then (9, "s")
    else if Nat.pow 10 6 ≤ nanoseconds then (6, "ms")
    else if Nat.pow 10 3 ≤ nanoseconds then (3, "µs")
    else (0, "ns")
  String.ofList (quantityText places nanoseconds) ++ unit

-- The largest unit that is reached, and its exact decimals.
example : duration 0 = "0ns" := by decide +kernel
example : duration 1001 = "1.001µs" := by decide +kernel
example : duration 999999999 = "999.999999ms" := by decide +kernel
example : duration (3600 * 10 ^ 9) = "3600s" := by decide +kernel

end Proofbook.Text
