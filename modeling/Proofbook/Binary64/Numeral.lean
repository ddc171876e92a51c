import Proofbook.Binary64.Rounding

/-!
# Written decimal numbers

A written number has a sign, digits before and behind a point, and an exponent. It denotes the
nearest `Binary64`. The scanning functions take a part of a number off the start of a text; which
parts may be left out is decided by the formats that use them.
-/

namespace Proofbook

structure Numeral where
  negative : Bool
  whole : List Char
  decimals : List Char
  exponent : Option Int

def natOfDigits (digits : List Char) : Nat :=
  digits.foldl (fun n c => 10 * n + (c.toNat - '0'.toNat)) 0

def Numeral.toBinary64 (n : Numeral) : Binary64 :=
  .ofDecimal n.negative (natOfDigits (n.whole ++ n.decimals))
    (n.exponent.getD 0 - n.decimals.length)

def spanDigits (text : List Char) : List Char × List Char :=
  (text.takeWhile Char.isDigit, text.dropWhile Char.isDigit)

def scanExponentDigits (negative : Bool) (text : List Char) : Option (Option Int × List Char) :=
  let (digits, rest) := spanDigits text
  let size : Int := natOfDigits digits
  if digits.isEmpty then none else some (some (if negative then -size else size), rest)

def scanExponent : List Char → Option (Option Int × List Char)
  | [] => some (none, [])
  | c :: rest =>
    if c = 'e' ∨ c = 'E' then
      match rest with
      | '-' :: rest => scanExponentDigits true rest
      | '+' :: rest => scanExponentDigits false rest
      | rest => scanExponentDigits false rest
    else some (none, c :: rest)

end Proofbook
