import Proofbook.Json.Basic
import Proofbook.Binary64.Shortest

/-!
# Writing JSON text

Values are written without blanks, members in the order in which the object lists them.
Characters beyond the control characters stand for themselves, apart from the quote and the
backslash.

A rounded number is written with its shortest digits, an even last digit deciding a tie. It has
at least one decimal while the exponent of its first digit is from -5 to 15; beyond that it is
written with one digit before the point and a signed exponent.
-/

namespace Proofbook.Json

def hexUnit (n : Nat) : List Char :=
  let digits := Nat.toDigits 16 n
  List.replicate (4 - digits.length) '0' ++ digits

def escapeChar (c : Char) : List Char :=
  if c = '"' then ['\\', '"']
  else if c = '\\' then ['\\', '\\']
  else if c = '\n' then ['\\', 'n']
  else if c = '\t' then ['\\', 't']
  else if c = '\r' then ['\\', 'r']
  else if c = '\x08' then ['\\', 'b']
  else if c = '\x0c' then ['\\', 'f']
  else if c.toNat < 0x20 then ['\\', 'u'] ++ hexUnit c.toNat
  else [c]

def printString (s : String) : String :=
  String.ofList ('"' :: s.toList.flatMap escapeChar ++ ['"'])

def integerText (value : Int) : List Char :=
  let digits := Nat.toDigits 10 value.natAbs
  if value < 0 then '-' :: digits else digits

def scientificText (d : Decimal) : List Char :=
  let point := if d.digits.length ≤ 1 then [] else '.' :: d.digits.drop 1
  let sign := if d.exponent < 0 then [] else ['+']
  d.digits.take 1 ++ point ++ 'e' :: sign ++ integerText d.exponent

def positionalText (d : Decimal) : List Char :=
  let (whole, decimals) := d.positional
  whole ++ '.' :: if decimals.isEmpty then ['0'] else decimals

def printBinary64 (x : Binary64) : String :=
  if !x.isFinite then "null"
  else
    let d := x.shortest .toEven
    let isPositional := -5 ≤ d.exponent ∧ d.exponent ≤ 15
    String.ofList (x.signText ++ if isPositional then positionalText d else scientificText d)

def printNumber : JsonNumber → String
  | .integer value => String.ofList (integerText value)
  | .decimal value => printBinary64 value

mutual

def printTo (out : String) : Json → String
  | .null => out ++ "null"
  | .bool true => out ++ "true"
  | .bool false => out ++ "false"
  | .number value => out ++ printNumber value
  | .string value => out ++ printString value
  | .array items => printItemsTo (out ++ "[") items ++ "]"
  | .object members => printMembersTo (out ++ "\x7b") members ++ "\x7d"

def printItemsTo (out : String) : List Json → String
  | [] => out
  | [item] => printTo out item
  | item :: items => printItemsTo (printTo out item ++ ",") items

def printMembersTo (out : String) : List (String × Json) → String
  | [] => out
  | [(name, value)] => printTo (out ++ printString name ++ ":") value
  | (name, value) :: members =>
    printMembersTo (printTo (out ++ printString name ++ ":") value ++ ",") members

end

def print (value : Json) : String := printTo "" value

-- The format of rounded numbers: positional between the exponents -5 and 15, a tie to even.
example : printBinary64 (.ofDecimal false 1 15) = "1000000000000000.0" := by decide +kernel
example : printBinary64 (.ofDecimal false 1 16) = "1e+16" := by decide +kernel
example : printBinary64 (.ofDecimal true 15 299) = "-1.5e+300" := by decide +kernel
example : printBinary64 (.ofDecimal false 1 (-5)) = "0.00001" := by decide +kernel
example : printBinary64 (.ofDecimal false 1 (-6)) = "1e-6" := by decide +kernel
example : printBinary64 (.ofRatio false 1 (2 ^ 25)) = "2.9802322387695312e-8" := by decide +kernel

end Proofbook.Json
