import Proofbook.Binary64.Numeral
import Proofbook.Json.Basic

/-!
# Lexemes of JSON text

The text is cut into brackets, separators, words, numbers and strings. A number or a string that
is well written may still denote nothing: a number beyond the range of `Binary64`, or a string
with half of a surrogate pair. A number is therefore kept as it is written, and such a string
carries no value; it is the reader of the lexemes who decides whether that matters.
-/

namespace Proofbook.Json

inductive Lexeme where
  | openArray
  | closeArray
  | openObject
  | closeObject
  | comma
  | colon
  | null
  | bool (value : Bool)
  | number (numeral : Numeral)
  | string (value : Option String)

/-! ## Strings -/

def hexDigit? (c : Char) : Option Nat :=
  if '0' ≤ c ∧ c ≤ '9' then some (c.toNat - '0'.toNat)
  else if 'a' ≤ c ∧ c ≤ 'f' then some (c.toNat - 'a'.toNat + 10)
  else if 'A' ≤ c ∧ c ≤ 'F' then some (c.toNat - 'A'.toNat + 10)
  else none

def hexUnit? (a b c d : Char) : Option Nat := do
  return 0x1000 * (← hexDigit? a) + 0x100 * (← hexDigit? b) + 0x10 * (← hexDigit? c) +
    (← hexDigit? d)

def shortEscape? : Char → Option Char
  | '"' => some '"'
  | '\\' => some '\\'
  | '/' => some '/'
  | 'b' => some '\x08'
  | 'f' => some '\x0c'
  | 'n' => some '\n'
  | 'r' => some '\r'
  | 't' => some '\t'
  | _ => none

/--
The rest of a string behind its opening quote: the code units of its content, before those in
`units` in reverse, and the text behind its closing quote.
-/
def scanString (units : List Nat) : List Char → Option (List Nat × List Char)
  | [] => none
  | '"' :: rest => some (units.reverse, rest)
  | '\\' :: 'u' :: a :: b :: c :: d :: rest =>
    match hexUnit? a b c d with
    | some unit => scanString (unit :: units) rest
    | none => none
  | '\\' :: c :: rest =>
    match shortEscape? c with
    | some c => scanString (c.toNat :: units) rest
    | none => none
  | c :: rest => if c.toNat < 0x20 then none else scanString (c.toNat :: units) rest

def charsOfUnits : List Nat → Option (List Char)
  | [] => some []
  | unit :: rest =>
    if 0xd800 ≤ unit ∧ unit < 0xdc00 then
      match rest with
      | [] => none
      | low :: rest =>
        if 0xdc00 ≤ low ∧ low < 0xe000 then
          (charsOfUnits rest).map
            (Char.ofNat (0x10000 + (unit - 0xd800) * 0x400 + (low - 0xdc00)) :: ·)
        else none
    else if 0xdc00 ≤ unit ∧ unit < 0xe000 then none
    else (charsOfUnits rest).map (Char.ofNat unit :: ·)

/-! ## Numbers -/

def scanDecimals : List Char → Option (List Char × List Char)
  | '.' :: rest =>
    let (digits, rest) := spanDigits rest
    if digits.isEmpty then none else some (digits, rest)
  | text => some ([], text)

def scanNumeral (negative : Bool) (text : List Char) : Option (Numeral × List Char) := do
  let (whole, rest) := spanDigits text
  if whole.isEmpty ∨ (whole.head? = some '0' ∧ 1 < whole.length) then none
  else
    let (decimals, rest) ← scanDecimals rest
    let (exponent, rest) ← scanExponent rest
    return (⟨negative, whole, decimals, exponent⟩, rest)

/-! ## Lexemes -/

def isBlank (c : Char) : Bool := c == ' ' || c == '\t' || c == '\n' || c == '\r'

def scanWord (lexeme : Lexeme) (letters text : List Char) : Option (Lexeme × List Char) :=
  if letters.isPrefixOf text then some (lexeme, text.drop letters.length) else none

def scanLexeme (first : Char) (text : List Char) : Option (Lexeme × List Char) :=
  match first with
  | '[' => some (.openArray, text)
  | ']' => some (.closeArray, text)
  | '\x7b' => some (.openObject, text)
  | '\x7d' => some (.closeObject, text)
  | ',' => some (.comma, text)
  | ':' => some (.colon, text)
  | 'n' => scanWord .null ['u', 'l', 'l'] text
  | 't' => scanWord (.bool true) ['r', 'u', 'e'] text
  | 'f' => scanWord (.bool false) ['a', 'l', 's', 'e'] text
  | '"' => (scanString [] text).map fun (units, rest) =>
      (.string ((charsOfUnits units).map String.ofList), rest)
  | '-' => (scanNumeral true text).map fun (numeral, rest) => (.number numeral, rest)
  | c => (scanNumeral false (c :: text)).map fun (numeral, rest) => (.number numeral, rest)

/--
The lexemes of a text, or nothing where it has none. Every lexeme takes at least one character,
so as many rounds as there are characters suffice.
-/
def lexWithin : Nat → List Char → List Lexeme → Option (List Lexeme)
  | _, [], found => some found.reverse
  | 0, _ :: _, _ => none
  | rounds + 1, c :: text, found =>
    if isBlank c then lexWithin rounds text found
    else
      match scanLexeme c text with
      | some (lexeme, rest) => lexWithin rounds rest (lexeme :: found)
      | none => none

def lex (text : String) : Option (List Lexeme) :=
  let chars := text.toList
  lexWithin chars.length chars []

end Proofbook.Json
