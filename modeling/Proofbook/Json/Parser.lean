import Proofbook.Json.Lexer

/-!
# Reading JSON text

The reader takes the lexemes of a text one after the other and keeps the brackets that are still
open. It is strict: no comments, no comma behind the last element, no repeated or missing
separators, nothing behind the value.

Three faults depend on the place where they occur: too many open brackets, a number out of range
and a broken surrogate pair. They are forgiven inside a value that the caller skips; its content
then only has to be well bracketed.
-/

namespace Proofbook.Json

/-- An open bracket: what has been read behind it, latest first. -/
inductive Frame where
  | array (items : List Json)
  | object (members : List (String × Json))
  | member (members : List (String × Json)) (name : String)

inductive Expectation where
  | value
  | valueOrClose
  | nameOrClose
  | name
  | colon (name : String)
  | commaOrClose
  | done (value : Json)

structure Reader where
  stack : List Frame
  expects : Expectation

structure ReadingRules where
  depth : Nat
  skips : List Frame → Bool
  denotes : Numeral → Binary64

def ReadingRules.plain : ReadingRules := ⟨127, fun _ => false, Numeral.toBinary64⟩

/--
The value of a written number. An integer keeps its value while it fits in 64 bits; every other
number is rounded. Negative zero is not an integer. A number beyond the range has no value.
-/
def ReadingRules.number? (rules : ReadingRules) (n : Numeral) : Option JsonNumber :=
  let size := natOfDigits n.whole
  let isInteger := n.decimals.isEmpty && n.exponent.isNone
  if isInteger && size < Nat.pow 2 64 && !(n.negative && size == 0) then
    some (.integer (if n.negative then -size else size))
  else
    let value := rules.denotes n
    if value.isFinite then some (.decimal value) else none

namespace Reader

def start : Reader := ⟨[], .value⟩

def place (value : Json) : List Frame → Option Reader
  | [] => some ⟨[], .done value⟩
  | .array items :: stack => some ⟨.array (value :: items) :: stack, .commaOrClose⟩
  | .member members name :: stack =>
    some ⟨.object ((name, value) :: members) :: stack, .commaOrClose⟩
  | .object _ :: _ => none

def enter (rules : ReadingRules) (r : Reader) (frame : Frame) (expects : Expectation) :
    Option Reader :=
  if r.stack.length < rules.depth || rules.skips r.stack then some ⟨frame :: r.stack, expects⟩
  else none

/-- A lexeme without value is taken for `null` where values are skipped. -/
def placeScalar (rules : ReadingRules) (r : Reader) (value : Option Json) : Option Reader :=
  match value with
  | some value => place value r.stack
  | none => if rules.skips r.stack then place .null r.stack else none

def readValue (rules : ReadingRules) (r : Reader) : Lexeme → Option Reader
  | .null => place .null r.stack
  | .bool value => place (.bool value) r.stack
  | .number numeral => r.placeScalar rules ((rules.number? numeral).map .number)
  | .string value => r.placeScalar rules (value.map .string)
  | .openArray => r.enter rules (.array []) .valueOrClose
  | .openObject => r.enter rules (.object []) .nameOrClose
  | _ => none

def close (r : Reader) : Lexeme → Option Reader
  | .closeArray =>
    match r.stack with
    | .array items :: stack => place (.array items.reverse) stack
    | _ => none
  | .closeObject =>
    match r.stack with
    | .object members :: stack => place (.object members) stack
    | _ => none
  | _ => none

def readName (rules : ReadingRules) (r : Reader) : Lexeme → Option Reader
  | .string (some name) => some ⟨r.stack, .colon name⟩
  | .string none => if rules.skips r.stack then some ⟨r.stack, .colon ""⟩ else none
  | _ => none

def step (rules : ReadingRules) (r : Reader) (lexeme : Lexeme) : Option Reader :=
  match r.expects, lexeme with
  | .value, lexeme => r.readValue rules lexeme
  | .valueOrClose, .closeArray => r.close .closeArray
  | .valueOrClose, lexeme => r.readValue rules lexeme
  | .nameOrClose, .closeObject => r.close .closeObject
  | .nameOrClose, lexeme => r.readName rules lexeme
  | .name, lexeme => r.readName rules lexeme
  | .colon name, .colon =>
    match r.stack with
    | .object members :: stack => some ⟨.member members name :: stack, .value⟩
    | _ => none
  | .commaOrClose, .comma =>
    match r.stack with
    | .array _ :: _ => some ⟨r.stack, .value⟩
    | .object _ :: _ => some ⟨r.stack, .name⟩
    | _ => none
  | .commaOrClose, lexeme => r.close lexeme
  | _, _ => none

end Reader

def parseWith (rules : ReadingRules) (text : String) : Option Json := do
  let lexemes ← lex text
  let reader ← lexemes.foldlM (Reader.step rules) Reader.start
  match reader.expects with
  | .done value => some value
  | _ => none

def parse (text : String) : Option Json := parseWith .plain text

end Proofbook.Json
