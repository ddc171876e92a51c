import Proofbook.Binary64.Rounding

/-!
# JSON values

An object is a list of members. A name may occur in it more than once, and then its first entry
counts; the reader of JSON text therefore lists the members latest first, so that the last member
of a name in the text is the one that counts.
-/

namespace Proofbook

inductive JsonNumber where
  | integer (value : Int)
  | decimal (value : Binary64)
deriving DecidableEq

def JsonNumber.toBinary64 : JsonNumber → Binary64
  | .integer value => .ofInt value
  | .decimal value => value

inductive Json where
  | null
  | bool (value : Bool)
  | number (value : JsonNumber)
  | string (value : String)
  | array (items : List Json)
  | object (members : List (String × Json))

inductive JsonKind where
  | null
  | boolean
  | number
  | string
  | array
  | object
deriving DecidableEq

def JsonKind.phrase : JsonKind → String
  | .null => "null"
  | .boolean => "a boolean"
  | .number => "a number"
  | .string => "a string"
  | .array => "an array"
  | .object => "an object"

namespace Json

def kind : Json → JsonKind
  | .null => .null
  | .bool _ => .boolean
  | .number _ => .number
  | .string _ => .string
  | .array _ => .array
  | .object _ => .object

def get? (name : String) : Json → Option Json
  | .object members => members.lookup name
  | _ => none

def items? : Json → Option (List Json)
  | .array items => some items
  | _ => none

def string? : Json → Option String
  | .string value => some value
  | _ => none

def bool? : Json → Option Bool
  | .bool value => some value
  | _ => none

def ofBinary64 (x : Binary64) : Json := if x.isFinite then .number (.decimal x) else .null

def ofInt (value : Int) : Json := .number (.integer value)

def ofNat (value : Nat) : Json := .ofInt value

def ofOption {α : Type} (toJson : α → Json) : Option α → Json
  | none => .null
  | some a => toJson a

end Json

end Proofbook
