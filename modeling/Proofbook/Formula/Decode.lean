import Proofbook.Formula.Basic
import Proofbook.Json.Basic

/-!
# Reading a formula from JSON

A formula is an object whose member `type` names its sort; a number or a string alone is a
formula as well. Each sort reads its own members in a fixed order, and the first fault found in
that order is reported. A member that is `null` counts as absent, and a member that the sort does
not read is never looked at.

The reader works from the leaves up: every member of an object is read both as a formula and, if
it is an array, as a list of formulas, and the sort then takes the readings it asks for. A fault
in a member that is not asked for is thereby without effect.
-/

namespace Proofbook.Formula

inductive DecodeError where
  | notAFormula (found : JsonKind)
  | missingType
  | unknownType (name : String)
  | missingField (kind : Kind) (field : String)
  | wrongField (kind : Kind) (field : String) (expected : JsonKind)
  | unknownName (field name : String)
  | negationWithLeft
deriving DecidableEq

def DecodeError.message : DecodeError → String
  | notAFormula found => "expected a formula object, found " ++ found.phrase
  | missingType => "formula object has no \"type\" field"
  | unknownType name => "unknown formula type '" ++ name ++ "'"
  | missingField kind field => kind.name ++ " is missing field \"" ++ field ++ "\""
  | wrongField kind field expected =>
    kind.name ++ " field \"" ++ field ++ "\" must be " ++ expected.phrase
  | unknownName field name => "unknown " ++ field ++ " '" ++ name ++ "'"
  | negationWithLeft => "negation takes a single operand, found a left operand"

/-! ## Members of an object -/

structure Field where
  value : Json
  formula : Except DecodeError Formula
  formulas : Except DecodeError (List Formula)

structure Fields where
  kind : Kind
  members : List (String × Field)

namespace Fields

def present? (fields : Fields) (name : String) : Option Field :=
  match fields.members.lookup name with
  | some field => if field.value.kind = .null then none else some field
  | none => none

def required (fields : Fields) (name : String) : Except DecodeError Field :=
  match fields.present? name with
  | some field => .ok field
  | none => .error (.missingField fields.kind name)

def string (fields : Fields) (name : String) : Except DecodeError String := do
  match (← fields.required name).value with
  | .string value => .ok value
  | _ => .error (.wrongField fields.kind name .string)

def flag (fields : Fields) (name : String) : Except DecodeError (Option Bool) :=
  match fields.present? name with
  | none => .ok none
  | some field =>
    match field.value with
    | .bool value => .ok (some value)
    | _ => .error (.wrongField fields.kind name .boolean)

def number (fields : Fields) (name : String) : Except DecodeError Binary64 := do
  match (← fields.required name).value with
  | .number value => .ok value.toBinary64
  | _ => .error (.wrongField fields.kind name .number)

def formula (fields : Fields) (name : String) : Except DecodeError Formula := do
  (← fields.required name).formula

def formula? (fields : Fields) (name : String) : Except DecodeError (Option Formula) :=
  match fields.present? name with
  | none => .ok none
  | some field => field.formula.map some

def formulas (fields : Fields) (name : String) : Except DecodeError (List Formula) :=
  match fields.present? name with
  | none => .ok []
  | some field =>
    match field.value with
    | .array _ => field.formulas
    | _ => .error (.wrongField fields.kind name .array)

def named {α : Type} (fields : Fields) (name : String) (ofName? : String → Option α) :
    Except DecodeError α := do
  let value ← fields.string name
  match ofName? value with
  | some found => .ok found
  | none => .error (.unknownName name value)

end Fields

/-! ## Sorts of formula -/

def ofFields (fields : Fields) : Except DecodeError Formula :=
  match fields.kind with
  | .quantifier => do
    let kind ← fields.named "quantifier_type" Quantifier.ofName?
    let name ← fields.string "variable"
    let domain ← fields.formula? "domain"
    let body ← fields.formula "body"
    return quantified kind name domain body
  | .connective => do
    let kind ← fields.named "connective_type" Connective.ofName?
    let left ← fields.formula? "left"
    if kind = .not ∧ left.isSome then throw .negationWithLeft
    let right ← fields.formula "right"
    return connective kind left right
  | .predicate => do
    let name ← fields.string "name"
    let args ← fields.formulas "args"
    return predicate name args
  | .var => do
    let name ← fields.string "name"
    let bound ← fields.flag "is_bound"
    return var name (bound.getD false)
  | .proposition => do
    let name ← fields.string "name"
    let truth ← fields.flag "truth"
    return proposition name truth
  | .equation => do
    let left ← fields.formula "left"
    let right ← fields.formula "right"
    return equation left right
  | .inequality => do
    let kind ← fields.named "inequality_type" Comparison.ofName?
    let left ← fields.formula "left"
    let right ← fields.formula "right"
    return inequality kind left right
  | .function => do
    let name ← fields.string "name"
    let args ← fields.formulas "args"
    return function name args
  | .premise => return premise
  | .conclusion => return conclusion
  | .inference => do
    let rule ← fields.named "rule" Rule.ofName?
    let premises ← fields.formulas "premises"
    return inference rule premises
  | .number => return number (← fields.number "value")
  | .text => return text (← fields.string "value")

def ofMembers (members : List (String × Field)) : Except DecodeError Formula :=
  match (members.lookup "type").bind (·.value.string?) with
  | none => .error .missingType
  | some name =>
    match Kind.ofName? name with
    | none => .error (.unknownType name)
    | some kind => ofFields ⟨kind, members⟩

mutual

def decode : Json → Except DecodeError Formula
  | .object members => ofMembers (decodeMembers members)
  | .number value => .ok (number value.toBinary64)
  | .string value => .ok (text value)
  | .null => .error (.notAFormula .null)
  | .bool _ => .error (.notAFormula .boolean)
  | .array _ => .error (.notAFormula .array)

def decodeList : List Json → Except DecodeError (List Formula)
  | [] => .ok []
  | value :: values =>
    match decode value with
    | .error fault => .error fault
    | .ok formula => (decodeList values).map (formula :: ·)

def decodeItems : Json → Except DecodeError (List Formula)
  | .array items => decodeList items
  | _ => .ok []

def decodeMembers : List (String × Json) → List (String × Field)
  | [] => []
  | (name, value) :: members =>
    (name, ⟨value, decode value, decodeItems value⟩) :: decodeMembers members

end

theorem lookup_decodeMembers (members : List (String × Json)) (name : String) :
    (decodeMembers members).lookup name =
      (members.lookup name).map fun value => ⟨value, decode value, decodeItems value⟩ := by
  induction members with
  | nil => simp [decodeMembers]
  | cons member members ih =>
    obtain ⟨first, value⟩ := member
    simp only [decodeMembers, List.lookup_cons]
    by_cases h : name == first <;> simp [h, ih]

end Proofbook.Formula
