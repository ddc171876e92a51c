import Proofbook.Formula.Decode
import Proofbook.Formula.Display
import Proofbook.Session.Operation
import Proofbook.Text.Duration

namespace Proofbook

inductive ArgumentFault where
  /-- The argument at a position, counted from one, is not a string. -/
  | notAString (position : Nat) (found : JsonKind)
  | stepsNotAnArray (found : JsonKind)

def ArgumentFault.message : ArgumentFault → String
  | notAString position found =>
    "argument " ++ Text.numeral position ++ " must be a string, found " ++ found.phrase
  | stepsNotAnArray found => "steps must be an array, found " ++ found.phrase

inductive Error where
  | notInitialized
  | duplicateTheorem (name : String)
  | duplicateAxiom (name : String)
  | invalidTheorem (name : String)
  | invalidAxiom (name : String)
  | theoremNotFound (name : String)
  | axiomNotFound (name : String)
  | proofNotFound (name : String)
  | emptyProof (name : String)
  | proofIncomplete (name : String)
  /-- A proof check took longer than its limit in nanoseconds. -/
  | timeout (name : String) (limit : Nat)
  | notConfirmed
  | conversion (fault : Formula.DecodeError)
  | arity (call : Operation) (given : Nat)
  | argument (call : Operation) (fault : ArgumentFault)
  | notPropositional (formula : Formula)
  | tableTooLarge (atoms limit : Nat)
  | unknownFormat (name : String)
  | unknownCall (name : String)

namespace Error

def message : Error → String
  | notInitialized => "logic system is not initialized"
  | duplicateTheorem name => "theorem '" ++ name ++ "' already exists"
  | duplicateAxiom name => "axiom '" ++ name ++ "' already exists"
  | invalidTheorem name => "theorem '" ++ name ++ "' is not a well-formed logical statement"
  | invalidAxiom name => "axiom '" ++ name ++ "' is not a well-formed logical statement"
  | theoremNotFound name => "theorem '" ++ name ++ "' not found"
  | axiomNotFound name => "axiom '" ++ name ++ "' not found"
  | proofNotFound name => "no proof recorded for theorem '" ++ name ++ "'"
  | emptyProof name => "proof of '" ++ name ++ "' must have at least one step"
  | proofIncomplete name => "proof of '" ++ name ++ "' is not complete"
  | timeout name limit => "verification of '" ++ name ++ "' exceeded " ++ Text.duration limit
  | notConfirmed => "reset requires confirmation (pass true to confirm)"
  | conversion fault => fault.message
  | arity call given =>
    call.name ++ "() expects " ++ call.arity.phrase ++ " arguments, got " ++ Text.numeral given
  | argument call fault => call.name ++ "(): " ++ fault.message
  | notPropositional formula => "formula is not propositional: " ++ formula.display
  | tableTooLarge atoms limit =>
    "truth table over " ++ Text.numeral atoms ++ " propositions exceeds limit " ++
      Text.numeral limit
  | unknownFormat name => "unknown proof export format '" ++ name ++ "'"
  | unknownCall name => "unknown logic function '" ++ name ++ "'"

def code : Error → Int
  | duplicateTheorem _ | invalidTheorem _ => -1001
  | emptyProof _ => -1002
  | duplicateAxiom _ | invalidAxiom _ => -1003
  | proofIncomplete _ => -1004
  | timeout .. => -1006
  | theoremNotFound _ | axiomNotFound _ | proofNotFound _ => -1008
  | notInitialized => -1009
  | notConfirmed | conversion _ | arity .. | argument .. | notPropositional _ | tableTooLarge ..
  | unknownFormat _ | unknownCall _ => -1007

def toJson (e : Error) : Json := .object [("code", .ofInt e.code), ("error", .string e.message)]

end Error

end Proofbook
