import Proofbook.Error
import Proofbook.Proof.Basic

namespace Proofbook

inductive Request where
  | defineTheorem (name : String) (statement : Formula) (hypotheses : List Formula)
      (goal : Option Formula)
  | getTheorem (name : String)
  | listTheorems
  | verifyTheorem (name : String)
  | addAxiom (name : String) (statement : Formula)
  | listAxioms
  | validateAxiom (name : String)
  | addStep (goal : String) (step : Step)
  | verifyProof (goal : String) (steps : List Step)
  | describeProof (goal : String)
  | exportProof (goal format : String)
  | entails (premises : List Formula) (goal : Formula)
  | equivalent (a b : Option Formula)
  | derive (rule : Rule) (first second : Formula)
  | substitute (formula : Formula) (name : String) (replacement : Formula)
  | tabulate (formula : Formula)
  | checkUndecidable (formula : Formula)
  | summarize
  | checkConsistency
  | reset (confirmed : Bool)

namespace Request

/-! ## Arguments -/

/-- The argument at a position counted from zero; one that is missing reads as `null`. -/
def argument (args : List Json) (position : Nat) : Json := args.getD position .null

def stringArgument (call : Operation) (args : List Json) (position : Nat) : Except Error String :=
  match argument args position with
  | .string value => .ok value
  | other => .error (.argument call (.notAString (position + 1) other.kind))

def readFormula (value : Json) : Except Error Formula := (Formula.decode value).mapError .conversion

def formulaArgument (args : List Json) (position : Nat) : Except Error Formula :=
  readFormula (argument args position)

def formulaArgument? (args : List Json) (position : Nat) : Except Error (Option Formula) :=
  match argument args position with
  | .null => .ok none
  | value => (readFormula value).map some

def formulasArgument (args : List Json) (position : Nat) : Except Error (List Formula) :=
  match argument args position with
  | .null => .ok []
  | .array items => items.mapM readFormula
  | value => (readFormula value).map ([·])

def assumed : Formula := .atom "assumed"

def readStep (value : Json) : Except Error Step := do
  let formula ← readFormula value
  match value.get? "justification" with
  | none | some .null => return ⟨formula, assumed⟩
  | some justification => return ⟨formula, ← readFormula justification⟩

/-! ## Operations -/

def readDerivation (rule : Rule) (args : List Json) : Except Error Request := do
  let first ← formulaArgument args 0
  let second ← formulaArgument args 1
  return derive rule first second

def ofArguments (call : Operation) (args : List Json) : Except Error Request :=
  match call with
  | .theoremDefine => do
    let name ← stringArgument call args 0
    let statement ← formulaArgument args 1
    let hypotheses ← formulasArgument args 2
    let goal ← formulaArgument? args 3
    return defineTheorem name statement hypotheses goal
  | .theoremGet => return getTheorem (← stringArgument call args 0)
  | .theoremList => return listTheorems
  | .theoremVerify => return verifyTheorem (← stringArgument call args 0)
  | .axiomAdd => do
    let name ← stringArgument call args 0
    let statement ← formulaArgument args 1
    return addAxiom name statement
  | .axiomList => return listAxioms
  | .axiomValidate => return validateAxiom (← stringArgument call args 0)
  | .proofStep => do
    let goal ← stringArgument call args 0
    let formula ← formulaArgument args 1
    let justification ← formulaArgument? args 2
    return addStep goal ⟨formula, justification.getD assumed⟩
  | .proofVerify => do
    let goal ← stringArgument call args 0
    match argument args 1 with
    | .array items => return verifyProof goal (← items.mapM readStep)
    | other => throw (.argument call (.stepsNotAnArray other.kind))
  | .proofStats => return describeProof (← stringArgument call args 0)
  | .proofExport => do
    let goal ← stringArgument call args 0
    let format ← if args.length < 2 then pure "tstp" else stringArgument call args 1
    return exportProof goal format
  | .entails => do
    let premises ← formulasArgument args 0
    let goal ← formulaArgument args 1
    return entails premises goal
  | .equivalent => do
    let a ← formulaArgument? args 0
    let b ← formulaArgument? args 1
    return equivalent a b
  | .modusPonens => readDerivation .modusPonens args
  | .modusTollens => readDerivation .modusTollens args
  | .universalInstantiation => readDerivation .universalInstantiation args
  | .substitute => do
    let formula ← formulaArgument args 0
    let name ← stringArgument call args 1
    let replacement ← formulaArgument args 2
    return substitute formula name replacement
  | .truthTable => return tabulate (← formulaArgument args 0)
  | .checkUndecidable => return checkUndecidable (← formulaArgument args 0)
  | .systemStats => return summarize
  | .systemConsistency => return checkConsistency
  | .systemReset =>
    match args with
    | [] | [.bool true] => return reset true
    | _ => return reset false

def read (call : Operation) (args : List Json) : Except Error Request :=
  if call.arity.admits args.length then ofArguments call args
  else .error (.arity call args.length)

end Request

end Proofbook
