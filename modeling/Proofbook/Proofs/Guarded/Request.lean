import Proofbook.Proofs.Guarded.Basic
import Proofbook.Session.Request

/-!
An argument that an operation requires is accessed at its position; only one that may be missing is
looked for.
-/

namespace Proofbook.Guarded

open Checked

/-! ## Arguments -/

def stringArgument (call : Operation) (args : List Json) (position : Nat) : Checked String := do
  match ← item args position with
  | .string value => .ok value
  | other => fail (.argument call (.notAString (position + 1) other.kind))

def formulaArgument (args : List Json) (position : Nat) : Checked Formula := do
  ofExcept (Request.readFormula (← item args position))

def stepsArgument (call : Operation) (args : List Json) (position : Nat) :
    Checked (List Step) := do
  match ← item args position with
  | .array items => ofExcept (items.mapM Request.readStep)
  | other => fail (.argument call (.stepsNotAnArray other.kind))

/-! ## Operations -/

def readDerivation (rule : Rule) (args : List Json) : Checked Request := do
  let first ← formulaArgument args 0
  let second ← formulaArgument args 1
  return .derive rule first second

def ofArguments (call : Operation) (args : List Json) : Checked Request :=
  match call with
  | .theoremDefine => do
    let name ← stringArgument call args 0
    let statement ← formulaArgument args 1
    let hypotheses ← ofExcept (Request.formulasArgument args 2)
    let goal ← ofExcept (Request.formulaArgument? args 3)
    return .defineTheorem name statement hypotheses goal
  | .theoremGet => return .getTheorem (← stringArgument call args 0)
  | .theoremVerify => return .verifyTheorem (← stringArgument call args 0)
  | .axiomAdd => do
    let name ← stringArgument call args 0
    let statement ← formulaArgument args 1
    return .addAxiom name statement
  | .axiomValidate => return .validateAxiom (← stringArgument call args 0)
  | .proofStep => do
    let goal ← stringArgument call args 0
    let formula ← formulaArgument args 1
    let justification ← ofExcept (Request.formulaArgument? args 2)
    return .addStep goal ⟨formula, justification.getD Request.assumed⟩
  | .proofVerify => do
    let goal ← stringArgument call args 0
    let steps ← stepsArgument call args 1
    return .verifyProof goal steps
  | .proofStats => return .describeProof (← stringArgument call args 0)
  | .proofExport => do
    let goal ← stringArgument call args 0
    let format ← if args.length < 2 then pure "tstp" else stringArgument call args 1
    return .exportProof goal format
  | .entails => do
    let premises ← ofExcept (Request.formulasArgument args 0)
    let goal ← formulaArgument args 1
    return .entails premises goal
  | .modusPonens => readDerivation .modusPonens args
  | .modusTollens => readDerivation .modusTollens args
  | .universalInstantiation => readDerivation .universalInstantiation args
  | .substitute => do
    let formula ← formulaArgument args 0
    let name ← stringArgument call args 1
    let replacement ← formulaArgument args 2
    return .substitute formula name replacement
  | .truthTable => return .tabulate (← formulaArgument args 0)
  | .checkUndecidable => return .checkUndecidable (← formulaArgument args 0)
  -- These access no argument at a position.
  | .theoremList | .axiomList | .equivalent | .systemStats | .systemConsistency
  | .systemReset => ofExcept (Request.ofArguments call args)

def read (call : Operation) (args : List Json) : Checked Request :=
  if call.arity.admits args.length then ofArguments call args
  else fail (.arity call args.length)

/-! ## No access is outside -/

variable {call : Operation} {args : List Json} {position : Nat}

theorem item_args (inside : position < args.length) :
    item args position = .ok (Request.argument args position) := by
  apply item_of_getElem?
  rw [Request.argument, List.getD_eq_getElem?_getD, List.getElem?_eq_getElem inside]
  rfl

theorem follows_stringArgument (inside : position < args.length) :
    (stringArgument call args position).Follows (Request.stringArgument call args position) := by
  unfold stringArgument Request.stringArgument
  rw [item_args inside]
  cases Request.argument args position <;> rfl

theorem follows_formulaArgument (inside : position < args.length) :
    (formulaArgument args position).Follows (Request.formulaArgument args position) := by
  unfold formulaArgument Request.formulaArgument
  rw [item_args inside]
  exact follows_ofExcept _

theorem follows_readDerivation (rule : Rule) (both : 1 < args.length) :
    (readDerivation rule args).Follows (Request.readDerivation rule args) := by
  refine (follows_formulaArgument (Nat.zero_lt_of_lt both)).bind fun first _ => ?_
  exact (follows_formulaArgument both).bind fun second _ => follows_ok _

theorem follows_ofArguments (admitted : call.arity.admits args.length = true) :
    (ofArguments call args).Follows (Request.ofArguments call args) := by
  have least : call.arity.least ≤ args.length :=
    of_decide_eq_true (Bool.and_eq_true_iff.mp admitted).1
  have inside (position : Nat) (required : position < call.arity.least) :
      position < args.length := Nat.lt_of_lt_of_le required least
  cases call with
  | theoremDefine =>
      refine (follows_stringArgument (inside 0 (by decide))).bind fun name _ => ?_
      refine (follows_formulaArgument (inside 1 (by decide))).bind fun statement _ => ?_
      refine (follows_ofExcept _).bind fun hypotheses _ => ?_
      exact (follows_ofExcept _).bind fun goal _ => follows_ok _
  | theoremGet | theoremVerify | axiomValidate | proofStats =>
      exact (follows_stringArgument (inside 0 (by decide))).bind fun name _ => follows_ok _
  | axiomAdd =>
      refine (follows_stringArgument (inside 0 (by decide))).bind fun name _ => ?_
      exact (follows_formulaArgument (inside 1 (by decide))).bind fun statement _ => follows_ok _
  | proofStep =>
      refine (follows_stringArgument (inside 0 (by decide))).bind fun goal _ => ?_
      refine (follows_formulaArgument (inside 1 (by decide))).bind fun formula _ => ?_
      exact (follows_ofExcept _).bind fun justification _ => follows_ok _
  | proofVerify =>
      refine (follows_stringArgument (inside 0 (by decide))).bind fun goal _ => ?_
      unfold stepsArgument
      rw [item_args (inside 1 (by decide))]
      cases Request.argument args 1 with
      | array items =>
          exact (follows_ofExcept (items.mapM Request.readStep)).bind fun steps _ => follows_ok _
      | null | bool | number | string | object => exact follows_fail _
  | proofExport =>
      refine (follows_stringArgument (inside 0 (by decide))).bind fun goal _ => ?_
      by_cases short : args.length < 2
      · rw [if_pos short, if_pos short]
        exact follows_ok _
      · -- The second argument may be missing, but then it is not accessed.
        rw [if_neg short, if_neg short]
        refine (follows_stringArgument ?_).bind fun format _ => follows_ok _
        exact Nat.not_lt.mp short
  | entails =>
      refine (follows_ofExcept _).bind fun premises _ => ?_
      exact (follows_formulaArgument (inside 1 (by decide))).bind fun goal _ => follows_ok _
  | modusPonens | modusTollens | universalInstantiation =>
      exact follows_readDerivation _ (inside 1 (by decide))
  | substitute =>
      refine (follows_formulaArgument (inside 0 (by decide))).bind fun formula _ => ?_
      refine (follows_stringArgument (inside 1 (by decide))).bind fun name _ => ?_
      exact (follows_formulaArgument (inside 2 (by decide))).bind fun replacement _ => follows_ok _
  | truthTable | checkUndecidable =>
      exact (follows_formulaArgument (inside 0 (by decide))).bind fun formula _ => follows_ok _
  | theoremList | axiomList | equivalent | systemStats | systemConsistency | systemReset =>
      exact follows_ofExcept _

theorem follows_read (call : Operation) (args : List Json) :
    (read call args).Follows (Request.read call args) :=
  .ite follows_ofArguments fun _ => follows_fail _

end Proofbook.Guarded
