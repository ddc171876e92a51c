import Proofbook.Formula.Inference
import Proofbook.Record.Event

namespace Proofbook

structure Step where
  formula : Formula
  justification : Formula

inductive ProofState where
  | empty
  | accumulating
  | verifiedValid
  | verifiedInvalid
deriving DecidableEq

def ProofState.name : ProofState → String
  | empty => "empty"
  | accumulating => "accumulating"
  | verifiedValid => "verified_valid"
  | verifiedInvalid => "verified_invalid"

/-- A proof of the theorem named `goal`; `time` is what its last check took, in nanoseconds. -/
structure Proof where
  goal : String
  steps : List Formula
  justifications : List Formula
  state : ProofState
  time : Nat

def Step.event (index : Nat) (step : Step) : Event :=
  match step.formula with
  | .premise => .premise index step.justification
  | .conclusion => .conclusion index step.justification
  | .inference rule premises => .inference index rule premises (Formula.derive rule premises)
  | statement => .step index statement step.justification

namespace Proof

def empty (goal : String) : Proof := ⟨goal, [], [], .empty, 0⟩

def push (proof : Proof) (step : Step) : Proof :=
  { proof with
    steps := proof.steps ++ [step.formula]
    justifications := proof.justifications ++ [step.justification]
    state := .accumulating }

def conclude (proof : Proof) (steps justifications : List Formula) (valid : Bool) (time : Nat) :
    Proof :=
  { proof with
    steps, justifications, time, state := if valid then .verifiedValid else .verifiedInvalid }

def isValid (proof : Proof) : Bool := proof.state = .verifiedValid

def isComplete (proof : Proof) : Bool := proof.isValid

def events (proof : Proof) : List Event :=
  .opening proof.goal ::
    (proof.steps.zipWith Step.mk proof.justifications).mapIdx Step.event ++ [.closing proof.goal]

end Proof

end Proofbook
