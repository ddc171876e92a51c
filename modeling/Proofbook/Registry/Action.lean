import Proofbook.Proof.Check
import Proofbook.Registry.Basic

/-!
# Actions on a registry

An action reads and changes a registry step by step and may fail on the way. Nothing is undone
when it fails: what it had changed before the fault stays changed. That no action changes
anything before a fault is a property of the actions, not of the type.
-/

namespace Proofbook

abbrev Action := EStateM Error Registry

namespace Action

variable {α : Type}

def lift : Except Error α → Action α
  | .ok a => pure a
  | .error fault => throw fault

def ask (look : Registry → Except Error α) : Action α := do lift (look (← get))

end Action

namespace Registry

open Proofbook.Action

/-! ## Theorems -/

def defineTheorem (t : Theorem) : Action Unit := do
  if (← get).theorems.contains t.name then throw (.duplicateTheorem t.name)
  else if !t.isWellFormed then throw (.invalidTheorem t.name)
  else modify fun r => { r with theorems := r.theorems.insert t.name t }

/--
Whether the statement and the hypotheses of a theorem are well-formed. If they are, the theorem
becomes proven when a valid proof is attached to it or its hypotheses contain its conclusion.
-/
def verifyTheorem (name : String) : Action Bool := do
  let t ← ask (·.findTheorem name)
  if !(t.statement.wellFormed && t.hypotheses.all Formula.wellFormed) then return false
  else
    if t.proof.any Proof.isValid || t.isEntailed then
      modify fun r => { r with theorems := r.theorems.modify name Theorem.markProven }
    return true

/-! ## Axioms -/

def addAxiom (a : Axiom) : Action Unit := do
  if (← get).axioms.contains a.name then throw (.duplicateAxiom a.name)
  else if !a.statement.wellFormed then throw (.invalidAxiom a.name)
  else modify fun r => { r with axioms := r.axioms.insert a.name a.absolve }

def validateAxiom (name : String) : Action Bool := do
  let position ← ask (·.locateAxiom name)
  let isConsistent := isSpared (← get).contradictions position
  modify fun r =>
    { r with axioms := r.axioms.modifyAt position fun a => { a with isConsistent } }
  return isConsistent

def checkConsistency : Action (List (String × String)) := do
  let r ← get
  let pairs := r.contradictions
  let axioms := accuseAll r.axioms.items pairs
  set { r with axioms := { r.axioms with items := axioms }, isConsistent := pairs.isEmpty }
  return namePairs axioms pairs

/-! ## Proofs -/

def openProof (goal : String) : Action Proof := do
  if !(← get).proofs.contains goal then
    modify fun r => { r with proofs := r.proofs.insert goal (.empty goal) }
  ask (·.findProof goal)

/--
One more step of a working proof, and whether it is admissible: the first step always is, a later
one if it is a marker or well-formed. The step is kept in either case.
-/
def addStep (goal : String) (step : Step) : Action Bool := do
  let _ ← ask (·.findTheorem goal)
  let proof ← openProof goal
  modify fun r => { r with proofs := r.proofs.modify goal (·.push step) }
  return proof.steps.isEmpty || step.formula.isMarker || step.formula.wellFormed

def commit (goal : String) (steps justifications : List Formula) (valid : Bool) (time : Nat) :
    Action Unit := do
  let _ ← ask (·.findTheorem goal)
  let proof ← openProof goal
  let concluded := proof.conclude steps justifications valid time
  modify fun r => { r with proofs := r.proofs.modify goal fun _ => concluded }
  if valid then modify fun r => { r with theorems := r.theorems.modify goal (·.prove concluded) }
  modify fun r =>
    { r with statistics := r.statistics.addVerification steps.length valid time }

def checkWithin (limit : Option Nat) (time : Nat) (goal : String) (steps : List Formula) :
    Except Error Bool :=
  match limit with
  | some limit => if limit < time then .error (.timeout goal limit) else .ok (checkSteps steps)
  | none => .ok (checkSteps steps)

def verifyProof (limit : Option Nat) (time : Nat) (goal : String)
    (steps justifications : List Formula) : Action Bool := do
  let _ ← ask (·.findTheorem goal)
  if steps.isEmpty then throw (.emptyProof goal)
  else
    let valid ← lift (checkWithin limit time goal steps)
    commit goal steps justifications valid time
    return valid

/-! ## The registry as a whole -/

def countDerivation (derived : Option Formula) : Action Unit := do
  if derived.isSome then
    modify fun r => { r with statistics := r.statistics.addRuleApplication }

def reset (confirmed : Bool) : Action Unit := do
  if confirmed then
    modify fun r =>
      seed { r with
        theorems := .empty, axioms := .empty, proofs := .empty
        isConsistent := true, statistics := {} }
  else throw .notConfirmed

end Registry

end Proofbook
