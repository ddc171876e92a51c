import Proofbook.Error
import Proofbook.Registry.Entry
import Proofbook.Registry.Statistics

namespace Proofbook

structure Registry where
  theorems : Store Theorem
  axioms : Store Axiom
  proofs : Store Proof
  isConsistent : Bool
  statistics : Statistics

namespace Registry

def empty : Registry := ⟨.empty, .empty, .empty, true, {}⟩

def seed (r : Registry) : Registry :=
  { r with axioms := Axiom.seeds.foldl (fun axioms a => axioms.insert a.name a) r.axioms }

def fresh : Registry := empty.seed

/-! ## Looking up -/

def findTheorem (r : Registry) (name : String) : Except Error Theorem :=
  match r.theorems.get? name with
  | some found => .ok found
  | none => .error (.theoremNotFound name)

def findAxiom (r : Registry) (name : String) : Except Error Axiom :=
  match r.axioms.get? name with
  | some found => .ok found
  | none => .error (.axiomNotFound name)

def locateAxiom (r : Registry) (name : String) : Except Error Nat :=
  match r.axioms.position? name with
  | some position => .ok position
  | none => .error (.axiomNotFound name)

def findProof (r : Registry) (goal : String) : Except Error Proof :=
  match r.proofs.get? goal with
  | some found => .ok found
  | none => .error (.proofNotFound goal)

def completeProof (r : Registry) (goal : String) : Except Error Proof := do
  let proof ← r.findProof goal
  if proof.isComplete then return proof else throw (.proofIncomplete goal)

/-! ## Contradictions -/

def contradictions (r : Registry) : List (Nat × Nat) :=
  Formula.contradictions (r.axioms.items.map Axiom.statement)

def isSpared (pairs : List (Nat × Nat)) (position : Nat) : Bool :=
  !pairs.any fun (i, j) => i == position || j == position

def accusePair (axioms : List Axiom) (pair : Nat × Nat) : List Axiom :=
  (axioms.modify pair.1 Axiom.accuse).modify pair.2 Axiom.accuse

def accuseAll (axioms : List Axiom) (pairs : List (Nat × Nat)) : List Axiom :=
  pairs.foldl accusePair (axioms.map Axiom.absolve)

def namePairs (axioms : List Axiom) (pairs : List (Nat × Nat)) : List (String × String) :=
  pairs.filterMap fun (i, j) => do return ((← axioms[i]?).name, (← axioms[j]?).name)

end Registry

end Proofbook
