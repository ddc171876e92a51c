import Proofbook.Formula.Equivalence

namespace Proofbook

structure Findings where
  premise : Bool
  inference : Bool
  conclusion : Bool

namespace Findings

def none : Findings := ⟨false, false, false⟩

def add (found : Findings) : Formula → Option Findings
  | .premise => some { found with premise := true }
  | .conclusion => some { found with conclusion := true }
  | .inference rule _ => some { found with inference := found.inference || rule.isSound }
  | statement => if statement.wellFormed then some found else Option.none

def isComplete (found : Findings) : Bool := found.premise && found.inference && found.conclusion

end Findings

def checkSteps (steps : List Formula) : Bool :=
  match steps.foldlM Findings.add Findings.none with
  | some found => found.isComplete
  | none => false

end Proofbook
