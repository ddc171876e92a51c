import Proofbook.Formula.Equivalence

/-!
# What a rule derives

A rule is applied to a list of premises and derives at most one formula. Premises are matched up
to structural equivalence. Universal instantiation hands out the body of its first premise as it
is, whatever the second premise. The rules that are not sound derive nothing.
-/

namespace Proofbook.Formula

def derive (rule : Rule) (premises : List Formula) : Option Formula :=
  match rule, premises with
  | .modusPonens, [connective .implies (some antecedent) consequent, fact] =>
    if equivalent antecedent fact then some consequent else none
  | .modusTollens, [connective .implies (some antecedent) consequent, connective .not _ denied] =>
    if equivalent consequent denied then some (negation antecedent) else none
  | .universalInstantiation, [quantified .universal _ _ body, _] => some body
  | .postulate, [statement] => some statement
  | _, _ => none

def entails (premises : List Formula) (goal : Formula) : Bool :=
  premises.any (equivalent · goal)

def contradictions (statements : List Formula) : List (Nat × Nat) :=
  let positions := statements.zipIdx
  positions.flatMap fun (first, i) =>
    (positions.drop (i + 1)).filterMap fun (second, j) =>
      if contradicts first second then some (i, j) else none

end Proofbook.Formula
