import Proofbook.Formula.Basic

/-!
# Substitution

Replacing the free occurrences of a variable. A quantifier over the same name shields its body,
but not its domain, which stands outside its scope. Nothing is renamed: a variable of the
replacement may come under a quantifier.
-/

namespace Proofbook.Formula

mutual

def substitute (x : String) (r : Formula) : Formula → Formula
  | quantified kind name domain body =>
    quantified kind name (substituteOption x r domain)
      (if name = x then body else substitute x r body)
  | connective kind left right =>
    connective kind (substituteOption x r left) (substitute x r right)
  | predicate name args => predicate name (substituteList x r args)
  | var name bound => if name = x then r else var name bound
  | proposition name truth => proposition name truth
  | equation left right => equation (substitute x r left) (substitute x r right)
  | inequality kind left right => inequality kind (substitute x r left) (substitute x r right)
  | function name args => function name (substituteList x r args)
  | premise => premise
  | conclusion => conclusion
  | inference rule premises => inference rule (substituteList x r premises)
  | number value => number value
  | text value => text value

def substituteOption (x : String) (r : Formula) : Option Formula → Option Formula
  | none => none
  | some formula => some (substitute x r formula)

def substituteList (x : String) (r : Formula) : List Formula → List Formula
  | [] => []
  | formula :: formulas => substitute x r formula :: substituteList x r formulas

end

end Proofbook.Formula
