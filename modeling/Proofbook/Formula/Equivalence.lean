import Proofbook.Formula.Basic

/-!
# Comparing formulas

`same` is equality of formulas as written, with numbers compared by the equality of the number
format. `equivalent` forgets the truth values of propositions and takes all NaNs for one, but
holds of no formula with a quantifier, an inequality or a marker in it. There is no renaming of
bound variables.

`wellFormed` looks only at the outermost construction of a formula.
-/

namespace Proofbook.Formula

mutual

def same : Formula → Formula → Bool
  | quantified kind name domain body, quantified kind' name' domain' body' =>
    kind == kind' && name == name' && sameOption domain domain' && same body body'
  | connective kind left right, connective kind' left' right' =>
    kind == kind' && sameOption left left' && same right right'
  | predicate name args, predicate name' args' => name == name' && sameList args args'
  | var name bound, var name' bound' => name == name' && bound == bound'
  | proposition name truth, proposition name' truth' => name == name' && truth == truth'
  | equation left right, equation left' right' => same left left' && same right right'
  | inequality kind left right, inequality kind' left' right' =>
    kind == kind' && same left left' && same right right'
  | function name args, function name' args' => name == name' && sameList args args'
  | premise, premise => true
  | conclusion, conclusion => true
  | inference rule premises, inference rule' premises' =>
    rule == rule' && sameList premises premises'
  | number value, number value' => value.agrees value'
  | text value, text value' => value == value'
  | _, _ => false

def sameOption : Option Formula → Option Formula → Bool
  | none, none => true
  | some formula, some formula' => same formula formula'
  | _, _ => false

def sameList : List Formula → List Formula → Bool
  | [], [] => true
  | formula :: formulas, formula' :: formulas' =>
    same formula formula' && sameList formulas formulas'
  | _, _ => false

end

mutual

def equivalent : Formula → Formula → Bool
  | proposition name _, proposition name' _ => name == name'
  | var name bound, var name' bound' => name == name' && bound == bound'
  | predicate name args, predicate name' args' => name == name' && equivalentList args args'
  | function name args, function name' args' => name == name' && equivalentList args args'
  | connective kind left right, connective kind' left' right' =>
    kind == kind' && equivalentOption left left' && equivalent right right'
  | equation left right, equation left' right' =>
    equivalent left left' && equivalent right right'
  | number value, number value' => value.agreesOrNaN value'
  | text value, text value' => value == value'
  | _, _ => false

def equivalentOption : Option Formula → Option Formula → Bool
  | none, none => true
  | some formula, some formula' => equivalent formula formula'
  | _, _ => false

def equivalentList : List Formula → List Formula → Bool
  | [], [] => true
  | formula :: formulas, formula' :: formulas' =>
    equivalent formula formula' && equivalentList formulas formulas'
  | _, _ => false

end

/-- Whether a formula is a statement whose outermost construction is complete. -/
def wellFormed : Formula → Bool
  | quantified _ name _ _ => !name.isEmpty
  | predicate name _ | function name _ => !name.isEmpty
  | connective .not _ _ => true
  | connective _ left _ => left.isSome
  | var .. | proposition .. | equation .. | inequality .. => true
  | premise | conclusion | inference .. | number .. | text .. => false

def negates : Formula → Formula → Bool
  | connective .not _ right, other => equivalent right other
  | _, _ => false

def isConnective : Formula → Bool
  | connective .. => true
  | _ => false

def contradicts (a b : Formula) : Bool :=
  a.isConnective && b.isConnective && (negates a b || negates b a)

end Proofbook.Formula
