import Proofbook.Error
import Proofbook.Truth.Basic

/-!
# The propositional value of a formula

A formula made of propositions and connectives has a truth value under an assignment. Statements
of two shapes are taken for statements about provability itself and are undecidable wherever they
occur: the negation of a predicate whose name contains `Provable`, and a universally quantified
implication. Everything else is not propositional.
-/

namespace Proofbook

abbrev Assignment := String → Option Bool

def Connective.truth : Connective → Truth → Truth → Truth
  | .and => .and
  | .or => .or
  | .implies => .implies
  | .iff | .not => .iff

namespace Formula

def mentions (word : List Char) : List Char → Bool
  | [] => word.isEmpty
  | c :: rest => word.isPrefixOf (c :: rest) || mentions word rest

def isUndecidable : Formula → Bool
  | connective .not _ (predicate name _) => mentions "Provable".toList name.toList
  | quantified .universal _ _ (connective .implies _ _) => true
  | _ => false

/--
The value of a formula. An assignment takes precedence over the truth value that a proposition
carries itself; a proposition with neither is undecidable.
-/
def evaluate (assignment : Assignment) : Formula → Except Error Truth
  | proposition name truth =>
    match (assignment name).or truth with
    | some value => .ok (.ofBool value)
    | none => .ok .undecidable
  | connective .not left right =>
    if isUndecidable (connective .not left right) then .ok .undecidable
    else (evaluate assignment right).map Truth.not
  | connective kind (some left) right => do
    let a ← evaluate assignment left
    let b ← evaluate assignment right
    return kind.truth a b
  | other => if other.isUndecidable then .ok .undecidable else .error (.notPropositional other)

end Formula

end Proofbook
