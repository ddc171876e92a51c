import Proofbook.Binary64.Shortest
import Proofbook.Formula.Basic
import Proofbook.Text.Quoted

/-!
# Logical notation

The text in which a formula is shown to a reader: `∀x ∈ D. P(x)`, `(A → ¬B)`, `(x ≤ 1)`.
Binary connectives, equations and inequalities stand in brackets, quantifiers and negations do
not. A question mark stands for the missing left operand of a connective.
-/

namespace Proofbook.Formula

mutual

def display : Formula → String
  | quantified kind name none body => kind.symbol ++ name ++ ". " ++ body.display
  | quantified kind name (some domain) body =>
    kind.symbol ++ name ++ " ∈ " ++ domain.display ++ ". " ++ body.display
  | connective .not _ right => "¬" ++ right.display
  | connective kind (some left) right =>
    "(" ++ left.display ++ " " ++ kind.symbol ++ " " ++ right.display ++ ")"
  | connective kind none right => "(" ++ kind.symbol ++ " ? " ++ right.display ++ ")"
  | predicate name [] => name
  | predicate name (arg :: args) => name ++ "(" ++ displayList (arg :: args) ++ ")"
  | function name args => name ++ "(" ++ displayList args ++ ")"
  | var name _ => name
  | proposition name _ => name
  | equation left right => "(" ++ left.display ++ " = " ++ right.display ++ ")"
  | inequality kind left right =>
    "(" ++ left.display ++ " " ++ kind.symbol ++ " " ++ right.display ++ ")"
  | premise => "[premise]"
  | conclusion => "[conclusion]"
  | inference rule [] => "[" ++ rule.name ++ "]"
  | inference rule (first :: rest) =>
    "[" ++ rule.name ++ "(" ++ displayList (first :: rest) ++ ")]"
  | number value => value.toText
  | text value => Text.quoted value

def displayList : List Formula → String
  | [] => ""
  | [formula] => formula.display
  | formula :: formulas => formula.display ++ ", " ++ displayList formulas

end

end Proofbook.Formula
