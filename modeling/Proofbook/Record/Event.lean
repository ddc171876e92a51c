import Proofbook.Binary64.Shortest
import Proofbook.Formula.Basic
import Proofbook.Text.Numeral

namespace Proofbook

inductive Measure where
  | integer (value : Int)
  | decimal (value : Binary64)
  | text (value : String)

def Measure.display : Measure → String
  | integer value => Text.signedNumeral value
  | decimal value => value.toText
  | text value => value

inductive Event where
  | opening (goal : String)
  | premise (index : Nat) (justification : Formula)
  | step (index : Nat) (statement justification : Formula)
  | inference (index : Nat) (rule : Rule) (premises : List Formula) (derived : Option Formula)
  | conclusion (index : Nat) (justification : Formula)
  | closing (goal : String)
  | statistic (key : String) (value : Measure)

end Proofbook
