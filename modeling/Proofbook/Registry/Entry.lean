import Proofbook.Proof.Basic
import Proofbook.Registry.Store

namespace Proofbook

structure Theorem where
  name : String
  statement : Formula
  hypotheses : List Formula
  conclusion : Option Formula
  /-- The proof with which the theorem was last proven. -/
  proof : Option Proof := none
  isProven : Bool := false

structure Axiom where
  name : String
  statement : Formula
  isConsistent : Bool := true

namespace Theorem

def isWellFormed (t : Theorem) : Bool :=
  t.statement.wellFormed && t.hypotheses.all Formula.wellFormed &&
    t.conclusion.all Formula.wellFormed

def isEntailed (t : Theorem) : Bool := t.conclusion.any (Formula.entails t.hypotheses)

def prove (t : Theorem) (proof : Proof) : Theorem :=
  { t with proof := some proof, isProven := true }

def markProven (t : Theorem) : Theorem := { t with isProven := true }

end Theorem

namespace Axiom

open Formula

/-- `∀P. (P ∨ ¬P)` -/
def excludedMiddle : Axiom where
  name := "law_of_excluded_middle"
  statement := forAll "P" (disjunction (atom "P") (negation (atom "P")))

/-- `∀P. ¬(P ∧ ¬P)` -/
def nonContradiction : Axiom where
  name := "law_of_non_contradiction"
  statement := forAll "P" (negation (conjunction (atom "P") (negation (atom "P"))))

def seeds : List Axiom := [excludedMiddle, nonContradiction]

def accuse (a : Axiom) : Axiom := { a with isConsistent := false }

def absolve (a : Axiom) : Axiom := { a with isConsistent := true }

end Axiom

end Proofbook
