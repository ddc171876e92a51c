import Proofbook.Binary64.Basic
import Proofbook.Formula.Rule

/-!
# Formulas

One type holds statements, terms and the markers of a proof: quantified statements with an
optional domain, connectives, predicates and functions with arguments, variables, propositions,
equations and inequalities, numbers and texts, and the markers for a premise, a conclusion and an
inference.

A connective has two operands, a negation one, its right operand. The type also admits a
negation with a left operand and a binary connective without one. Reading never produces the
former, and the latter is not well-formed.
-/

namespace Proofbook

inductive Quantifier where
  | universal
  | existential
deriving DecidableEq

inductive Connective where
  | and
  | or
  | implies
  | iff
  | not
deriving DecidableEq

inductive Comparison where
  | less
  | atMost
  | greater
  | atLeast
deriving DecidableEq

inductive Formula where
  | quantified (kind : Quantifier) (name : String) (domain : Option Formula) (body : Formula)
  | connective (kind : Connective) (left : Option Formula) (right : Formula)
  | predicate (name : String) (args : List Formula)
  | var (name : String) (bound : Bool)
  | proposition (name : String) (truth : Option Bool)
  | equation (left right : Formula)
  | inequality (kind : Comparison) (left right : Formula)
  | function (name : String) (args : List Formula)
  | premise
  | conclusion
  | inference (rule : Rule) (premises : List Formula)
  | number (value : Binary64)
  | text (value : String)

/-! ## Names -/

namespace Quantifier

def all : List Quantifier := [universal, existential]

def name : Quantifier → String
  | universal => "universal"
  | existential => "existential"

def ofName? (name : String) : Option Quantifier := all.find? (·.name == name)

def symbol : Quantifier → String
  | universal => "∀"
  | existential => "∃"

end Quantifier

namespace Connective

def all : List Connective := [and, or, implies, iff, not]

def name : Connective → String
  | and => "and"
  | or => "or"
  | implies => "implies"
  | iff => "iff"
  | not => "not"

def ofName? (name : String) : Option Connective := all.find? (·.name == name)

def symbol : Connective → String
  | and => "∧"
  | or => "∨"
  | implies => "→"
  | iff => "↔"
  | not => "¬"

end Connective

namespace Comparison

def all : List Comparison := [less, atMost, greater, atLeast]

def name : Comparison → String
  | less => "lt"
  | atMost => "le"
  | greater => "gt"
  | atLeast => "ge"

def ofName? (name : String) : Option Comparison := all.find? (·.name == name)

def symbol : Comparison → String
  | less => "<"
  | atMost => "≤"
  | greater => ">"
  | atLeast => "≥"

end Comparison

namespace Formula

inductive Kind where
  | quantifier
  | connective
  | predicate
  | var
  | proposition
  | equation
  | inequality
  | function
  | premise
  | conclusion
  | inference
  | number
  | text
deriving DecidableEq

def Kind.all : List Kind :=
  [quantifier, connective, predicate, var, proposition, equation, inequality, function,
    premise, conclusion, inference, number, text]

def Kind.name : Kind → String
  | quantifier => "quantifier"
  | connective => "connective"
  | predicate => "predicate"
  | var => "variable"
  | proposition => "proposition"
  | equation => "equation"
  | inequality => "inequality"
  | function => "math_function"
  | premise => "premise"
  | conclusion => "conclusion"
  | inference => "inference"
  | number => "number"
  | text => "string"

def Kind.ofName? (name : String) : Option Kind := Kind.all.find? (·.name == name)

def kind : Formula → Kind
  | quantified .. => .quantifier
  | connective .. => .connective
  | predicate .. => .predicate
  | var .. => .var
  | proposition .. => .proposition
  | equation .. => .equation
  | inequality .. => .inequality
  | function .. => .function
  | premise => .premise
  | conclusion => .conclusion
  | inference .. => .inference
  | number .. => .number
  | text .. => .text

/-! ## Parts -/

def children : Formula → List Formula
  | quantified _ _ domain body => domain.toList ++ [body]
  | connective _ left right => left.toList ++ [right]
  | predicate _ args | function _ args => args
  | equation left right | inequality _ left right => [left, right]
  | inference _ premises => premises
  | var .. | proposition .. | premise | conclusion | number .. | text .. => []

def isMarker : Formula → Bool
  | premise | conclusion | inference .. => true
  | _ => false

/-! ## Statements built from others -/

def conjunction (left right : Formula) : Formula := connective .and (some left) right

def disjunction (left right : Formula) : Formula := connective .or (some left) right

def implication (left right : Formula) : Formula := connective .implies (some left) right

def biconditional (left right : Formula) : Formula := connective .iff (some left) right

def negation (operand : Formula) : Formula := connective .not none operand

def forAll (name : String) (body : Formula) : Formula := quantified .universal name none body

def forSome (name : String) (body : Formula) : Formula := quantified .existential name none body

def atom (name : String) : Formula := proposition name none

end Formula

end Proofbook
