namespace Proofbook

inductive Rule where
  | modusPonens
  | modusTollens
  | universalInstantiation
  | existentialGeneralization
  | assumption
  | postulate
deriving DecidableEq

namespace Rule

def all : List Rule :=
  [modusPonens, modusTollens, universalInstantiation, existentialGeneralization, assumption,
    postulate]

def name : Rule → String
  | modusPonens => "modus_ponens"
  | modusTollens => "modus_tollens"
  | universalInstantiation => "universal_instantiation"
  | existentialGeneralization => "existential_generalization"
  | assumption => "assumption"
  | postulate => "axiom"

def ofName? (name : String) : Option Rule := all.find? (·.name == name)

def isSound : Rule → Bool
  | modusPonens | modusTollens | universalInstantiation | postulate => true
  | existentialGeneralization | assumption => false

end Rule

end Proofbook
