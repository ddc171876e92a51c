import Proofbook.Text.Numeral

namespace Proofbook

inductive Operation where
  | theoremDefine
  | theoremGet
  | theoremList
  | theoremVerify
  | axiomAdd
  | axiomList
  | axiomValidate
  | proofStep
  | proofVerify
  | proofStats
  | proofExport
  | entails
  | equivalent
  | modusPonens
  | modusTollens
  | universalInstantiation
  | substitute
  | truthTable
  | checkUndecidable
  | systemStats
  | systemConsistency
  | systemReset
deriving DecidableEq

structure Arity where
  least : Nat
  most : Nat

namespace Arity

def admits (a : Arity) (count : Nat) : Bool := a.least ≤ count && count ≤ a.most

def phrase (a : Arity) : String :=
  if a.most = 0 then "no"
  else if a.least = a.most then Text.numeral a.most
  else if a.least + 1 = a.most then Text.numeral a.least ++ " or " ++ Text.numeral a.most
  else Text.numeral a.least ++ " to " ++ Text.numeral a.most

end Arity

namespace Operation

def all : List Operation :=
  [theoremDefine, theoremGet, theoremList, theoremVerify, axiomAdd, axiomList, axiomValidate,
    proofStep, proofVerify, proofStats, proofExport, entails, equivalent, modusPonens,
    modusTollens, universalInstantiation, substitute, truthTable, checkUndecidable, systemStats,
    systemConsistency, systemReset]

def name : Operation → String
  | theoremDefine => "theorem_define"
  | theoremGet => "theorem_get"
  | theoremList => "theorem_list"
  | theoremVerify => "theorem_verify"
  | axiomAdd => "axiom_add"
  | axiomList => "axiom_list"
  | axiomValidate => "axiom_validate"
  | proofStep => "proof_step"
  | proofVerify => "proof_verify"
  | proofStats => "proof_stats"
  | proofExport => "proof_export"
  | entails => "entails"
  | equivalent => "equivalent"
  | modusPonens => "modus_ponens"
  | modusTollens => "modus_tollens"
  | universalInstantiation => "universal_instantiation"
  | substitute => "substitute"
  | truthTable => "truth_table"
  | checkUndecidable => "check_undecidable"
  | systemStats => "system_stats"
  | systemConsistency => "system_consistency"
  | systemReset => "system_reset"

def ofName? (name : String) : Option Operation := all.find? (·.name == name)

def arity : Operation → Arity
  | theoremDefine => ⟨2, 4⟩
  | proofStep => ⟨2, 3⟩
  | proofExport => ⟨1, 2⟩
  | systemReset => ⟨0, 1⟩
  | substitute => ⟨3, 3⟩
  | axiomAdd | proofVerify | entails | equivalent | modusPonens | modusTollens
  | universalInstantiation => ⟨2, 2⟩
  | theoremGet | theoremVerify | axiomValidate | proofStats | truthTable
  | checkUndecidable => ⟨1, 1⟩
  | theoremList | axiomList | systemStats | systemConsistency => ⟨0, 0⟩

end Operation

end Proofbook
