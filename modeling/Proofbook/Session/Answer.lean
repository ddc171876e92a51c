import Proofbook.Formula.Encode
import Proofbook.Record.Collected
import Proofbook.Registry.Basic
import Proofbook.Truth.Table

namespace Proofbook

/-! ## Entries of the registry in JSON -/

def Proof.toJson (proof : Proof) : Json :=
  .object [("is_complete", .bool proof.isComplete), ("is_valid", .bool proof.isValid),
    ("justifications", .array (Formula.encodeList proof.justifications)),
    ("state", .string proof.state.name),
    ("steps", .array (Formula.encodeList proof.steps)),
    ("theorem", .string proof.goal),
    ("verification_time", .ofBinary64 (Statistics.seconds proof.time))]

def Proof.summaryJson (proof : Proof) : Json :=
  .object [("is_complete", .bool proof.isComplete), ("is_valid", .bool proof.isValid),
    ("state", .string proof.state.name), ("step_count", .ofNat proof.steps.length),
    ("theorem", .string proof.goal),
    ("verification_time", .ofBinary64 (Statistics.seconds proof.time))]

def Theorem.toJson (t : Theorem) : Json :=
  .object [("conclusion", .ofOption Formula.encode t.conclusion),
    ("hypotheses", .array (Formula.encodeList t.hypotheses)), ("name", .string t.name),
    ("proof", .ofOption Proof.toJson t.proof), ("proven", .bool t.isProven),
    ("statement", t.statement.encode)]

def Axiom.toJson (a : Axiom) : Json :=
  .object [("consistent", .bool a.isConsistent), ("name", .string a.name),
    ("statement", a.statement.encode)]

def Registry.summaryJson (r : Registry) : Json :=
  .object [
    ("average_verification_time", .ofBinary64 (Statistics.seconds r.statistics.averageTime)),
    ("axiom_count", .ofNat r.axioms.items.length), ("is_consistent", .bool r.isConsistent),
    ("proof_count", .ofNat r.proofs.items.length),
    ("statistics", Collected.object r.statistics.events),
    ("theorem_count", .ofNat r.theorems.items.length),
    ("total_verifications", .ofNat r.statistics.verifications.toNat)]

/-! ## Answers in JSON -/

inductive Answer where
  | foundTheorem (found : Option Theorem)
  | theoremList (theorems : List Theorem)
  | addedAxiom (added : Axiom)
  | axiomList (axioms : List Axiom)
  | verdict (value : Bool)
  | proofSummary (proof : Proof)
  | listing (content : String)
  | formula (found : Option Formula)
  | table (content : Truth.Table)
  | undecidable (value : Bool)
  | summary (registry : Registry)
  | conflicts (pairs : List (String × String))

def Answer.toJson : Answer → Json
  | foundTheorem found => .ofOption Theorem.toJson found
  | theoremList theorems => .array (theorems.map Theorem.toJson)
  | addedAxiom added => added.toJson
  | axiomList axioms => .array (axioms.map Axiom.toJson)
  | verdict value => .bool value
  | proofSummary proof => proof.summaryJson
  | listing content => .string content
  | formula found => .ofOption Formula.encode found
  | table content => content.toJson
  | undecidable true => .object [("type", .string "undecidable")]
  | undecidable false => .null
  | summary registry => registry.summaryJson
  | conflicts pairs =>
    .object [
      ("conflicts", .array (pairs.map fun (a, b) => .array [.string a, .string b])),
      ("consistent", .bool pairs.isEmpty)]

end Proofbook
