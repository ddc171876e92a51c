import Proofbook.Proofs.Guarded.Basic
import Proofbook.Session.Answer

/-!
An answer is made of objects to which members are assigned one after the other: its type to a
formula, and before that whatever operand it may lack. An assignment needs an object to assign to.
-/

namespace Proofbook

open Checked

namespace Guarded

def assign (target : Json) (name : String) (value : Json) : Checked Json :=
  match target with
  | .object members => .ok (.object (Collected.insertMember name value members))
  | other => Checked.trap (.member name other.kind)

/-! ## Formulas -/

def tagged (kind : Formula.Kind) (fields : Json) : Checked Json :=
  assign fields "type" (.string kind.name)

mutual

def encode : Formula → Checked Json
  | .quantified kind name none body => do
    tagged .quantifier (.object [("body", ← encode body), ("quantifier_type", .string kind.name),
      ("variable", .string name)])
  | .quantified kind name (some domain) body => do
    let fields := .object [("body", ← encode body), ("quantifier_type", .string kind.name),
      ("variable", .string name)]
    tagged .quantifier (← assign fields "domain" (← encode domain))
  | .connective kind none right => do
    tagged .connective
      (.object [("connective_type", .string kind.name), ("right", ← encode right)])
  | .connective kind (some left) right => do
    let fields := .object [("connective_type", .string kind.name), ("right", ← encode right)]
    tagged .connective (← assign fields "left" (← encode left))
  | .predicate name args => do
    tagged .predicate (.object [("args", .array (← encodeList args)), ("name", .string name)])
  | .var name bound => tagged .var (.object [("is_bound", .bool bound), ("name", .string name)])
  | .proposition name none => tagged .proposition (.object [("name", .string name)])
  | .proposition name (some truth) => do
    tagged .proposition (← assign (.object [("name", .string name)]) "truth" (.bool truth))
  | .equation left right => do
    tagged .equation (.object [("left", ← encode left), ("right", ← encode right)])
  | .inequality kind left right => do
    tagged .inequality (.object [("inequality_type", .string kind.name), ("left", ← encode left),
      ("right", ← encode right)])
  | .function name args => do
    tagged .function (.object [("args", .array (← encodeList args)), ("name", .string name)])
  | .premise => tagged .premise (.object [])
  | .conclusion => tagged .conclusion (.object [])
  | .inference rule premises => do
    tagged .inference
      (.object [("premises", .array (← encodeList premises)), ("rule", .string rule.name)])
  | .number value => tagged .number (.object [("value", .ofBinary64 value)])
  | .text value => tagged .text (.object [("value", .string value)])

def encodeList : List Formula → Checked (List Json)
  | [] => .ok []
  | formula :: formulas => return (← encode formula) :: (← encodeList formulas)

end

mutual

theorem encode_eq : (f : Formula) → encode f = .ok f.encode
  | .quantified kind name none body => by
    rw [encode, encode_eq body]
    rfl
  | .quantified kind name (some domain) body => by
    rw [encode, encode_eq body, encode_eq domain]
    rfl
  | .connective kind none right => by
    rw [encode, encode_eq right]
    rfl
  | .connective kind (some left) right => by
    rw [encode, encode_eq right, encode_eq left]
    rfl
  | .predicate name args | .function name args | .inference _ args => by
    rw [encode, encodeList_eq args]
    rfl
  | .equation left right | .inequality _ left right => by
    rw [encode, encode_eq left, encode_eq right]
    rfl
  | .var .. | .proposition _ none | .proposition _ (some _) | .premise | .conclusion | .number _
  | .text _ => rfl

theorem encodeList_eq : (fs : List Formula) → encodeList fs = .ok (Formula.encodeList fs)
  | [] => rfl
  | f :: fs => by
    rw [encodeList, encode_eq f, encodeList_eq fs]
    rfl

end

/-! ## Entries of the registry -/

def ofOption {α : Type} (toJson : α → Checked Json) : Option α → Checked Json
  | none => .ok .null
  | some a => toJson a

def proofJson (proof : Proof) : Checked Json := do
  let justifications ← encodeList proof.justifications
  let steps ← encodeList proof.steps
  return .object [("is_complete", .bool proof.isComplete), ("is_valid", .bool proof.isValid),
    ("justifications", .array justifications), ("state", .string proof.state.name),
    ("steps", .array steps), ("theorem", .string proof.goal),
    ("verification_time", .ofBinary64 (Statistics.seconds proof.time))]

def theoremJson (t : Theorem) : Checked Json := do
  let hypotheses ← encodeList t.hypotheses
  return .object [("conclusion", ← ofOption encode t.conclusion), ("hypotheses", .array hypotheses),
    ("name", .string t.name), ("proof", ← ofOption proofJson t.proof), ("proven", .bool t.isProven),
    ("statement", ← encode t.statement)]

def axiomJson (a : Axiom) : Checked Json := do
  return .object [("consistent", .bool a.isConsistent), ("name", .string a.name),
    ("statement", ← encode a.statement)]

def averageTime (s : Statistics) : Checked Nat :=
  if s.verifications ≠ 0 then quotient s.time s.verifications.toNat else .ok 0

def summaryJson (r : Registry) : Checked Json := do
  let average ← averageTime r.statistics
  let stats := .object [("average_verification_time", .ofBinary64 (Statistics.seconds average)),
    ("axiom_count", .ofNat r.axioms.items.length), ("is_consistent", .bool r.isConsistent),
    ("proof_count", .ofNat r.proofs.items.length),
    ("theorem_count", .ofNat r.theorems.items.length),
    ("total_verifications", .ofNat r.statistics.verifications.toNat)]
  assign stats "statistics" (Collected.object r.statistics.events)

def answerJson : Answer → Checked Json
  | .foundTheorem found => ofOption theoremJson found
  | .theoremList theorems => return .array (← theorems.mapM theoremJson)
  | .addedAxiom added => axiomJson added
  | .axiomList axioms => return .array (← axioms.mapM axiomJson)
  | .formula found => ofOption encode found
  | .summary r => summaryJson r
  -- The other answers are made without an assignment and without a division.
  | answer => .ok answer.toJson

/-! ## No assignment and no division is out of place -/

theorem ofOption_eq {α : Type} {toJson : α → Checked Json} {form : α → Json}
    (each : ∀ a, toJson a = .ok (form a)) (found : Option α) :
    ofOption toJson found = .ok (.ofOption form found) := by
  cases found with
  | none => rfl
  | some a => exact each a

theorem proofJson_eq (proof : Proof) : proofJson proof = .ok proof.toJson := by
  rw [proofJson, encodeList_eq, encodeList_eq]
  rfl

theorem theoremJson_eq (t : Theorem) : theoremJson t = .ok t.toJson := by
  rw [theoremJson, encodeList_eq, ofOption_eq encode_eq, ofOption_eq proofJson_eq, encode_eq]
  rfl

theorem axiomJson_eq (a : Axiom) : axiomJson a = .ok a.toJson := by
  rw [axiomJson, encode_eq]
  rfl

theorem averageTime_eq (s : Statistics) : averageTime s = .ok s.averageTime := by
  unfold averageTime Statistics.averageTime
  by_cases counted : s.verifications ≠ 0
  · have divisor : s.verifications.toNat ≠ 0 := fun none => counted (UInt32.toNat_inj.mp none)
    rw [if_pos counted, dif_pos counted]
    exact if_neg divisor
  · rw [if_neg counted, dif_neg counted]

theorem summaryJson_eq (r : Registry) : summaryJson r = .ok r.summaryJson := by
  rw [summaryJson, averageTime_eq]
  rfl

theorem answerJson_eq (answer : Answer) : answerJson answer = .ok answer.toJson := by
  cases answer with
  | foundTheorem found => exact ofOption_eq theoremJson_eq found
  | theoremList theorems =>
      rw [answerJson, mapM_eq_ok_map fun t _ => theoremJson_eq t]
      rfl
  | addedAxiom added => exact axiomJson_eq added
  | axiomList axioms =>
      rw [answerJson, mapM_eq_ok_map fun a _ => axiomJson_eq a]
      rfl
  | formula found => exact ofOption_eq encode_eq found
  | summary r => exact summaryJson_eq r
  | verdict | proofSummary | listing | table | undecidable | conflicts => rfl

end Guarded

end Proofbook
