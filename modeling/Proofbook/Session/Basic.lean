import Proofbook.Formula.Substitution
import Proofbook.Record.Markdown
import Proofbook.Record.Tstp
import Proofbook.Registry.Action
import Proofbook.Session.Answer
import Proofbook.Session.Request

/-!
# Sessions

A session holds a registry once it has been initialized, and answers calls by name. The registry
that a call leaves behind is kept, whether the call succeeds or fails. How long a proof check
takes is not known to the session: the caller hands in a reading of the clock with every call.
-/

namespace Proofbook

structure Config where
  tableLimit : Nat := 12
  /-- The longest time of a proof check, in nanoseconds. -/
  timeLimit : Option Nat := none

/-! ## Requests -/

def Proof.exportAs (proof : Proof) (format : String) : Except Error String :=
  if format = "tstp" then .ok (Tstp.listing proof.events)
  else if format = "markdown" then .ok (Markdown.listing proof.events)
  else .error (.unknownFormat format)

def Request.overflows (config : Config) : Request → Bool
  | .tabulate formula => Truth.overflows formula config.tableLimit
  | _ => false

namespace Registry

open Proofbook.Action

def perform (config : Config) (time : Nat) : Request → Action Answer
  | .defineTheorem name statement hypotheses goal => do
    defineTheorem { name, statement, hypotheses, conclusion := goal }
    return .foundTheorem (some (← ask (·.findTheorem name)))
  | .getTheorem name => return .foundTheorem ((← get).theorems.get? name)
  | .listTheorems => return .theoremList (← get).theorems.items
  | .verifyTheorem name => return .verdict (← verifyTheorem name)
  | .addAxiom name statement => do
    addAxiom { name, statement }
    return .addedAxiom (← ask (·.findAxiom name))
  | .listAxioms => return .axiomList (← get).axioms.items
  | .validateAxiom name => return .verdict (← validateAxiom name)
  | .addStep goal step => return .verdict (← addStep goal step)
  | .verifyProof goal steps => do
    return .verdict (← verifyProof config.timeLimit time goal (steps.map Step.formula)
      (steps.map Step.justification))
  | .describeProof goal => return .proofSummary (← ask (·.findProof goal))
  | .exportProof goal format => do
    let proof ← ask (·.completeProof goal)
    return .listing (← lift (proof.exportAs format))
  | .entails premises goal => return .verdict (Formula.entails premises goal)
  | .equivalent a b => return .verdict (Formula.equivalentOption a b)
  | .derive rule first second => do
    let derived := Formula.derive rule [first, second]
    countDerivation derived
    return .formula derived
  | .substitute formula name replacement =>
    return .formula (some (Formula.substitute name replacement formula))
  | .tabulate formula => return .table (← lift (Truth.table formula config.tableLimit))
  | .checkUndecidable formula => return .undecidable formula.isUndecidable
  | .summarize => return .summary (← get)
  | .checkConsistency => return .conflicts (← checkConsistency)
  | .reset confirmed => do
    reset confirmed
    return .verdict true

def answer (config : Config) (time : Nat) (call : Operation) (args : List Json) :
    Action Answer := do
  perform config time (← lift (Request.read call args))

end Registry

/-! ## Calls -/

structure Invocation where
  call : String
  args : List Json

structure Session where
  config : Config
  registry : Option Registry := none

namespace Session

def init (s : Session) : Session := { s with registry := some (s.registry.getD .fresh) }

def cleanup (s : Session) : Session := { s with registry := none }

def isInitialized (s : Session) : Bool := s.registry.isSome

def require (s : Session) : Except Error Registry :=
  match s.registry with
  | some r => .ok r
  | none => .error .notInitialized

def withRegistry {α : Type} (s : Session) (action : Action α) : Session × Except Error α :=
  match s.registry with
  | none => (s, .error .notInitialized)
  | some r =>
    match action r with
    | .ok a r => ({ s with registry := some r }, .ok a)
    | .error fault r => ({ s with registry := some r }, .error fault)

def perform (s : Session) (time : Nat) (invocation : Invocation) :
    Session × Except Error Answer :=
  match Operation.ofName? invocation.call with
  | none => (s, .error (.unknownCall invocation.call))
  | some call => s.withRegistry (Registry.answer s.config time call invocation.args)

/--
Whether a call has no result at all, not even a fault. The program ends at such a call, so whoever
performs calls has to look first.
-/
def overflows (s : Session) (invocation : Invocation) : Bool :=
  s.isInitialized && (Operation.ofName? invocation.call).any fun call =>
    (Request.read call invocation.args).toOption.any (Request.overflows s.config)

def run (s : Session) : List (Nat × Invocation) → Session × List (Except Error Answer)
  | [] => (s, [])
  | (time, invocation) :: rest =>
    let (s, outcome) := s.perform time invocation
    let (s, outcomes) := s.run rest
    (s, outcome :: outcomes)

end Session

def outcomeJson : Except Error Answer → Json
  | .ok answer => answer.toJson
  | .error fault => fault.toJson

end Proofbook
