import Proofbook.Proofs.CommandLine.Ending
import Proofbook.Proofs.Guarded.Action
import Proofbook.Proofs.Guarded.Answer
import Proofbook.Proofs.Guarded.Request
import Proofbook.Proofs.Guarded.Table
import Proofbook.Proofs.Session.Reachable

namespace Proofbook

namespace Guarded

open Checked

def perform (config : Config) (time : Nat) : Request → Guarded Answer
  | .defineTheorem name statement hypotheses goal => do
    ofAction (Registry.defineTheorem { name, statement, hypotheses, conclusion := goal })
    return .foundTheorem (some (← ask (findTheorem · name)))
  | .getTheorem name => return .foundTheorem (← ask (·.theorems.fetch name))
  | .verifyTheorem name => return .verdict (← verifyTheorem name)
  | .addAxiom name statement => do
    ofAction (Registry.addAxiom { name, statement })
    return .addedAxiom (← ask (findAxiom · name))
  | .validateAxiom name => return .verdict (← validateAxiom name)
  | .addStep goal step => return .verdict (← addStep goal step)
  | .verifyProof goal steps => do
    return .verdict (← verifyProof config.timeLimit time goal (steps.map Step.formula)
      (steps.map Step.justification))
  | .describeProof goal => return .proofSummary (← ask (findProof · goal))
  | .exportProof goal format => do
    let proof ← ask (completeProof · goal)
    return .listing (← lift (ofExcept (proof.exportAs format)))
  | .tabulate formula => return .table (← lift (table formula config.tableLimit))
  | .checkConsistency => return .conflicts (← checkConsistency)
  -- The other requests access nothing by name or position.
  | request => ofAction (Registry.perform config time request)

def answer (config : Config) (time : Nat) (call : Operation) (args : List Json) :
    Guarded Answer := do
  perform config time (← lift (read call args))

def reply (config : Config) (time : Nat) (call : Operation) (args : List Json) :
    Guarded Json := do
  lift (answerJson (← answer config time call args))

/-! ## Requests -/

variable {r : Registry} {config : Config} {time : Nat}

theorem follows_perform (sound : r.Sound) (axiomsSound : r.AxiomsSound) {request : Request}
    (settled : request.overflows config = false) :
    Follows (perform config time request) (Registry.perform config time request) r := by
  cases request with
  | defineTheorem name statement hypotheses goal =>
      refine (follows_ofAction _).bind fun _ mid defined => ?_
      obtain ⟨free, -, rfl⟩ := Registry.defineTheorem_ok.mp defined
      have coherent := sound.theorems.insert free
      exact (follows_ask (follows_findTheorem coherent name)).bind fun _ _ _ => follows_pure _
  | getTheorem name => exact .ask_bind (sound.theorems.fetch_eq name) rfl
  | verifyTheorem name =>
      exact (follows_verifyTheorem sound.theorems name).bind fun _ _ _ => follows_pure _
  | addAxiom name statement =>
      refine (follows_ofAction _).bind fun _ mid added => ?_
      obtain ⟨free, -, rfl⟩ := Registry.addAxiom_ok.mp added
      have coherent : (r.axioms.insert name { name, statement }).Coherent Axiom.name :=
        axiomsSound.coherent.insert free
      exact (follows_ask (follows_findAxiom coherent name)).bind fun _ _ _ => follows_pure _
  | validateAxiom name =>
      exact (follows_validateAxiom axiomsSound.coherent name).bind fun _ _ _ => follows_pure _
  | addStep goal step => exact (follows_addStep sound goal step).bind fun _ _ _ => follows_pure _
  | verifyProof goal steps =>
      have paired : (steps.map Step.formula).length = (steps.map Step.justification).length := by
        rw [List.length_map, List.length_map]
      exact (follows_verifyProof sound _ time goal paired).bind fun _ _ _ => follows_pure _
  | describeProof goal =>
      exact (follows_ask (follows_findProof sound.proofs goal)).bind fun _ _ _ => follows_pure _
  | exportProof goal format =>
      refine (follows_ask (follows_completeProof sound.proofs goal)).bind fun proof _ _ => ?_
      exact (follows_lift (follows_ofExcept _)).bind fun _ _ _ => follows_pure _
  | tabulate formula =>
      exact (follows_lift (follows_table settled)).bind fun _ _ _ => follows_pure _
  | checkConsistency => exact follows_checkConsistency.bind fun _ _ _ => follows_pure _
  | listTheorems | listAxioms | entails | equivalent | derive | substitute | checkUndecidable
  | summarize | reset => exact follows_ofAction _

theorem follows_answer (sound : r.Sound) (axiomsSound : r.AxiomsSound) {call : Operation}
    {args : List Json}
    (settled : ∀ request, Request.read call args = .ok request → request.overflows config = false) :
    Follows (answer config time call args) (Registry.answer config time call args) r := by
  refine (follows_lift (follows_read call args)).bind fun request mid lifted => ?_
  obtain ⟨read, rfl⟩ := Action.lift_ok.mp lifted
  exact follows_perform sound axiomsSound (settled request read)

theorem follows_reply (sound : r.Sound) (axiomsSound : r.AxiomsSound) {call : Operation}
    {args : List Json}
    (settled : ∀ request, Request.read call args = .ok request → request.overflows config = false) :
    Follows (reply config time call args)
      (Registry.answer config time call args >>= fun answer => pure answer.toJson) r := by
  refine (follows_answer sound axiomsSound settled).bind fun answer _ _ => ?_
  rw [answerJson_eq]
  exact follows_pure _

variable {formula : Formula}

theorem perform_of_overflows (overflows : Truth.overflows formula config.tableLimit = true) :
    perform config time (.tabulate formula) r =
      .error (.trap (.capacity (2 ^ (Truth.columns formula).length))) r := by
  rw [perform, table_of_overflows overflows]
  rfl

theorem reply_of_overflows {args : List Json}
    (read : Request.read .truthTable args = .ok (.tabulate formula))
    (overflows : Truth.overflows formula config.tableLimit = true) :
    reply config time .truthTable args r =
      .error (.trap (.capacity (2 ^ (Truth.columns formula).length))) r := by
  have guarded : Guarded.read .truthTable args = .ok (.tabulate formula) := by
    rw [follows_read .truthTable args, read]
    rfl
  have answered : answer config time .truthTable args r =
      perform config time (.tabulate formula) r := by
    rw [answer, guarded]
    rfl
  rw [reply]
  simp only [Bind.bind, EStateM.bind, answered, perform_of_overflows overflows]

end Guarded

/-! ## Calls -/

namespace Session

def guardedCall (s : Session) (time : Nat) (invocation : Invocation) :
    Except Trap (Session × Json) :=
  match Operation.ofName? invocation.call with
  | none => .ok (s, (Error.unknownCall invocation.call).toJson)
  | some call =>
    match s.registry with
    | none => .ok (s, Error.notInitialized.toJson)
    | some r =>
      match Guarded.reply s.config time call invocation.args r with
      | .ok json r => .ok ({ s with registry := some r }, json)
      | .error (.fault fault) r => .ok ({ s with registry := some r }, fault.toJson)
      | .error (.trap trap) _ => .error trap

variable {s : Session} {invocation : Invocation}

theorem guardedCall_of_settled (reachable : s.Reachable) (time : Nat)
    (settled : s.overflows invocation = false) :
    s.guardedCall time invocation =
      .ok ((s.perform time invocation).1, outcomeJson (s.perform time invocation).2) := by
  have sound := reachable.sound
  have axiomsSound := reachable.axiomsSound
  obtain ⟨config, registry⟩ := s
  unfold guardedCall perform
  cases known : Operation.ofName? invocation.call with
  | none => rfl
  | some call =>
      cases registry with
      | none => rfl
      | some r =>
          have requests (request : Request)
              (read : Request.read call invocation.args = .ok request) :
              request.overflows config = false := by
            simpa [overflows, isInitialized, known, read, Except.toOption] using settled
          have follows : Guarded.reply config time call invocation.args r = Guarded.guardResult _ :=
            Guarded.follows_reply (sound r rfl) (axiomsSound r rfl) requests
          simp only [withRegistry, follows, Bind.bind, EStateM.bind]
          cases Registry.answer config time call invocation.args r <;> rfl

theorem guardedCall_of_tooMany {count : Nat} (time : Nat)
    (tooMany : s.TabulatesTooMany invocation count) :
    s.guardedCall time invocation = .error (.capacity (2 ^ count)) := by
  obtain ⟨broad, fits, admitted, formula, tabulates, rfl⟩ := tooMany
  obtain ⟨known, read⟩ := tabulates.read
  obtain ⟨r, here⟩ := Option.isSome_iff_exists.mp tabulates.1
  have overflows := Truth.overflows_iff.mpr ⟨broad, fits, admitted⟩
  simp only [guardedCall, known, here, Guarded.reply_of_overflows read overflows]

/--
Nothing but the reservation of the rows of a table traps a call. The program looks for such calls:
it performs those before the first of them, and then ends without a result.
-/
theorem guardedCall_outcome (reachable : s.Reachable) (time : Nat) (invocation : Invocation) :
    (∀ count, s.TabulatesTooMany invocation count →
      s.guardedCall time invocation = .error (.capacity (2 ^ count))) ∧
    ((¬∃ count, s.TabulatesTooMany invocation count) →
      s.guardedCall time invocation =
        .ok ((s.perform time invocation).1, outcomeJson (s.perform time invocation).2)) ∧
    (s.overflows invocation = true ↔ ∃ count, s.TabulatesTooMany invocation count) ∧
    ∀ {m : Type → Type} [Monad m] [LawfulMonad m] (env : CommandLine.Environment m)
      (script : List Invocation),
      (CommandLine.runScript env.ending s script).run =
        (if script.any s.overflows then fun _ => none else some) <$>
          CommandLine.runScript env s (CommandLine.settled s script) := by
  refine ⟨fun count => guardedCall_of_tooMany time, fun settled => ?_, overflows_iff,
    fun env => CommandLine.run_runScript_ending env s⟩
  rw [← overflows_iff, Bool.not_eq_true] at settled
  exact guardedCall_of_settled reachable time settled

theorem guardedCall_outcome_unchecked :
    let s := ((init { config := {} }).run
      [(0, ⟨"theorem_define", [.string "t", (Formula.atom "P").encode]⟩),
        (0, ⟨"proof_step", [.string "t", Formula.premise.encode]⟩)]).1
    s.Reachable ∧
      s.guardedCall 0 ⟨"proof_stats", [.string "t"]⟩ =
        .ok (s, (Proof.push (.empty "t") ⟨.premise, Request.assumed⟩).summaryJson) ∧
      s.guardedCall 0 ⟨"system_stats", []⟩ =
        .ok (s, outcomeJson (s.perform 0 ⟨"system_stats", []⟩).2) := by
  intro s
  have reachable : s.Reachable := (Reachable.init (.new {})).run _
  obtain ⟨-, ofProof, proofLooks, -⟩ :=
    guardedCall_outcome reachable 0 ⟨"proof_stats", [.string "t"]⟩
  obtain ⟨-, ofSystem, systemLooks, -⟩ := guardedCall_outcome reachable 0 ⟨"system_stats", []⟩
  exact ⟨reachable, ofProof (mt proofLooks.mpr nofun), ofSystem (mt systemLooks.mpr nofun)⟩

/-- A predicate of distinct propositions, which has no truth value. -/
def broad (count : Nat) : Formula :=
  .predicate "P" ((List.range count).map fun i => .atom (Text.numeral i))

/-- The rows are reserved before the first of them tells that the formula has no truth value. -/
theorem guardedCall_broad :
    let s := init { config := { tableLimit := 64 } }
    let invocation : Invocation := ⟨"truth_table", [(broad 58).encode]⟩
    s.Reachable ∧ s.guardedCall 0 invocation = .error (.capacity (2 ^ 58)) ∧
      (s.perform 0 invocation).2 = .error (.notPropositional (broad 58)) := by
  intro s invocation
  have columns : (Truth.columns (broad 58)).length = 58 := by decide +kernel
  have tabulates : s.Tabulates invocation (broad 58) := ⟨rfl, rfl, _, rfl, rfl⟩
  have tooMany : s.TabulatesTooMany invocation 58 :=
    ⟨by decide, by decide, by decide, broad 58, tabulates, columns⟩
  refine ⟨.init (.new _), guardedCall_of_tooMany 0 tooMany, ?_⟩
  have small : ¬Truth.IsTooLarge (broad 58) 64 := by
    rw [Truth.IsTooLarge, columns]
    decide
  have faulty : Truth.table (broad 58) 64 = .error (.notPropositional (broad 58)) :=
    Truth.table_of_reported (fun _ => rfl) small
  obtain ⟨known, read⟩ := tabulates.read
  have performed : Registry.perform { tableLimit := 64 } 0 (.tabulate (broad 58)) .fresh =
      .error (.notPropositional (broad 58)) .fresh :=
    Action.bind_error.mpr (.inl (Action.lift_error.mpr ⟨faulty, rfl⟩))
  rw [perform_of_read known read]
  simp only [s, init, withRegistry, Option.getD_none, performed]

end Session

end Proofbook
