import Proofbook.Proofs.Session.Reading
import Proofbook.Proofs.Session.Working

namespace Proofbook

theorem Invocation.reads {invocation : Invocation} {request : Request}
    (requested : invocation.request? = some request) :
    ∃ call : Operation, invocation.call = call.name ∧
      Request.Reading invocation.args call request := by
  obtain ⟨call, known, read⟩ := Option.bind_eq_some_iff.mp requested
  refine ⟨call, Operation.ofName?_eq_some.mp known, ?_⟩
  cases outcome : Request.read call invocation.args with
  | error fault => rw [outcome] at read; cases read
  | ok found =>
      rw [outcome] at read
      obtain rfl := Option.some.inj read
      exact (Request.read_ok outcome).2

namespace Turn

variable {turn : Turn} {name : String} {request : Request} {answer : Answer}

def Performed (turn : Turn) : Prop :=
  ∀ answer, turn.outcome = .ok answer → ∃ config request r r',
    turn.success? = some (request, answer) ∧
      Registry.perform config turn.time request r = .ok answer r'

theorem success?_eq_some :
    turn.success? = some (request, answer) ↔
      turn.invocation.request? = some request ∧ turn.outcome = .ok answer := by
  unfold success?
  split <;> simp_all

theorem success_of_appended {step : Step} (appended : turn.appended? name = some step) :
    ∃ answer, turn.success? = some (.addStep name step, answer) := by
  unfold appended? at appended
  split at appended
  · split at appended
    · rename_i success named
      cases appended
      exact ⟨_, named ▸ success⟩
    · cases appended
  · cases appended

theorem success_of_checked {steps : List Step} {valid : Bool}
    (checked : turn.checked? name = some (steps, valid)) :
    turn.success? = some (.verifyProof name steps, .verdict valid) := by
  unfold checked? at checked
  split at checked
  · split at checked
    · rename_i success named
      cases checked
      rw [success, named]
    · cases checked
  · cases checked

structure Reports (turn : Turn) (name : String) : Prop where
  adding : (turn.appended? name).isSome = true ↔ turn.invocation.call = "proof_step" ∧
    Request.argument turn.invocation.args 0 = .string name ∧ turn.outcome.isOk = true
  added : ∀ step, turn.appended? name = some step →
    Formula.decode (Request.argument turn.invocation.args 1) = .ok step.formula ∧
      Request.Justifies (Request.argument turn.invocation.args 2) step.justification
  checking : (turn.checked? name).isSome = true ↔ turn.invocation.call = "proof_verify" ∧
    Request.argument turn.invocation.args 0 = .string name ∧ turn.outcome.isOk = true
  checked : ∀ steps valid, turn.checked? name = some (steps, valid) →
    turn.outcome = .ok (.verdict valid) ∧ valid = checkSteps (steps.map Step.formula) ∧
      steps ≠ [] ∧ ∃ items, Request.argument turn.invocation.args 1 = .array items ∧
        List.Forall₂ Request.ReadsStep items steps

theorem reading_of_success (success : turn.success? = some (request, answer)) :
    ∃ call : Operation, turn.invocation.call = call.name ∧
      Request.Reading turn.invocation.args call request ∧ turn.outcome = .ok answer := by
  obtain ⟨requested, outcome⟩ := success?_eq_some.mp success
  obtain ⟨call, named, reading⟩ := Invocation.reads requested
  exact ⟨call, named, reading, outcome⟩

theorem Performed.reading (performed : turn.Performed) (call : Operation)
    (named : turn.invocation.call = call.name) (ok : turn.outcome.isOk = true) :
    ∃ config request answer r r', turn.success? = some (request, answer) ∧
      Request.Reading turn.invocation.args call request ∧
      Registry.perform config turn.time request r = .ok answer r' := by
  cases outcome : turn.outcome with
  | error fault =>
      rw [outcome] at ok
      cases ok
  | ok answer =>
      obtain ⟨config, request, r, r', success, ran⟩ := performed answer outcome
      obtain ⟨other, named', reading, -⟩ := reading_of_success success
      have same := Operation.ofName?_eq_some.mpr named'
      rw [Operation.ofName?_eq_some.mpr named] at same
      obtain rfl := Option.some.inj same
      exact ⟨config, request, answer, r, r', success, reading, ran⟩

theorem Performed.performs (performed : turn.Performed)
    (success : turn.success? = some (request, answer)) :
    ∃ config r r', Performs config turn.time r request answer r' := by
  obtain ⟨-, outcome⟩ := success?_eq_some.mp success
  obtain ⟨config, asked, r, r', success', ran⟩ := performed answer outcome
  obtain ⟨rfl, -⟩ := Prod.mk.inj (Option.some.inj (success'.symm.trans success))
  exact ⟨config, r, r', performs_of_ok ran⟩

theorem Performed.checked (performed : turn.Performed) {steps : List Step} {valid : Bool}
    (checked : turn.checked? name = some (steps, valid)) :
    steps ≠ [] ∧ valid = checkSteps (steps.map Step.formula) := by
  obtain ⟨config, r, r', performs⟩ := performed.performs (success_of_checked checked)
  cases performs with
  | verifyProof _ some verdict => exact ⟨some, verdict⟩

theorem Performed.reports (performed : turn.Performed) (name : String) : turn.Reports name where
  adding := by
    constructor
    · intro appended
      obtain ⟨step, appended⟩ := Option.isSome_iff_exists.mp appended
      obtain ⟨answer, success⟩ := success_of_appended appended
      obtain ⟨call, named, reading, outcome⟩ := reading_of_success success
      rw [named, outcome]
      cases reading with
      | addStep goal => exact ⟨rfl, goal, rfl⟩
    · rintro ⟨named, goal, ok⟩
      obtain ⟨_, _, _, _, _, success, reading, -⟩ := performed.reading .proofStep named ok
      cases reading with
      | addStep goal' =>
          obtain rfl := Json.string.inj (goal'.symm.trans goal)
          simp [appended?, success]
      | derive ruled => cases ruled
  added := by
    intro step appended
    obtain ⟨answer, success⟩ := success_of_appended appended
    obtain ⟨call, -, reading, -⟩ := reading_of_success success
    cases reading with
    | addStep _ formula justified => exact ⟨formula, justified⟩
  checking := by
    constructor
    · intro checked
      obtain ⟨⟨steps, valid⟩, checked⟩ := Option.isSome_iff_exists.mp checked
      obtain ⟨call, named, reading, outcome⟩ := reading_of_success (success_of_checked checked)
      rw [named, outcome]
      cases reading with
      | verifyProof goal => exact ⟨rfl, goal, rfl⟩
    · rintro ⟨named, goal, ok⟩
      obtain ⟨_, _, _, _, _, success, reading, ran⟩ := performed.reading .proofVerify named ok
      cases reading with
      | verifyProof goal' =>
          obtain rfl := Json.string.inj (goal'.symm.trans goal)
          cases performs_of_ok ran with
          | verifyProof => simp [checked?, success]
      | derive ruled => cases ruled
  checked := by
    intro steps valid checked
    obtain ⟨some, verdict⟩ := performed.checked checked
    obtain ⟨call, -, reading, outcome⟩ := reading_of_success (success_of_checked checked)
    cases reading with
    | verifyProof _ listed each => exact ⟨outcome, verdict, some, _, listed, each⟩

end Turn

theorem Session.performed_perform (s : Session) (time : Nat) (invocation : Invocation) :
    (Turn.mk time invocation (s.perform time invocation).2).Performed := by
  intro answer outcome
  obtain ⟨r, r', request, -, requested, performed, -⟩ := perform_ok outcome
  exact ⟨s.config, request, r, r', Turn.success?_eq_some.mpr ⟨requested, outcome⟩, performed⟩

end Proofbook
