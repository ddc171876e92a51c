import Proofbook.Proofs.Registry.Operation
import Proofbook.Session.Basic

namespace Proofbook

open Proofbook.Action

namespace Registry

theorem atomic_perform (config : Config) (time : Nat) (request : Request) :
    Atomic (perform config time request) := by
  cases request with
  | defineTheorem name statement hypotheses goal =>
      refine (atomic_defineTheorem _).bind_ask ?_ fun _ => total_pure _
      intro r u r' defined
      obtain ⟨-, -, rfl⟩ := defineTheorem_ok.mp defined
      exact ⟨_, findTheorem_ok.mpr (Store.get?_insert_self ..)⟩
  | addAxiom name statement =>
      refine (atomic_addAxiom _).bind_ask ?_ fun _ => total_pure _
      intro r u r' added
      obtain ⟨-, -, rfl⟩ := addAxiom_ok.mp added
      exact ⟨_, findAxiom_ok.mpr (Store.get?_insert_self ..)⟩
  | verifyTheorem name => exact (atomic_verifyTheorem name).bind_total fun _ => total_pure _
  | validateAxiom name => exact (atomic_validateAxiom name).bind_total fun _ => total_pure _
  | addStep goal step => exact (atomic_addStep goal step).bind_total fun _ => total_pure _
  | verifyProof goal steps =>
      exact (atomic_verifyProof _ _ _ _ _).bind_total fun _ => total_pure _
  | reset confirmed => exact (atomic_reset confirmed).bind_total fun _ => total_pure _
  | derive rule first second =>
      exact ((total_countDerivation _).bind fun _ => total_pure _).atomic
  | checkConsistency => exact (total_checkConsistency.bind fun _ => total_pure _).atomic
  | getTheorem | listTheorems | listAxioms | summarize =>
      exact (total_get.bind fun _ => total_pure _).atomic
  | describeProof goal => exact atomic_ask_bind _ fun _ => (total_pure _).atomic
  | exportProof goal format =>
      exact atomic_ask_bind _ fun _ => atomic_lift_bind _ fun _ => (total_pure _).atomic
  | tabulate formula => exact atomic_lift_bind _ fun _ => (total_pure _).atomic
  | entails | equivalent | substitute | checkUndecidable => exact (total_pure _).atomic

theorem atomic_answer (config : Config) (time : Nat) (call : Operation) (args : List Json) :
    Atomic (answer config time call args) :=
  atomic_lift_bind _ fun request => atomic_perform config time request

end Registry

namespace Session

variable {s : Session} {time : Nat} {invocation : Invocation}

theorem withRegistry_failed {α : Type} {action : Action α} (atomic : Atomic action)
    {fault : Error} (failed : (s.withRegistry action).2 = .error fault) :
    (s.withRegistry action).1 = s := by
  obtain ⟨config, registry⟩ := s
  cases registry with
  | none => rfl
  | some r =>
      unfold withRegistry at failed ⊢
      cases ran : action r with
      | ok a r' => simp [ran] at failed
      | error other r' => simp [ran, atomic r other r' ran]

theorem perform_failed {fault : Error} (failed : (s.perform time invocation).2 = .error fault) :
    (s.perform time invocation).1 = s := by
  unfold perform at failed ⊢
  cases known : Operation.ofName? invocation.call with
  | none => rfl
  | some call =>
      rw [known] at failed
      exact withRegistry_failed (Registry.atomic_answer _ _ _ _) failed

/-! ## Runs without their failing calls -/

@[simp]
theorem run_nil (s : Session) : s.run [] = (s, []) := rfl

theorem run_cons (s : Session) (time : Nat) (invocation : Invocation)
    (rest : List (Nat × Invocation)) :
    s.run ((time, invocation) :: rest) =
      (((s.perform time invocation).1.run rest).1,
        (s.perform time invocation).2 :: ((s.perform time invocation).1.run rest).2) := rfl

def succeeding (s : Session) (calls : List (Nat × Invocation)) : List (Nat × Invocation) :=
  ((calls.zip (s.run calls).2).filter (·.2.isOk)).map Prod.fst

theorem succeeding_cons_ok {a : Answer} (ok : (s.perform time invocation).2 = .ok a)
    (rest : List (Nat × Invocation)) :
    s.succeeding ((time, invocation) :: rest) =
      (time, invocation) :: (s.perform time invocation).1.succeeding rest := by
  simp [succeeding, run_cons, ok, Except.isOk, Except.toBool]

theorem succeeding_cons_failed {fault : Error}
    (failed : (s.perform time invocation).2 = .error fault) (rest : List (Nat × Invocation)) :
    s.succeeding ((time, invocation) :: rest) = s.succeeding rest := by
  simp [succeeding, run_cons, perform_failed failed, failed, Except.isOk, Except.toBool]

theorem run_succeeding (s : Session) (calls : List (Nat × Invocation)) :
    s.run (s.succeeding calls) = ((s.run calls).1, (s.run calls).2.filter Except.isOk) := by
  induction calls generalizing s with
  | nil => rfl
  | cons call rest ih =>
      obtain ⟨time, invocation⟩ := call
      cases outcome : (s.perform time invocation).2 with
      | ok a =>
          rw [succeeding_cons_ok outcome, run_cons, run_cons, ih, outcome]
          rfl
      | error fault =>
          rw [succeeding_cons_failed outcome, run_cons, ih, outcome, perform_failed outcome]
          rfl

end Session

end Proofbook
