import Proofbook.Proofs.Registry.Untimed
import Proofbook.Proofs.Session.Atomicity

namespace Proofbook

def Answer.untimed : Answer → Answer
  | foundTheorem found => foundTheorem (found.map Theorem.untimed)
  | theoremList theorems => theoremList (theorems.map Theorem.untimed)
  | proofSummary proof => proofSummary proof.untimed
  | summary registry => summary registry.untimed
  | other => other

def untimedOutcome (outcome : Except Error Answer) : Except Error Answer :=
  outcome.map Answer.untimed

def timedOut : Except Error Answer → Bool
  | .ok _ => false
  | .error fault => fault.isTimeout

namespace Registry

open Proofbook.Action

theorem forgets_answer {α : Type} {x y : Action α} {ofResult : α → Answer}
    (h : Forgets id x y) (timeless : ∀ a, (ofResult a).untimed = ofResult a) :
    Forgets Answer.untimed (do return ofResult (← x)) (do return ofResult (← y)) :=
  h.bind fun a => by
    have plain : Forgets Answer.untimed (pure (ofResult a)) (pure (ofResult a).untimed) :=
      forgets_pure _
    rwa [timeless] at plain

theorem forgets_perform (config : Config) (time : Nat) (request : Request) :
    Forgets Answer.untimed (perform config time request)
      (perform { config with timeLimit := none } 0 request) := by
  cases request with
  | defineTheorem name statement hypotheses goal =>
      refine (forgets_defineTheorem _).bind fun _ => ?_
      exact (forgets_ask fun r => findTheorem_untimed r name).bind fun t => forgets_pure _
  | addAxiom name statement =>
      refine (forgets_addAxiom _).bind fun _ => ?_
      exact forgets_answer (forgets_ask_same fun _ => rfl) fun _ => rfl
  | verifyTheorem name => exact forgets_answer (forgets_verifyTheorem name) fun _ => rfl
  | validateAxiom name => exact forgets_answer (forgets_validateAxiom name) fun _ => rfl
  | addStep goal step => exact forgets_answer (forgets_addStep goal step) fun _ => rfl
  | verifyProof goal steps =>
      exact forgets_answer (forgets_verifyProof config.timeLimit time goal _ _) fun _ => rfl
  | reset confirmed => exact (forgets_reset confirmed).bind fun _ => forgets_pure _
  | derive rule first second => exact (forgets_countDerivation _).bind fun _ => forgets_pure _
  | checkConsistency => exact forgets_answer forgets_checkConsistency fun _ => rfl
  | getTheorem name =>
      refine forgets_get_bind fun r => ?_
      have found : r.untimed.theorems.get? name = (r.theorems.get? name).map Theorem.untimed :=
        Store.get?_map ..
      rw [found]
      exact forgets_pure _
  | listTheorems => exact forgets_get_bind fun r => forgets_pure _
  | listAxioms => exact forgets_get_bind fun r => forgets_pure _
  | summarize => exact forgets_get_bind fun r => forgets_pure _
  | describeProof goal =>
      exact (forgets_ask fun r => findProof_untimed r goal).bind fun _ => forgets_pure _
  | exportProof goal format =>
      refine (forgets_ask fun r => completeProof_untimed r goal).bind fun proof => ?_
      exact forgets_answer (forgets_lift_same (proof.exportAs format)) fun _ => rfl
  | tabulate formula => exact forgets_answer (forgets_lift_same _) fun _ => rfl
  | entails | equivalent | substitute | checkUndecidable => exact forgets_pure _

theorem forgets_answer_call (config : Config) (time : Nat) (call : Operation)
    (args : List Json) :
    Forgets Answer.untimed (answer config time call args)
      (answer { config with timeLimit := none } 0 call args) :=
  (forgets_lift_same _).bind fun request => forgets_perform config time request

end Registry

namespace Session

/-- The session without a time limit, and without times. -/
def untimed (s : Session) : Session :=
  ⟨{ s.config with timeLimit := none }, s.registry.map Registry.untimed⟩

theorem perform_untimed {s : Session} {time : Nat} {invocation : Invocation}
    (inTime : timedOut (s.perform time invocation).2 = false) :
    s.untimed.perform 0 invocation =
      ((s.perform time invocation).1.untimed, untimedOutcome (s.perform time invocation).2) := by
  obtain ⟨config, registry⟩ := s
  unfold perform at inTime ⊢
  cases known : Operation.ofName? invocation.call with
  | none => rfl
  | some call =>
      rw [known] at inTime
      cases registry with
      | none => rfl
      | some r =>
          have same := Registry.forgets_answer_call config time call invocation.args r
          simp only [withRegistry, untimed, Option.map_some] at inTime ⊢
          cases ran : Registry.answer config time call invocation.args r with
          | ok a r' =>
              rw [ran] at same
              simp only [same]
              rfl
          | error fault r' =>
              rw [ran] at same inTime
              rcases same with late | same
              · rw [timedOut, late] at inTime
                cases inTime
              · simp only [same]
                rfl

theorem run_untimed {s : Session} {calls : List (Nat × Invocation)}
    (inTime : ∀ outcome ∈ (s.run calls).2, timedOut outcome = false) :
    s.untimed.run (calls.map fun call => (0, call.2)) =
      ((s.run calls).1.untimed, (s.run calls).2.map untimedOutcome) := by
  induction calls generalizing s with
  | nil => rfl
  | cons call rest ih =>
      obtain ⟨time, invocation⟩ := call
      rw [run_cons] at inTime
      have first := perform_untimed (inTime _ (List.mem_cons_self ..))
      have others := ih fun outcome mem => inTime outcome (List.mem_cons_of_mem _ mem)
      rw [List.map_cons, run_cons, run_cons, first, others]
      rfl

/--
The calls that succeeded in a run, made again at other readings of the clock and in time, end in
the same session and give the same answers, times apart.
-/
theorem run_again {s : Session} {calls again : List (Nat × Invocation)}
    (same : again.map Prod.snd = (s.succeeding calls).map Prod.snd)
    (inTime : ∀ outcome ∈ (s.run again).2, timedOut outcome = false) :
    (s.run again).1.untimed = (s.run calls).1.untimed ∧
      (s.run again).2.map untimedOutcome =
        ((s.run calls).2.filter Except.isOk).map untimedOutcome := by
  have succeeded : ∀ outcome ∈ (s.run (s.succeeding calls)).2, timedOut outcome = false := by
    rw [run_succeeding]
    intro outcome mem
    cases outcome with
    | ok a => rfl
    | error fault => simp [Except.isOk, Except.toBool] at mem
  have timeless : again.map (fun call => (0, call.2)) =
      (s.succeeding calls).map (fun call => (0, call.2)) := by
    simpa [Function.comp_def] using congrArg (List.map fun invocation => (0, invocation)) same
  have both := run_untimed inTime
  rw [timeless, run_untimed succeeded, run_succeeding] at both
  exact ⟨(congrArg Prod.fst both).symm, (congrArg Prod.snd both).symm⟩

end Session

end Proofbook
