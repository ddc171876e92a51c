import Proofbook.Proofs.CommandLine.Script

namespace Proofbook.CommandLine

def untimedResult (result : Invocation × Except Error Answer) : Invocation × Except Error Answer :=
  (result.1, untimedOutcome result.2)

theorem results_succeeding (s : Session) (calls : List (Nat × Invocation)) :
    ((s.succeeding calls).map Prod.snd).zip (s.run (s.succeeding calls)).2 =
      ((calls.map Prod.snd).zip (s.run calls).2).filter fun result => result.2.isOk := by
  induction calls generalizing s with
  | nil => rfl
  | cons call rest ih =>
      obtain ⟨time, invocation⟩ := call
      cases outcome : (s.perform time invocation).2 with
      | ok a =>
          rw [Session.succeeding_cons_ok outcome, Session.run_cons, Session.run_cons, outcome]
          simp only [List.map_cons, List.zip_cons_cons]
          rw [ih]
          rfl
      | error fault =>
          rw [Session.succeeding_cons_failed outcome, Session.run_cons, ih, outcome,
            Session.perform_failed outcome]
          rfl

theorem statusLine_untimed (t : Theorem) : statusLine t.untimed = statusLine t := rfl

theorem statusLines_of_untimed {r r' : Registry} (same : r.untimed = r'.untimed) :
    r.theorems.items.map statusLine = r'.theorems.items.map statusLine := by
  have items : r.theorems.items.map Theorem.untimed = r'.theorems.items.map Theorem.untimed :=
    congrArg (fun r : Registry => r.theorems.items) same
  simpa [Function.comp_def, statusLine_untimed] using congrArg (List.map statusLine) items

theorem allProven_of_untimed {r r' : Registry} (same : r.untimed = r'.untimed) :
    r.theorems.items.all Theorem.isProven = r'.theorems.items.all Theorem.isProven := by
  have items : r.theorems.items.map Theorem.untimed = r'.theorems.items.map Theorem.untimed :=
    congrArg (fun r : Registry => r.theorems.items) same
  simpa [List.all_map, Function.comp_def, Theorem.untimed] using
    congrArg (fun theorems => theorems.all Theorem.isProven) items

namespace Options

theorem finalRegistry_untimed {options : Options} {calls calls' : List (Nat × Invocation)}
    (same : (options.session.run calls).1.untimed = (options.session.run calls').1.untimed) :
    (options.finalRegistry calls).untimed = (options.finalRegistry calls').untimed := by
  have registries := congrArg Session.registry same
  simp only [Session.untimed] at registries
  unfold finalRegistry
  cases ended : (options.session.run calls).1.registry with
  | none =>
      rw [ended, Option.map_none, eq_comm, Option.map_eq_none_iff] at registries
      rw [registries]
  | some r =>
      rw [ended, Option.map_some, eq_comm, Option.map_eq_some_iff] at registries
      obtain ⟨r', ended', equal⟩ := registries
      rw [ended']
      exact equal.symm

end Options

theorem map_untimedResult (invocations : List Invocation) (outcomes : List (Except Error Answer)) :
    (invocations.zip outcomes).map untimedResult =
      invocations.zip (outcomes.map untimedOutcome) :=
  (List.zip_map_right ..).symm

/--
A script can do without the calls that fail in it: its report loses their results and nothing else.
At other readings of the clock only times differ, as long as no check is abandoned.
-/
theorem failures_leave_no_trace :
    (∀ (s : Session) (time : Nat) (invocation : Invocation) (fault : Error),
      (s.perform time invocation).2 = .error fault → (s.perform time invocation).1 = s) ∧
    (∀ (options : Options) (calls : List (Nat × Invocation)),
      options.reportOn (options.session.succeeding calls) =
        report options.format (options.finalRegistry calls)
          ((options.results calls).filter fun result => result.2.isOk) ∧
      ∀ again : List (Nat × Invocation),
        again.map Prod.snd = (options.session.succeeding calls).map Prod.snd →
        (∀ outcome ∈ (options.session.run again).2, timedOut outcome = false) →
        (options.results again).map untimedResult =
          ((options.results calls).filter fun result => result.2.isOk).map untimedResult ∧
        (options.finalRegistry again).theorems.items.map statusLine =
          (options.finalRegistry calls).theorems.items.map statusLine ∧
        (options.reportOn again).exitCode = (options.reportOn calls).exitCode) ∧
    ∀ {m : Type → Type} [Monad m] [LawfulMonad m] (env : Environment m) (options : Options),
      runOptions env options = (do
        match ← readText env options.path with
        | .error fault => return unreadable options.path fault
        | .ok content =>
          match parseScript content with
          | none => return malformed
          | some script =>
            return options.reportOn (← readings env options.session script).val) := by
  refine ⟨fun s time invocation fault => Session.perform_failed, fun options calls => ⟨?_, ?_⟩,
    runOptions_eq⟩
  · rw [Options.reportOn, Options.results, results_succeeding, Options.finalRegistry,
      Session.run_succeeding]
    rfl
  · intro again same inTime
    obtain ⟨ended, answers⟩ := Session.run_again same inTime
    have registries := Options.finalRegistry_untimed ended
    refine ⟨?_, statusLines_of_untimed registries, ?_⟩
    · unfold Options.results
      rw [← results_succeeding, map_untimedResult, map_untimedResult, same, answers,
        Session.run_succeeding]
    · unfold Options.reportOn report
      rw [allProven_of_untimed registries]

end Proofbook.CommandLine
