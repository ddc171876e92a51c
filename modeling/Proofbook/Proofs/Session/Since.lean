import Proofbook.Proofs.Session.History
import Mathlib.Data.List.DropRight

namespace Proofbook

namespace Turn

def sinceReset (history : List Turn) : List Turn := history.rtakeWhile fun turn => !turn.isReset

theorem sinceReset_snoc (history : List Turn) (turn : Turn) :
    sinceReset (history ++ [turn]) = if turn.isReset then [] else sinceReset history ++ [turn] := by
  rw [sinceReset, List.rtakeWhile_concat]
  cases turn.isReset <;> rfl

end Turn

namespace Session

theorem run_snoc (s : Session) (calls : List (Nat × Invocation)) (time : Nat)
    (invocation : Invocation) :
    (s.run (calls ++ [(time, invocation)])).1 = ((s.run calls).1.perform time invocation).1 :=
  run_append s calls [(time, invocation)]

theorem history_snoc (s : Session) (calls : List (Nat × Invocation)) (time : Nat)
    (invocation : Invocation) :
    s.history (calls ++ [(time, invocation)]) =
      s.history calls ++ [⟨time, invocation, ((s.run calls).1.perform time invocation).2⟩] :=
  history_append s calls [(time, invocation)]

/-- Invariants of registries and the turns that have led to them since the last reset. -/
theorem since_run (config : Config) (holds : List Turn → Registry → Prop)
    (start : holds [] .fresh)
    (failed : ∀ {since turn fault r}, turn.outcome = .error fault →
      holds since r → holds (since ++ [turn]) r)
    (succeeded : ∀ {since turn request answer r r'}, turn.success? = some (request, answer) →
      (∀ confirmed, request ≠ .reset confirmed) →
      Registry.perform config turn.time request r = .ok answer r' →
      holds since r → holds (since ++ [turn]) r')
    (calls : List (Nat × Invocation)) :
    ∃ r, ((init { config }).run calls).1.registry = some r ∧
      ((init { config }).run calls).1.config = config ∧
      holds (Turn.sinceReset ((init { config }).history calls)) r := by
  -- The turns since a reset grow at their end, so calls are added behind.
  induction calls using List.reverseRecOn with
  | nil => exact ⟨.fresh, rfl, rfl, start⟩
  | append_singleton calls call ih =>
      obtain ⟨time, invocation⟩ := call
      obtain ⟨r, before, configured, held⟩ := ih
      rw [run_snoc, history_snoc, Turn.sinceReset_snoc]
      generalize ((init { config }).run calls).1 = s at before configured ⊢
      cases outcome : (s.perform time invocation).2 with
      | error fault =>
          have nothing : (Turn.mk time invocation (.error fault)).success? = none :=
            Turn.success?_eq_none_of_error rfl
          rw [perform_failed outcome, Turn.isReset, nothing]
          exact ⟨r, before, configured, failed rfl held⟩
      | ok answer =>
          obtain ⟨r₀, r', request, before', requested, performed, after⟩ := perform_ok outcome
          obtain rfl := Option.some.inj (before.symm.trans before')
          have success : (Turn.mk time invocation (.ok answer)).success? =
              some (request, answer) := success?_of_ok requested
          rw [configured] at performed
          rw [after]
          refine ⟨r', rfl, configured, ?_⟩
          cases anew : (Turn.mk time invocation (.ok answer)).isReset with
          | true =>
              obtain ⟨confirmed, rfl⟩ := (Turn.isReset_of_success success).mp anew
              cases performs_of_ok performed with
              | reset => exact start
          | false =>
              refine succeeded success ?_ performed held
              rintro confirmed rfl
              rw [(Turn.isReset_of_success success).mpr ⟨confirmed, rfl⟩] at anew
              cases anew

end Session

end Proofbook
