import Proofbook.CommandLine.Basic
import Proofbook.Proofs.Session.Overflow

namespace Proofbook.CommandLine

variable {m : Type → Type} [Monad m] [LawfulMonad m] {α β : Type}

theorem run_bind_of_run {x : OptionT m α} {y : m α} (ran : x.run = some <$> y)
    (f : α → OptionT m β) : (x >>= f).run = y >>= fun a => (f a).run := by
  rw [OptionT.run_bind, Option.elimM, ran, bind_map_left]
  rfl

theorem run_bind_of_ended {γ : Type} {x : OptionT m α} {y : m γ}
    (ended : x.run = (fun _ => none) <$> y) (f : α → OptionT m β) :
    (x >>= f).run = (fun _ => none) <$> y := by
  rw [OptionT.run_bind, Option.elimM, ended, bind_map_left, map_eq_pure_bind]
  rfl

variable (env : Environment m)

theorem run_time_ending (s : Session) (invocation : Invocation) :
    (env.ending.time s invocation).run =
      if s.overflows invocation then pure none else some <$> env.time s invocation := by
  unfold Environment.ending
  dsimp only
  split
  · rfl
  · exact (OptionT.run_lift _).trans (map_eq_pure_bind ..).symm

/-- The calls before the first one that has no result. -/
def settled (s : Session) (script : List Invocation) : List Invocation :=
  script.takeWhile fun invocation => !s.overflows invocation

theorem run_runScript_ending (s : Session) (script : List Invocation) :
    (runScript env.ending s script).run =
      (if script.any s.overflows then fun _ => none else some) <$>
        runScript env s (settled s script) := by
  induction script generalizing s with
  | nil => simp [runScript, settled]
  | cons invocation rest ih =>
      have timed := run_time_ending env s invocation
      rw [runScript]
      cases overflows : s.overflows invocation with
      | true =>
          rw [overflows, if_pos rfl, ← map_pure (fun _ : PUnit => none) ⟨⟩] at timed
          rw [run_bind_of_ended timed]
          simp [settled, overflows, runScript]
      | false =>
          rw [overflows, if_neg Bool.false_ne_true] at timed
          have settling : settled s (invocation :: rest) = invocation :: settled s rest := by
            simp [settled, overflows]
          have ending : (invocation :: rest).any s.overflows = rest.any s.overflows := by
            rw [List.any_cons, overflows, Bool.false_or]
          rw [run_bind_of_run timed, settling, ending, runScript, map_bind]
          congr 1
          funext time
          have later := ih (s.perform time invocation).1
          rw [settled, Session.overflows_perform, ← settled] at later
          rw [OptionT.run_bind, Option.elimM, later]
          cases rest.any s.overflows <;> simp

end Proofbook.CommandLine
