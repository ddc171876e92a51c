import Proofbook.CommandLine.Basic
import Proofbook.Proofs.Session.Untimed

namespace Proofbook.CommandLine

variable {m : Type → Type} [Monad m]

abbrev TimedScript (script : List Invocation) : Type :=
  { calls : List (Nat × Invocation) // calls.map Prod.snd = script }

def readings (env : Environment m) (s : Session) : (script : List Invocation) →
    m (TimedScript script)
  | [] => return ⟨[], rfl⟩
  | invocation :: rest => do
    let time ← env.time s invocation
    let ⟨calls, same⟩ ← readings env (s.perform time invocation).1 rest
    return ⟨(time, invocation) :: calls, by rw [List.map_cons, same]⟩

theorem runScript_eq [LawfulMonad m] (env : Environment m) (s : Session)
    (script : List Invocation) :
    runScript env s script =
      (fun calls => ((s.run calls.val).1, script.zip (s.run calls.val).2)) <$>
        readings env s script := by
  induction script generalizing s with
  | nil => simp [runScript, readings]
  | cons invocation rest ih =>
      rw [runScript, readings, map_bind]
      congr 1
      funext time
      simp only [ih, map_bind, bind_map_left, map_pure, Session.run_cons, List.zip_cons_cons]

namespace Options

def finalRegistry (options : Options) (calls : List (Nat × Invocation)) : Registry :=
  (options.session.run calls).1.registry.getD .fresh

def results (options : Options) (calls : List (Nat × Invocation)) :
    List (Invocation × Except Error Answer) :=
  (calls.map Prod.snd).zip (options.session.run calls).2

def reportOn (options : Options) (calls : List (Nat × Invocation)) : Report :=
  report options.format (options.finalRegistry calls) (options.results calls)

end Options

theorem runOptions_eq [LawfulMonad m] (env : Environment m) (options : Options) :
    runOptions env options = (do
      match ← readText env options.path with
      | .error fault => return unreadable options.path fault
      | .ok content =>
        match parseScript content with
        | none => return malformed
        | some script => return options.reportOn (← readings env options.session script).val) := by
  unfold runOptions
  congr 1
  funext content
  cases content with
  | error fault => rfl
  | ok content =>
      dsimp only
      cases parseScript content with
      | none => rfl
      | some script =>
          simp only [runScript_eq, bind_map_left, Options.reportOn, Options.results,
            Options.finalRegistry]
          congr 1
          funext calls
          rw [calls.property]

end Proofbook.CommandLine
