import Proofbook.CommandLine.Report
import Proofbook.CommandLine.Script

namespace Proofbook.CommandLine

structure Environment (m : Type → Type) where
  load : String → m (Except ReadError ByteArray)
  /-- The nanoseconds that a call is found to take. -/
  time : Session → Invocation → m Nat

variable {m : Type → Type} [Monad m]

def readText (env : Environment m) (path : String) : m (Except ReadError String) := do
  match ← env.load path with
  | .error fault => return .error fault
  | .ok bytes =>
    match String.fromUTF8? bytes with
    | some content => return .ok content
    | none => return .error .notUtf8

def runScript (env : Environment m) (s : Session) :
    List Invocation → m (Session × List (Invocation × Except Error Answer))
  | [] => return (s, [])
  | invocation :: rest => do
    let time ← env.time s invocation
    let (s, outcome) := s.perform time invocation
    let (s, results) ← runScript env s rest
    return (s, (invocation, outcome) :: results)

def Options.session (options : Options) : Session :=
  Session.init { config := { tableLimit := options.tableLimit, timeLimit := options.timeLimit } }

def runOptions (env : Environment m) (options : Options) : m Report := do
  match ← readText env options.path with
  | .error fault => return unreadable options.path fault
  | .ok content =>
    match parseScript content with
    | none => return malformed
    | some script =>
      let (s, results) ← runScript env options.session script
      return report options.format (s.registry.getD .fresh) results

def run (env : Environment m) (arguments : List String) : m Report :=
  match Options.ofArguments arguments with
  | .ok options => runOptions env options
  | .error stop => return stop.report

/-! ## Calls without a result -/

def Environment.ending (env : Environment m) : Environment (OptionT m) where
  load path := OptionT.lift (env.load path)
  time s invocation :=
    if s.overflows invocation then OptionT.fail else OptionT.lift (env.time s invocation)

/-- All results are printed after the last call, so nothing has been printed. -/
def aborted : Report := ⟨"", 101⟩

def runToEnd (env : Environment m) (arguments : List String) : m Report := do
  return (← (run env.ending arguments).run).getD aborted

end Proofbook.CommandLine
