import Proofbook.CommandLine.Basic

namespace Proofbook.CommandLine

/-- A description with its error code, which may come with a minus sign in two's complement. -/
def systemError (description : String) (code : UInt32) : ReadError :=
  .system description.capitalize (if code < 0x80000000 then code else -code).toNat

def readErrorOf : IO.Error → ReadError
  | .noFileOrDirectory _ code _ => systemError "No such file or directory" code
  | .inappropriateType _ code details => systemError details code
  | .permissionDenied _ code details => systemError details code
  | fault => systemError fault.toString 0

def load (path : String) : IO (Except ReadError ByteArray) := do
  try return .ok (← IO.FS.readBinFile path)
  catch fault => return .error (readErrorOf fault)

/-- The time of a call is taken while it is performed once for the clock alone. -/
def measure (s : Session) (invocation : Invocation) : IO Nat := do
  let start ← IO.monoNanosNow
  match (s.perform 0 invocation).2 with
  | .error _ => return 0
  | .ok _ => return (← IO.monoNanosNow) - start

end Proofbook.CommandLine

open Proofbook.CommandLine in
def main (arguments : List String) : IO UInt32 := do
  let report ← runToEnd { load, time := measure } arguments
  IO.print report.output
  return UInt32.ofNat report.exitCode
