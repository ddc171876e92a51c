import Proofbook.Binary64.Rounding
import Proofbook.Record.Event

namespace Proofbook

structure Statistics where
  verifications : UInt32 := 0
  validProofs : UInt32 := 0
  stepsChecked : UInt64 := 0
  ruleApplications : UInt32 := 0
  time : Nat := 0

namespace Statistics

def addVerification (s : Statistics) (steps : Nat) (valid : Bool) (time : Nat) : Statistics :=
  { s with
    verifications := s.verifications + 1
    validProofs := if valid then s.validProofs + 1 else s.validProofs
    stepsChecked := s.stepsChecked + UInt64.ofNat steps
    time := s.time + time }

def addRuleApplication (s : Statistics) : Statistics :=
  { s with ruleApplications := s.ruleApplications + 1 }

def mean (time : Nat) (count : UInt32) (_ : count ≠ 0) : Nat := time / count.toNat

def averageTime (s : Statistics) : Nat :=
  if counted : s.verifications ≠ 0 then mean s.time s.verifications counted else 0

def seconds (nanoseconds : Nat) : Binary64 := .ofRatio false nanoseconds (Nat.pow 10 9)

def milliseconds (nanoseconds : Nat) : Binary64 := .ofRatio false nanoseconds (Nat.pow 10 6)

def events (s : Statistics) : List Event :=
  [.statistic "verifications" (.integer s.verifications.toNat),
    .statistic "valid proofs" (.integer s.validProofs.toNat),
    .statistic "steps checked" (.integer s.stepsChecked.toNat),
    .statistic "rule applications" (.integer s.ruleApplications.toNat),
    .statistic "verification time ms" (.decimal (milliseconds s.time))]

end Statistics

end Proofbook
