import Proofbook.Proofs.Registry.Consistency
import Proofbook.Proofs.Session.History

namespace Proofbook.Session

inductive Reachable : Session → Prop where
  | new (config : Config) : Reachable { config }
  | init {s : Session} (before : Reachable s) : Reachable s.init
  | cleanup {s : Session} (before : Reachable s) : Reachable s.cleanup
  | perform {s : Session} (before : Reachable s) (time : Nat) (invocation : Invocation) :
      Reachable (s.perform time invocation).1

variable {s : Session}

theorem Reachable.holds {holds : Registry → Prop} (start : holds .fresh)
    (step : ∀ {config time request answer r r'},
      Registry.perform config time request r = .ok answer r' → holds r → holds r')
    (reachable : s.Reachable) : ∀ r, s.registry = some r → holds r := by
  induction reachable with
  | new => nofun
  | @init s _ ih =>
      rintro _ ⟨⟩
      cases before : s.registry with
      | none => exact start
      | some r => exact ih r before
  | cleanup => nofun
  | perform _ time invocation ih => exact forall_registry_perform step ih time invocation

theorem Reachable.sound (reachable : s.Reachable) : s.Sound :=
  reachable.holds Registry.sound_fresh fun performed sound => (perform_effect performed).sound sound

theorem Reachable.axiomsSound (reachable : s.Reachable) :
    ∀ r, s.registry = some r → r.AxiomsSound :=
  reachable.holds Registry.axiomsSound_fresh fun performed sound =>
    sound.amends (Registry.amends_of_performs (performs_of_ok performed))

theorem Reachable.run (reachable : s.Reachable) (calls : List (Nat × Invocation)) :
    (s.run calls).1.Reachable := by
  induction calls generalizing s with
  | nil => exact reachable
  | cons call rest ih => exact ih (reachable.perform call.1 call.2)

end Proofbook.Session
