import Proofbook.Proofs.Registry.Compartment
import Proofbook.Proofs.Session.Reporting
import Proofbook.Proofs.Session.Untimed

namespace Proofbook

open Proofbook.Action

namespace Compartment

def ofCall? (call : Operation) (args : List Json) : Option Compartment :=
  match call with
  | .theoremDefine | .theoremGet | .theoremVerify | .proofStep | .proofVerify | .proofStats
  | .proofExport =>
    match Request.argument args 0 with
    | .string name => some (ofTheorem name)
    | _ => none
  | .axiomAdd | .axiomList | .axiomValidate | .systemConsistency => some axioms
  | .entails | .equivalent | .modusPonens | .modusTollens | .universalInstantiation | .substitute
  | .truthTable | .checkUndecidable => some calculation
  | .theoremList | .systemStats | .systemReset => none

/-- The calls of a compartment, to which every reset belongs. -/
def admits (c : Compartment) (invocation : Invocation) : Bool :=
  (Operation.ofName? invocation.call).any fun call =>
    call = .systemReset ∨ ofCall? call invocation.args = some c

variable {c : Compartment} {invocation : Invocation} {request : Request} {call : Operation}
  {args : List Json}

theorem ofCall?_of_reading (reading : Request.Reading args call request) :
    ofCall? call args = request.compartment? := by
  cases reading with
  | derive ruled =>
      cases call with
      | modusPonens | modusTollens | universalInstantiation => rfl
      | _ => cases ruled
  | defineTheorem named | getTheorem named | verifyTheorem named | addStep named
  | verifyProof named | describeProof named | exportProof named =>
      rw [ofCall?, named]
      rfl
  | _ => rfl

theorem reset_of_reading (reading : Request.Reading args call request) :
    call = .systemReset ↔ ∃ confirmed, request = .reset confirmed := by
  cases reading with
  | derive ruled =>
      refine ⟨?_, nofun⟩
      rintro rfl
      cases ruled
  | _ => simp

theorem admits_of_reading (known : Operation.ofName? invocation.call = some call)
    (reading : Request.Reading invocation.args call request) :
    c.admits invocation = true ↔
      (∃ confirmed, request = .reset confirmed) ∨ request.compartment? = some c := by
  rw [admits, known, Option.any_some, decide_eq_true_iff, reset_of_reading reading,
    ofCall?_of_reading reading]

theorem confined_answer {config : Config} {time : Nat}
    (known : Operation.ofName? invocation.call = some call)
    (admitted : c.admits invocation = true) :
    Confined c.view (Registry.answer config time call invocation.args) := by
  cases read : Request.read call invocation.args with
  | error fault =>
      have failed : Registry.answer config time call invocation.args = throw fault := by
        rw [Registry.answer, read]
        rfl
      rw [failed]
      exact confined_throw fault
  | ok request =>
      rw [Registry.answer_of_read read]
      rcases (admits_of_reading known (Request.read_ok read).2).mp admitted with
        ⟨confirmed, rfl⟩ | within
      · exact (Registry.confined_reset c confirmed).bind fun _ => confined_pure _
      · exact Registry.confined_perform within

end Compartment

namespace Session

variable {c : Compartment} {s s' s'' : Session} {time : Nat} {invocation : Invocation}

/-! ## One call -/

structure Alike (c : Compartment) (s s' : Session) : Prop where
  config : s.config = s'.config
  view : s.registry.map c.view = s'.registry.map c.view

theorem Alike.refl (c : Compartment) (s : Session) : Alike c s s := ⟨rfl, rfl⟩

theorem Alike.trans (first : Alike c s s') (second : Alike c s' s'') : Alike c s s'' :=
  ⟨first.config.trans second.config, first.view.trans second.view⟩

theorem Alike.withRegistry {α : Type} {action : Action α} (alike : Alike c s s')
    (confined : Confined c.view action) :
    (s.withRegistry action).2 = (s'.withRegistry action).2 ∧
      Alike c (s.withRegistry action).1 (s'.withRegistry action).1 := by
  obtain ⟨config, registry⟩ := s
  obtain ⟨config', registry'⟩ := s'
  obtain ⟨configured, view⟩ := alike
  cases registry with
  | none =>
      cases registry' with
      | none => exact ⟨rfl, configured, rfl⟩
      | some r' => cases view
  | some r =>
      cases registry' with
      | none => cases view
      | some r' =>
          have same : c.view r = c.view r' := Option.some.inj view
          unfold Session.withRegistry
          cases ran : action r with
          | ok a after =>
              obtain ⟨after', ran', left⟩ := confined.ok same ran
              simp only [ran, ran', true_and]
              exact ⟨configured, congrArg some left.symm⟩
          | error fault after =>
              obtain ⟨after', ran', left⟩ := confined.error same ran
              simp only [ran, ran', true_and]
              exact ⟨configured, congrArg some left.symm⟩

theorem Alike.perform (alike : Alike c s s') (admitted : c.admits invocation = true)
    (time : Nat) :
    (s.perform time invocation).2 = (s'.perform time invocation).2 ∧
      Alike c (s.perform time invocation).1 (s'.perform time invocation).1 := by
  unfold Session.perform
  cases known : Operation.ofName? invocation.call with
  | none => exact ⟨rfl, alike⟩
  | some call =>
      rw [alike.config]
      exact alike.withRegistry (Compartment.confined_answer known admitted)

theorem alike_perform (sound : s.Sound) (foreign : c.admits invocation = false) (time : Nat) :
    Alike c (s.perform time invocation).1 s := by
  cases outcome : (s.perform time invocation).2 with
  | error fault =>
      rw [perform_failed outcome]
      exact .refl c s
  | ok answer =>
      obtain ⟨r, r', request, before, requested, performed, after⟩ := perform_ok outcome
      obtain ⟨call, known, reading⟩ := Invocation.reads requested
      have outside := mt (Compartment.admits_of_reading
        (Operation.ofName?_eq_some.mpr known) reading).mpr (Bool.eq_false_iff.mp foreign)
      rw [not_or] at outside
      have kept : c.view r' = c.view r :=
        Registry.view_of_foreign (sound r before) performed outside.2 fun confirmed same =>
          outside.1 ⟨confirmed, same⟩
      rw [after]
      refine ⟨rfl, ?_⟩
      rw [before]
      exact congrArg some kept

/-! ## Runs -/

def outcomesIn (s : Session) (c : Compartment) (calls : List (Nat × Invocation)) :
    List (Except Error Answer) :=
  ((s.history calls).filter (c.admits ·.invocation)).map Turn.outcome

theorem outcomesIn_cons (rest : List (Nat × Invocation)) :
    s.outcomesIn c ((time, invocation) :: rest) =
      if c.admits invocation then
        (s.perform time invocation).2 :: (s.perform time invocation).1.outcomesIn c rest
      else (s.perform time invocation).1.outcomesIn c rest := by
  rw [outcomesIn, history_cons, List.filter_cons]
  split <;> rfl

theorem Alike.outcomesIn_eq (alike : Alike c s s') (sound : s.Sound)
    (calls : List (Nat × Invocation)) :
    s.outcomesIn c calls = (s'.run (calls.filter (c.admits ·.2))).2 := by
  induction calls generalizing s s' with
  | nil => rfl
  | cons call rest ih =>
      obtain ⟨time, invocation⟩ := call
      have sound' := sound.perform time invocation
      rw [outcomesIn_cons, List.filter_cons]
      cases admitted : c.admits invocation with
      | true =>
          obtain ⟨same, alike'⟩ := alike.perform admitted time
          rw [if_pos rfl, if_pos rfl, run_cons, same, ih alike' sound']
      | false =>
          -- Only the first session makes the call, and it stays alike to what it was.
          have alike' := (alike_perform sound admitted time).trans alike
          rw [if_neg Bool.false_ne_true, if_neg Bool.false_ne_true]
          exact ih alike' sound'

theorem history_untimed {calls : List (Nat × Invocation)}
    (inTime : ∀ outcome ∈ (s.run calls).2, timedOut outcome = false) :
    s.untimed.history (calls.map fun call => (0, call.2)) =
      (s.history calls).map fun turn => ⟨0, turn.invocation, untimedOutcome turn.outcome⟩ := by
  rw [history, run_untimed inTime, List.zip_map, List.map_map, history, List.map_map]
  rfl

theorem map_untimed_outcomesIn {config : Config} {calls : List (Nat × Invocation)}
    (inTime : ∀ outcome ∈ ((init { config }).run calls).2, timedOut outcome = false) :
    ((init { config }).outcomesIn c calls).map untimedOutcome =
      ((init { config }).untimed.run
        (((calls.map Prod.snd).filter c.admits).map fun invocation => (0, invocation))).2 := by
  have sound : (init { config }).untimed.Sound := sound_init { config with timeLimit := none }
  have erased : (init { config }).untimed.outcomesIn c (calls.map fun call => (0, call.2)) =
      ((init { config }).outcomesIn c calls).map untimedOutcome := by
    rw [outcomesIn, history_untimed inTime, List.filter_map, List.map_map, outcomesIn,
      List.map_map]
    rfl
  have alone : (calls.map fun call => (0, call.2)).filter (c.admits ·.2) =
      ((calls.map Prod.snd).filter c.admits).map fun invocation => (0, invocation) := by
    rw [List.filter_map, List.filter_map, List.map_map]
    rfl
  rw [← erased, (Alike.refl c _).outcomesIn_eq sound, alone]

end Session

/--
Runs in which a compartment makes the same calls, however mixed with others, have the same outcomes
for it up to times.
-/
theorem compartments_do_not_interfere (config : Config) (c : Compartment)
    (calls : List (Nat × Invocation))
    (inTime : ∀ outcome ∈ ((Session.init { config }).run calls).2, timedOut outcome = false) :
    ((Session.init { config }).run (calls.filter (c.admits ·.2))).2 =
        (Session.init { config }).outcomesIn c calls ∧
      (∀ alone : List (Nat × Invocation),
        alone.map Prod.snd = (calls.map Prod.snd).filter c.admits →
        (∀ outcome ∈ ((Session.init { config }).run alone).2, timedOut outcome = false) →
        ((Session.init { config }).run alone).2.map untimedOutcome =
          ((Session.init { config }).outcomesIn c calls).map untimedOutcome) ∧
      ∀ again : List (Nat × Invocation),
        (again.map Prod.snd).filter c.admits = (calls.map Prod.snd).filter c.admits →
        (∀ outcome ∈ ((Session.init { config }).run again).2, timedOut outcome = false) →
        ((Session.init { config }).outcomesIn c again).map untimedOutcome =
          ((Session.init { config }).outcomesIn c calls).map untimedOutcome := by
  have sound := Session.sound_init config
  refine ⟨((Session.Alike.refl c _).outcomesIn_eq sound calls).symm, ?_, ?_⟩
  · intro alone same inTime'
    have erased := congrArg Prod.snd (Session.run_untimed inTime')
    rw [Session.map_untimed_outcomesIn inTime, ← same, List.map_map]
    exact erased.symm
  · intro again same inTime'
    rw [Session.map_untimed_outcomesIn inTime', same, Session.map_untimed_outcomesIn inTime]

/-- The calls that state an atom as a theorem and check a proof of it that is the atom alone. -/
def stating (name : String) (time : Nat) : List (Nat × Invocation) :=
  let statement := (Formula.atom name).encode
  [(time, ⟨"theorem_define", [.string name, statement]⟩),
    (time, ⟨"proof_verify", [.string name, .array [statement]]⟩),
    (time, ⟨"theorem_get", [.string name]⟩)]

theorem compartments_do_not_interfere_stating :
    ((Session.init { config := {} }).run (stating "A" 7)).2.map untimedOutcome =
      ((Session.init { config := {} }).outcomesIn (.ofTheorem "A")
        (stating "B" 5 ++ stating "A" 3)).map untimedOutcome :=
  (compartments_do_not_interfere {} (.ofTheorem "A") (stating "B" 5 ++ stating "A" 3)
    (by decide)).2.1 (stating "A" 7) rfl (by decide)

end Proofbook
