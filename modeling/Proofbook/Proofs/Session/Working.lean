import Proofbook.Proofs.Session.History

namespace Proofbook

open Registry Proofbook.Action

def Request.isWork : Request → Bool
  | addStep .. | verifyProof .. => true
  | _ => false

/-! ## Turns -/

namespace Turn

/-- The step that the turn added to the working proof of the named theorem, admissible or not. -/
def appended? (turn : Turn) (name : String) : Option Step :=
  match turn.success? with
  | some (.addStep goal step, _) => if goal = name then some step else none
  | _ => none

def checked? (turn : Turn) (name : String) : Option (List Step × Bool) :=
  match turn.success? with
  | some (.verifyProof goal steps, .verdict valid) =>
    if goal = name then some (steps, valid) else none
  | _ => none

def touches (turn : Turn) (name : String) : Bool :=
  (turn.appended? name).isSome || (turn.checked? name).isSome

end Turn

def Proof.concluded (goal : String) (steps : List Step) (valid : Bool) (time : Nat) : Proof :=
  (empty goal).conclude (steps.map Step.formula) (steps.map Step.justification) valid time

def Proof.after (name : String) (found : Option Proof) (turn : Turn) : Option Proof :=
  match turn.checked? name with
  | some (steps, valid) => some (.concluded name steps valid turn.time)
  | none =>
    match turn.appended? name with
    | some step => some ((found.getD (.empty name)).push step)
    | none => found

/-! ## One turn -/

namespace Proof

variable {turn : Turn} {request : Request} {answer : Answer} {name : String}
  {found : Option Proof}

theorem after_eq_self (noCheck : turn.checked? name = none)
    (noStep : turn.appended? name = none) : after name found turn = found := by
  rw [after, noCheck, noStep]

theorem after_of_untouched (untouched : turn.touches name = false) :
    after name found turn = found := by
  unfold Turn.touches at untouched
  simp only [Bool.or_eq_false_iff, Option.isSome_eq_false_iff, Option.isNone_iff_eq_none]
    at untouched
  exact after_eq_self untouched.2 untouched.1

theorem after_of_failed (failed : turn.success? = none) : after name found turn = found := by
  apply after_eq_self
  · rw [Turn.checked?, failed]
  · rw [Turn.appended?, failed]

theorem after_of_other (success : turn.success? = some (request, answer))
    (other : request.isWork = false) : after name found turn = found := by
  apply after_eq_self
  · rw [Turn.checked?, success]
    cases request <;> first | rfl | cases other
  · rw [Turn.appended?, success]
    cases request <;> first | rfl | cases other

theorem after_of_addStep {goal : String} {step : Step}
    (success : turn.success? = some (.addStep goal step, answer)) :
    after name found turn =
      if goal = name then some ((found.getD (.empty name)).push step) else found := by
  by_cases named : goal = name <;> simp [after, Turn.checked?, Turn.appended?, success, named]

theorem after_of_verifyProof {goal : String} {steps : List Step} {valid : Bool}
    (success : turn.success? = some (.verifyProof goal steps, .verdict valid)) :
    after name found turn =
      if goal = name then some (.concluded name steps valid turn.time) else found := by
  by_cases named : goal = name <;> simp [after, Turn.checked?, Turn.appended?, success, named]

end Proof

namespace Registry

variable {r r' mid : Registry} {goal : String} {proof : Proof}

theorem openProof_get? (sound : r.Sound) (opened : openProof goal r = .ok proof mid) :
    proof = (r.proofs.get? goal).getD (.empty goal) ∧ mid.proofs.get? goal = some proof ∧
      mid.proofs.Coherent Proof.goal ∧
      ∀ other, other ≠ goal → mid.proofs.get? other = r.proofs.get? other := by
  have coherent := (sound.openProof opened).2
  rcases openProof_ok.mp opened with ⟨-, found, rfl⟩ | ⟨free, rfl, rfl⟩
  · exact ⟨by rw [found]; rfl, found, coherent, fun _ _ => rfl⟩
  · have absent := Store.get?_eq_none_of_free free
    refine ⟨by rw [absent]; rfl, Store.get?_insert_self .., coherent, fun other apart => ?_⟩
    exact sound.proofs.get?_insert_of_ne apart

theorem get?_modify_opened (sound : r.Sound) (opened : openProof goal r = .ok proof mid)
    (change : Proof → Proof) (name : String) :
    (mid.proofs.modify goal change).get? name =
      if goal = name then some (change proof) else r.proofs.get? name := by
  obtain ⟨-, found, coherent, others⟩ := openProof_get? sound opened
  by_cases named : goal = name
  · subst named
    rw [if_pos rfl, Store.get?_modify_self, found]
    rfl
  · rw [if_neg named, coherent.get?_modify_of_ne (Ne.symm named), others name (Ne.symm named)]

end Registry

theorem working_effect {turn : Turn} {r r' : Registry} {request : Request} {answer : Answer}
    (success : turn.success? = some (request, answer)) (sound : r.Sound)
    (effect : Effect turn.time r r' request answer) (noReset : turn.isReset = false)
    (name : String) :
    r'.proofs.get? name = Proof.after name (r.proofs.get? name) turn := by
  cases effect with
  | quiet quiet theorems proofs =>
      have other : request.isWork = false := by cases request <;> first | rfl | cases quiet
      rw [Proof.after_of_other success other, proofs]
  | defined free wellFormed theorems proofs =>
      rw [Proof.after_of_other success rfl, proofs]
  | verified found theorems proofs =>
      rw [Proof.after_of_other success rfl, proofs]
  | @extended goal step proof mid opened theorems proofs =>
      rw [Proof.after_of_addStep success, proofs, get?_modify_opened sound opened]
      by_cases named : goal = name
      · subst named
        rw [if_pos rfl, if_pos rfl, ← (openProof_get? sound opened).1]
      · rw [if_neg named, if_neg named]
  | @checked goal steps proof concluded mid valid opened verdict outcome theorems proofs =>
      rw [Proof.after_of_verifyProof success, proofs, get?_modify_opened sound opened]
      have same : concluded = .concluded goal steps valid turn.time := by
        rw [outcome, ← (sound.openProof opened).1]
        rfl
      by_cases named : goal = name
      · subst named
        rw [if_pos rfl, if_pos rfl, same]
      · rw [if_neg named, if_neg named]
  | reset anew =>
      rw [Turn.isReset, success] at noReset
      cases noReset

/-! ## Working proofs belong to theorems -/

namespace Registry

variable {config : Config} {time : Nat} {r r' : Registry} {answer : Answer} {goal : String}

def Owned (r : Registry) : Prop :=
  ∀ goal, r.proofs.contains goal = true → r.theorems.contains goal = true

theorem contains_openProof {proof : Proof} (opened : openProof goal r = .ok proof r')
    {other : String} (present : r'.proofs.contains other = true) :
    r.proofs.contains other = true ∨ other = goal := by
  rcases openProof_ok.mp opened with ⟨-, -, rfl⟩ | ⟨-, -, rfl⟩
  · exact .inl present
  · by_cases same : other = goal
    · exact .inr same
    · refine .inl ?_
      rwa [Store.contains, Store.position?_insert, if_neg same] at present

theorem owned_fresh : fresh.Owned := by
  intro goal present
  cases present

theorem Owned.perform {request : Request} (owned : r.Owned)
    (ran : perform config time request r = .ok answer r') : r'.Owned := by
  intro name present
  cases performs_of_ok ran with
  | defineTheorem =>
      rw [Store.contains, Store.position?_insert]
      split
      · rfl
      · exact owned name present
  | verifyTheorem =>
      split at present
      · rw [if_pos ‹_›, Store.contains_modify]
        exact owned name present
      · rw [if_neg ‹_›]
        exact owned name present
  | addStep known opened =>
      rw [Store.contains_modify] at present
      rw [(openProof_frame opened).1]
      rcases contains_openProof opened present with old | rfl
      · exact owned name old
      · exact known
  | verifyProof known _ _ opened =>
      rw [Store.contains_modify] at present
      rw [(openProof_frame opened).1]
      have kept : r.theorems.contains name = true := by
        rcases contains_openProof opened present with old | rfl
        · exact owned name old
        · exact known
      split
      · rwa [Store.contains_modify]
      · exact kept
  | derive =>
      split at present
      · rw [if_pos ‹_›]
        exact owned name present
      · rw [if_neg ‹_›]
        exact owned name present
  | reset => exact owned_fresh name present
  | _ => exact owned name present

end Registry

/-! ## Runs -/

namespace Session

variable {s : Session} {time : Nat} {invocation : Invocation}

def working? (s : Session) (name : String) : Option Proof :=
  s.registry.bind (·.proofs.get? name)

def Owned (s : Session) : Prop := ∀ r, s.registry = some r → r.Owned

theorem owned_init (config : Config) : (init { config }).Owned := by
  rintro _ ⟨⟩
  exact Registry.owned_fresh

theorem Owned.run (owned : s.Owned) (calls : List (Nat × Invocation)) : (s.run calls).1.Owned :=
  forall_registry_run (fun performed owned => owned.perform performed) owned calls

theorem Owned.working?_eq_none (owned : s.Owned) (sound : s.Sound) {name : String}
    (absent : s.theorem? name = none) : s.working? name = none := by
  rw [Option.eq_none_iff_forall_ne_some]
  intro proof found
  obtain ⟨r, present, got⟩ := Option.bind_eq_some_iff.mp found
  have known := owned r present name (Store.contains_of_get? got)
  obtain ⟨t, there⟩ := (sound r present).theorems.get?_of_contains known
  rw [theorem?, present, Option.bind_some, there] at absent
  cases absent

theorem working_perform (sound : s.Sound) (time : Nat) (invocation : Invocation) (name : String) :
    (s.perform time invocation).1.working? name =
      if (Turn.mk time invocation (s.perform time invocation).2).isReset then none
      else
        Proof.after name (s.working? name) ⟨time, invocation, (s.perform time invocation).2⟩ := by
  cases outcome : (s.perform time invocation).2 with
  | error fault =>
      have failed : (Turn.mk time invocation (.error fault)).success? = none :=
        Turn.success?_eq_none_of_error rfl
      rw [perform_failed outcome, Proof.after_of_failed failed, Turn.isReset, failed]
      rfl
  | ok answer =>
      obtain ⟨r, r', request, before, requested, performed, after⟩ := perform_ok outcome
      have success : (Turn.mk time invocation (.ok answer)).success? = some (request, answer) :=
        success?_of_ok requested
      have effect := perform_effect performed
      rw [after, working?, working?, before, Option.bind_some, Option.bind_some]
      cases anew : (Turn.mk time invocation (.ok answer)).isReset with
      | false => exact working_effect success (sound r before) effect anew name
      | true =>
          obtain ⟨confirmed, rfl⟩ := (Turn.isReset_of_success success).mp anew
          cases effect with
          | quiet quiet => cases quiet
          | reset anew => rw [anew]; rfl

theorem working_run (sound : s.Sound) {calls : List (Nat × Invocation)} (name : String)
    (noReset : ∀ turn ∈ s.history calls, turn.isReset = false) :
    (s.run calls).1.working? name =
      (s.history calls).foldl (Proof.after name) (s.working? name) := by
  induction calls generalizing s with
  | nil => rfl
  | cons call rest ih =>
      obtain ⟨time, invocation⟩ := call
      rw [history_cons, List.forall_mem_cons] at noReset
      have first := working_perform sound time invocation name
      rw [noReset.1, if_neg Bool.false_ne_true] at first
      rw [history_cons, List.foldl_cons, ← first]
      exact ih (sound.perform time invocation) noReset.2

theorem working_definition (sound : s.Sound) (owned : s.Owned) {t : Theorem}
    (defined : (Turn.mk time invocation (s.perform time invocation).2).definition? = some t) :
    (s.perform time invocation).1.working? t.name = none := by
  -- The name was free, and what has no theorem has no working proof.
  obtain ⟨answer, success⟩ := Turn.success_of_definition defined
  rw [working_perform sound, Turn.isReset, success, if_neg Bool.false_ne_true,
    Proof.after_of_other success rfl]
  exact owned.working?_eq_none sound (free_of_definition defined)

theorem working_defined (sound : s.Sound) (owned : s.Owned) {t : Theorem} {since : List Turn}
    {calls : List (Nat × Invocation)} (definition : DefinedIn (s.history calls) t since) :
    (s.run calls).1.working? t.name = since.foldl (Proof.after t.name) none := by
  obtain ⟨before, turn, split, defined, noReset⟩ := definition
  obtain ⟨front, time, invocation, rest, rfl, rfl, rfl⟩ := calls_of_history split
  -- The calls in front of the definition only have to keep `Sound` and `Owned`.
  have sound' : (s.run front).1.Sound := sound.run front
  rw [run_append, run_cons, ← working_definition sound' (owned.run front) defined]
  exact working_run (sound'.perform time invocation) t.name noReset

end Session

end Proofbook
