import Proofbook.Proofs.Registry.Effect
import Proofbook.Proofs.Session.Atomicity

namespace Proofbook

open Proofbook.Action

structure Turn where
  time : Nat
  invocation : Invocation
  outcome : Except Error Answer

def Invocation.request? (invocation : Invocation) : Option Request :=
  (Operation.ofName? invocation.call).bind fun call => (Request.read call invocation.args).toOption

namespace Turn

def success? (turn : Turn) : Option (Request × Answer) :=
  match turn.invocation.request?, turn.outcome with
  | some request, .ok answer => some (request, answer)
  | _, _ => none

def isReset (turn : Turn) : Bool :=
  match turn.success? with
  | some (.reset _, _) => true
  | _ => false

def definition? (turn : Turn) : Option Theorem :=
  match turn.success? with
  | some (.defineTheorem name statement hypotheses goal, _) =>
    some { name, statement, hypotheses, conclusion := goal }
  | _ => none

/-- The steps that the turn checked as a proof of the named theorem and found valid. -/
def provenWith? (turn : Turn) (name : String) : Option (List Step) :=
  match turn.success? with
  | some (.verifyProof goal steps, .verdict true) => if goal = name then some steps else none
  | _ => none

/-- The turn verified the named theorem, with whatever verdict. -/
def verifies (turn : Turn) (name : String) : Bool :=
  match turn.success? with
  | some (.verifyTheorem goal, _) => goal == name
  | _ => false

def Checked (turn : Turn) : Prop :=
  ∀ name steps, turn.provenWith? name = some steps → checkSteps (steps.map Step.formula) = true

end Turn

def Proof.accepted (goal : String) (steps : List Step) (time : Nat) : Proof :=
  ⟨goal, steps.map Step.formula, steps.map Step.justification, .verifiedValid, time⟩

def Theorem.after (t : Theorem) (turn : Turn) : Theorem :=
  match turn.provenWith? t.name with
  | some steps => t.prove (.accepted t.name steps turn.time)
  | none =>
    if turn.verifies t.name && (t.proof.isSome || t.isEntailed) then t.markProven else t

def Turn.leaves (turn : Turn) (name : String) (found : Option Theorem) : Option Theorem :=
  if turn.isReset then none
  else match turn.definition? with
    | some t => if t.name = name then some t else found
    | none => found.map (·.after turn)

/-! ## One turn -/

theorem Theorem.Sound.valid_iff {t : Theorem} (sound : t.Sound) :
    t.proof.any Proof.isValid = t.proof.isSome := by
  cases attached : t.proof with
  | none => rfl
  | some proof => exact sound.attached proof attached

theorem Theorem.Sound.admissible {t : Theorem} (sound : t.Sound) :
    (t.statement.wellFormed && t.hypotheses.all Formula.wellFormed) = true := by
  have all := sound.wellFormed
  unfold isWellFormed at all
  exact (Bool.and_eq_true _ _ ▸ all).1

namespace Turn

variable {turn : Turn} {request : Request} {answer : Answer} {name : String}
  {found : Option Theorem}

theorem leaves_eq_self (noReset : turn.isReset = false) (noDefinition : turn.definition? = none)
    (noProof : turn.provenWith? = fun _ => none) (noLook : turn.verifies = fun _ => false) :
    turn.leaves name found = found := by
  unfold leaves
  rw [noReset, noDefinition]
  cases found with
  | none => rfl
  | some t => simp [Theorem.after, noProof, noLook]

theorem success_of_definition {t : Theorem} (defined : turn.definition? = some t) :
    ∃ answer, turn.success? =
      some (.defineTheorem t.name t.statement t.hypotheses t.conclusion, answer) := by
  unfold definition? at defined
  split at defined
  · cases defined
    exact ⟨_, ‹_›⟩
  · cases defined

theorem success_of_provenWith {steps : List Step} (proven : turn.provenWith? name = some steps) :
    turn.success? = some (.verifyProof name steps, .verdict true) := by
  unfold provenWith? at proven
  split at proven
  · split at proven
    · rename_i success named
      cases proven
      rw [success, named]
    · cases proven
  · cases proven

theorem leaves_of_defined {new : Theorem} (defined : turn.definition? = some new) :
    turn.leaves name found = if new.name = name then some new else found := by
  obtain ⟨answer, success⟩ := success_of_definition defined
  rw [leaves, isReset, success, defined]
  rfl

theorem after_of_defined {new t : Theorem} (defined : turn.definition? = some new) :
    t.after turn = t := by
  obtain ⟨answer, success⟩ := success_of_definition defined
  simp [Theorem.after, provenWith?, verifies, success]

theorem success?_eq_none_of_error {fault : Error} (failed : turn.outcome = .error fault) :
    turn.success? = none := by
  rw [success?, failed]
  cases turn.invocation.request? <;> rfl

theorem leaves_of_failed (failed : turn.success? = none) : turn.leaves name found = found := by
  apply leaves_eq_self
  · rw [isReset, failed]
  · rw [definition?, failed]
  · funext name
    rw [provenWith?, failed]
  · funext name
    rw [verifies, failed]

theorem isReset_of_success (success : turn.success? = some (request, answer)) :
    turn.isReset = true ↔ ∃ confirmed, request = .reset confirmed := by
  rw [isReset, success]
  cases request <;> simp

theorem leaves_of_quiet (success : turn.success? = some (request, answer))
    (quiet : request.isQuiet = true) : turn.leaves name found = found := by
  apply leaves_eq_self
  · rw [isReset, success]
    cases request <;> first | rfl | cases quiet
  · rw [definition?, success]
    cases request <;> first | rfl | cases quiet
  · funext name
    rw [provenWith?, success]
    cases request <;> first | rfl | cases quiet
  · funext name
    rw [verifies, success]
    cases request <;> first | rfl | cases quiet

theorem leaves_of_addStep {goal : String} {step : Step}
    (success : turn.success? = some (.addStep goal step, answer)) :
    turn.leaves name found = found := by
  apply leaves_eq_self
  · rw [isReset, success]
  · rw [definition?, success]
  · funext name
    rw [provenWith?, success]
  · funext name
    rw [verifies, success]

theorem leaves_of_definition {statement : Formula} {hypotheses : List Formula}
    {goal : Option Formula} {new : String}
    (success : turn.success? = some (.defineTheorem new statement hypotheses goal, answer)) :
    turn.leaves name found =
      if new = name then some { name := new, statement, hypotheses, conclusion := goal }
      else found := by
  simp only [leaves, isReset, definition?, success]
  rfl

theorem leaves_of_verifyTheorem {goal : String}
    (success : turn.success? = some (.verifyTheorem goal, answer)) :
    turn.leaves name found = found.map fun t =>
      if goal = t.name ∧ (t.proof.isSome || t.isEntailed) then t.markProven else t := by
  simp only [leaves, isReset, definition?, success, Theorem.after, provenWith?, verifies]
  simp

theorem leaves_of_invalid {goal : String} {steps : List Step}
    (success : turn.success? = some (.verifyProof goal steps, .verdict false)) :
    turn.leaves name found = found := by
  apply leaves_eq_self
  · rw [isReset, success]
  · rw [definition?, success]
  · funext name
    rw [provenWith?, success]
  · funext name
    rw [verifies, success]

theorem leaves_of_valid {goal : String} {steps : List Step}
    (success : turn.success? = some (.verifyProof goal steps, .verdict true)) :
    turn.leaves name found = found.map fun t =>
      if goal = t.name then t.prove (.accepted t.name steps turn.time) else t := by
  simp only [leaves, isReset, definition?, success, Theorem.after, provenWith?, verifies]
  cases found with
  | none => rfl
  | some t => by_cases named : goal = t.name <;> simp [named]

end Turn

theorem find_effect {turn : Turn} {r r' : Registry} {request : Request} {answer : Answer}
    (success : turn.success? = some (request, answer)) (sound : r.Sound)
    (effect : Effect turn.time r r' request answer) (name : String) :
    r'.theorems.get? name = turn.leaves name (r.theorems.get? name) := by
  cases effect with
  | quiet quiet theorems proofs => rw [Turn.leaves_of_quiet success quiet, theorems]
  | extended opened theorems proofs => rw [Turn.leaves_of_addStep success, theorems]
  | @defined new statement hypotheses goal answer free wellFormed theorems proofs =>
      rw [Turn.leaves_of_definition success, theorems]
      by_cases same : new = name
      · subst same
        rw [if_pos rfl, Store.get?_insert_self]
      · rw [if_neg same]
        exact sound.theorems.get?_insert_of_ne (Ne.symm same)
  | @verified goal t found theorems proofs =>
      have known := sound.each t (sound.theorems.get?_eq_some_iff.mp found).1
      rw [known.admissible, known.valid_iff, Bool.true_and] at theorems
      have only {u : Theorem} (here : r.theorems.get? name = some u) (named : goal = u.name) :
          u = t := by
        rw [named, (sound.theorems.get?_eq_some_iff.mp here).2, here] at found
        exact Option.some.inj found
      rw [Turn.leaves_of_verifyTheorem success, theorems]
      by_cases proven : (t.proof.isSome || t.isEntailed) = true
      · rw [if_pos proven, sound.theorems.get?_modify]
        apply Option.map_congr
        intro u here
        by_cases named : goal = u.name
        · obtain rfl := only here named
          rw [if_pos named, if_pos ⟨named, proven⟩]
        · rw [if_neg named, if_neg fun both => named both.1]
      · rw [if_neg proven]
        cases here : r.theorems.get? name with
        | none => rfl
        | some u =>
            have spared : ¬(goal = u.name ∧ (u.proof.isSome || u.isEntailed) = true) := by
              rintro ⟨named, holds⟩
              obtain rfl := only here named
              exact proven holds
            rw [Option.map_some, if_neg spared]
  | @checked goal steps proof concluded mid valid opened verdict outcome theorems proofs =>
      cases valid with
      | false => rw [Turn.leaves_of_invalid success, theorems, if_neg Bool.false_ne_true]
      | true =>
          have accepted : concluded = .accepted goal steps turn.time := by
            rw [outcome, ← (sound.openProof opened).1]
            rfl
          rw [Turn.leaves_of_valid success, theorems, if_pos rfl, sound.theorems.get?_modify,
            accepted]
          apply Option.map_congr
          rintro t -
          by_cases named : goal = t.name <;> simp [named]
  | reset anew =>
      rw [anew, Turn.leaves, Turn.isReset, success]
      rfl

theorem Registry.answer_of_read {config : Config} {time : Nat} {call : Operation}
    {args : List Json} {request : Request} (read : Request.read call args = .ok request) :
    answer config time call args = perform config time request := by
  rw [answer, read]
  rfl

namespace Session

variable {s : Session} {time : Nat} {invocation : Invocation}

theorem perform_ok {answer : Answer} (succeeded : (s.perform time invocation).2 = .ok answer) :
    ∃ r r' request, s.registry = some r ∧ invocation.request? = some request ∧
      Registry.perform s.config time request r = .ok answer r' ∧
      (s.perform time invocation).1 = { s with registry := some r' } := by
  obtain ⟨config, registry⟩ := s
  unfold perform at succeeded ⊢
  unfold Invocation.request?
  cases known : Operation.ofName? invocation.call with
  | none => rw [known] at succeeded; cases succeeded
  | some call =>
      rw [known] at succeeded
      cases registry with
      | none => cases succeeded
      | some r =>
          unfold withRegistry at succeeded ⊢
          cases ran : Registry.answer config time call invocation.args r with
          | error fault r' => simp [ran] at succeeded
          | ok given r' =>
              obtain ⟨request, read, performed⟩ := lift_bind_ok.mp ran
              obtain rfl : given = answer := by simpa [ran] using succeeded
              exact ⟨r, r', request, rfl, by simp [read, Except.toOption], performed, by simp [ran]⟩

theorem perform_of_read {call : Operation} {request : Request}
    (known : Operation.ofName? invocation.call = some call)
    (read : Request.read call invocation.args = .ok request) :
    s.perform time invocation = s.withRegistry (Registry.perform s.config time request) := by
  rw [perform, known, ← Registry.answer_of_read read]

/-! ## Histories -/

def history (s : Session) (calls : List (Nat × Invocation)) : List Turn :=
  (calls.zip (s.run calls).2).map fun (call, outcome) => ⟨call.1, call.2, outcome⟩

theorem history_cons (s : Session) (time : Nat) (invocation : Invocation)
    (rest : List (Nat × Invocation)) :
    s.history ((time, invocation) :: rest) =
      ⟨time, invocation, (s.perform time invocation).2⟩ ::
        (s.perform time invocation).1.history rest := rfl

theorem run_append (s : Session) (front rest : List (Nat × Invocation)) :
    (s.run (front ++ rest)).1 = ((s.run front).1.run rest).1 := by
  induction front generalizing s with
  | nil => rfl
  | cons call front ih => exact ih _

theorem history_append (s : Session) (front rest : List (Nat × Invocation)) :
    s.history (front ++ rest) = s.history front ++ (s.run front).1.history rest := by
  induction front generalizing s with
  | nil => rfl
  | cons call front ih =>
      obtain ⟨time, invocation⟩ := call
      rw [List.cons_append, history_cons, history_cons, ih, List.cons_append, run_cons]

theorem calls_of_history {calls : List (Nat × Invocation)} {before since : List Turn} {turn : Turn}
    (split : s.history calls = before ++ turn :: since) :
    ∃ front time invocation rest, calls = front ++ (time, invocation) :: rest ∧
      turn = ⟨time, invocation, ((s.run front).1.perform time invocation).2⟩ ∧
      since = ((s.run front).1.perform time invocation).1.history rest := by
  induction before generalizing s calls with
  | nil =>
      cases calls with
      | nil => cases split
      | cons call rest =>
          obtain ⟨rfl, rfl⟩ := List.cons.inj split
          exact ⟨[], call.1, call.2, rest, rfl, rfl, rfl⟩
  | cons first before ih =>
      cases calls with
      | nil => cases split
      | cons call calls =>
          obtain ⟨front, time, invocation, rest, rfl, answered, others⟩ :=
            ih (List.cons.inj split).2
          exact ⟨call :: front, time, invocation, rest, rfl, answered, others⟩

/-! ## What calls keep -/

section

variable {holds : Registry → Prop}
  (step : ∀ {config time request answer r r'},
    Registry.perform config time request r = .ok answer r' → holds r → holds r')

include step

theorem forall_registry_perform (before : ∀ r, s.registry = some r → holds r) (time : Nat)
    (invocation : Invocation) : ∀ r, (s.perform time invocation).1.registry = some r → holds r := by
  cases outcome : (s.perform time invocation).2 with
  | error fault => rwa [perform_failed outcome]
  | ok answer =>
      obtain ⟨r, r', request, here, -, performed, after⟩ := perform_ok outcome
      rw [after]
      rintro _ ⟨⟩
      exact step performed (before r here)

theorem forall_registry_run (before : ∀ r, s.registry = some r → holds r)
    (calls : List (Nat × Invocation)) : ∀ r, (s.run calls).1.registry = some r → holds r := by
  induction calls generalizing s with
  | nil => exact before
  | cons call rest ih => exact ih (forall_registry_perform step before call.1 call.2)

end

def Sound (s : Session) : Prop := ∀ r, s.registry = some r → r.Sound

def theorem? (s : Session) (name : String) : Option Theorem :=
  s.registry.bind (·.theorems.get? name)

theorem sound_init (config : Config) : (init { config }).Sound := by
  rintro _ ⟨⟩
  exact Registry.sound_fresh

theorem success?_of_ok {answer : Answer} {request : Request}
    (requested : invocation.request? = some request) :
    (Turn.mk time invocation (.ok answer)).success? = some (request, answer) := by
  simp [Turn.success?, requested]

theorem Sound.perform (sound : s.Sound) (time : Nat) (invocation : Invocation) :
    (s.perform time invocation).1.Sound :=
  forall_registry_perform (fun performed => (perform_effect performed).sound) sound time invocation

theorem Sound.run (sound : s.Sound) (calls : List (Nat × Invocation)) :
    (s.run calls).1.Sound :=
  forall_registry_run (fun performed => (perform_effect performed).sound) sound calls

theorem find_perform (sound : s.Sound) (time : Nat) (invocation : Invocation) (name : String) :
    (s.perform time invocation).1.theorem? name =
      (Turn.mk time invocation (s.perform time invocation).2).leaves name (s.theorem? name) := by
  cases outcome : (s.perform time invocation).2 with
  | error fault =>
      have failed : (Turn.mk time invocation (.error fault)).success? = none :=
        Turn.success?_eq_none_of_error rfl
      rw [perform_failed outcome, Turn.leaves_of_failed failed]
  | ok answer =>
      obtain ⟨r, r', request, before, requested, performed, after⟩ := perform_ok outcome
      have effect := perform_effect performed
      rw [after, theorem?, theorem?, before]
      exact find_effect (success?_of_ok requested) (sound r before) effect name

theorem perform_of_success {request : Request} {answer : Answer}
    (success : (Turn.mk time invocation (s.perform time invocation).2).success? =
      some (request, answer)) :
    ∃ r r', s.registry = some r ∧ Registry.perform s.config time request r = .ok answer r' := by
  cases outcome : (s.perform time invocation).2 with
  | error fault =>
      rw [outcome, Turn.success?_eq_none_of_error rfl] at success
      cases success
  | ok given =>
      obtain ⟨r, r', asked, before, requested, performed, -⟩ := perform_ok outcome
      rw [outcome, success?_of_ok requested] at success
      cases success
      exact ⟨r, r', before, performed⟩

theorem free_of_definition {t : Theorem}
    (defined : (Turn.mk time invocation (s.perform time invocation).2).definition? = some t) :
    s.theorem? t.name = none := by
  obtain ⟨answer, success⟩ := Turn.success_of_definition defined
  obtain ⟨r, r', before, performed⟩ := perform_of_success success
  cases perform_effect performed with
  | quiet quiet => cases quiet
  | defined free =>
      rw [theorem?, before, Option.bind_some, Store.get?_eq_none_of_free free]

theorem checked_perform (s : Session) (time : Nat) (invocation : Invocation) :
    (Turn.mk time invocation (s.perform time invocation).2).Checked := by
  intro name steps proven
  obtain ⟨r, r', -, performed⟩ := perform_of_success (Turn.success_of_provenWith proven)
  cases perform_effect performed with
  | quiet quiet => cases quiet
  | checked _ verdict => exact verdict.symm

theorem find_definition (sound : s.Sound) {t : Theorem}
    (defined : (Turn.mk time invocation (s.perform time invocation).2).definition? = some t) :
    (s.perform time invocation).1.theorem? t.name = some t := by
  rw [find_perform sound, Turn.leaves_of_defined defined, if_pos rfl]

theorem find_kept (sound : s.Sound) {t : Theorem} {name : String}
    (found : s.theorem? name = some t)
    (noReset : (Turn.mk time invocation (s.perform time invocation).2).isReset = false) :
    (s.perform time invocation).1.theorem? name =
      some (t.after ⟨time, invocation, (s.perform time invocation).2⟩) := by
  rw [find_perform sound, found]
  cases defined : (Turn.mk time invocation (s.perform time invocation).2).definition? with
  | none => rw [Turn.leaves, noReset, defined]; rfl
  | some new =>
      have apart : new.name ≠ name := by
        rintro rfl
        rw [free_of_definition defined] at found
        cases found
      rw [Turn.leaves_of_defined defined, if_neg apart, Turn.after_of_defined defined]

theorem find_perform_inv (sound : s.Sound) {t : Theorem} {name : String}
    (found : (s.perform time invocation).1.theorem? name = some t) :
    ((Turn.mk time invocation (s.perform time invocation).2).definition? = some t ∧
        t.name = name) ∨
      (Turn.mk time invocation (s.perform time invocation).2).isReset = false ∧
        ∃ old, s.theorem? name = some old ∧
          t = old.after ⟨time, invocation, (s.perform time invocation).2⟩ := by
  cases kept : (Turn.mk time invocation (s.perform time invocation).2).isReset with
  | true =>
      rw [find_perform sound, Turn.leaves, kept] at found
      cases found
  | false =>
      cases before : s.theorem? name with
      | some old =>
          rw [find_kept sound before kept] at found
          exact .inr ⟨rfl, old, rfl, (Option.some.inj found).symm⟩
      | none =>
          rw [find_perform sound, before, Turn.leaves, kept] at found
          cases defined : (Turn.mk time invocation (s.perform time invocation).2).definition? with
          | none => rw [defined] at found; cases found
          | some new =>
              rw [defined] at found
              by_cases named : new.name = name
              · simp [named] at found
                exact .inl ⟨by rw [found], found ▸ named⟩
              · simp [named] at found

/-! ## Whole runs -/

theorem registry_run {r : Registry} (present : s.registry = some r)
    (calls : List (Nat × Invocation)) : ∃ r', (s.run calls).1.registry = some r' := by
  induction calls generalizing s r with
  | nil => exact ⟨r, present⟩
  | cons call rest ih =>
      obtain ⟨time, invocation⟩ := call
      cases outcome : (s.perform time invocation).2 with
      | error fault =>
          rw [run_cons, perform_failed outcome]
          exact ih present
      | ok answer =>
          obtain ⟨-, r', -, -, -, -, after⟩ := perform_ok outcome
          have present' : (s.perform time invocation).1.registry = some r' := by rw [after]
          exact ih present'

theorem find_run (sound : s.Sound) {t : Theorem} {name : String} {calls : List (Nat × Invocation)}
    (found : s.theorem? name = some t)
    (noReset : ∀ turn ∈ s.history calls, turn.isReset = false) :
    (s.run calls).1.theorem? name = some ((s.history calls).foldl Theorem.after t) := by
  induction calls generalizing s t with
  | nil => exact found
  | cons call rest ih =>
      obtain ⟨time, invocation⟩ := call
      rw [history_cons] at noReset
      have kept := find_kept sound found (noReset _ (List.mem_cons_self ..))
      exact ih (sound.perform time invocation) kept fun turn mem =>
        noReset turn (List.mem_cons_of_mem _ mem)

end Session

/-- A theorem that was defined in a history and not reset, with the turns since then. -/
def DefinedIn (history : List Turn) (t : Theorem) (since : List Turn) : Prop :=
  ∃ before turn, history = before ++ turn :: since ∧ turn.definition? = some t ∧
    ∀ later ∈ since, later.isReset = false

theorem DefinedIn.later {history since : List Turn} {t : Theorem}
    (definition : DefinedIn history t since) (first : Turn) :
    DefinedIn (first :: history) t since := by
  obtain ⟨before, turn, split, defined, noReset⟩ := definition
  exact ⟨first :: before, turn, congrArg (first :: ·) split, defined, noReset⟩

theorem DefinedIn.mem {history since : List Turn} {t : Theorem}
    (definition : DefinedIn history t since) {turn : Turn} (mem : turn ∈ since) :
    turn ∈ history := by
  obtain ⟨before, first, rfl, -⟩ := definition
  exact List.mem_append_right before (List.mem_cons_of_mem first mem)

namespace Session

variable {s : Session}

theorem find_defined (sound : s.Sound) {t : Theorem} {since : List Turn}
    {calls : List (Nat × Invocation)} (definition : DefinedIn (s.history calls) t since) :
    (s.run calls).1.theorem? t.name = some (since.foldl Theorem.after t) := by
  obtain ⟨before, turn, split, defined, noReset⟩ := definition
  obtain ⟨front, time, invocation, rest, rfl, rfl, rfl⟩ := calls_of_history split
  have sound' : (s.run front).1.Sound := sound.run front
  rw [run_append, run_cons]
  exact find_run (sound'.perform time invocation) (find_definition sound' defined) noReset

theorem origin_of_find (sound : s.Sound) {t : Theorem} {name : String}
    {calls : List (Nat × Invocation)} (found : (s.run calls).1.theorem? name = some t) :
    (∃ new since, DefinedIn (s.history calls) new since ∧ new.name = name ∧
        t = since.foldl Theorem.after new) ∨
      ∃ old, s.theorem? name = some old ∧ (∀ turn ∈ s.history calls, turn.isReset = false) ∧
        t = (s.history calls).foldl Theorem.after old := by
  induction calls generalizing s with
  | nil => exact .inr ⟨t, found, List.forall_mem_nil _, rfl⟩
  | cons call rest ih =>
      obtain ⟨time, invocation⟩ := call
      rw [history_cons]
      rcases ih (sound.perform time invocation) found with
        ⟨new, since, definition, named, rfl⟩ | ⟨middle, there, noReset, rfl⟩
      · exact .inl ⟨new, since, definition.later _, named, rfl⟩
      · rcases find_perform_inv sound there with ⟨defined, named⟩ | ⟨kept, old, was, rfl⟩
        · exact .inl ⟨middle, _, ⟨[], _, rfl, defined, noReset⟩, named, rfl⟩
        · refine .inr ⟨old, was, ?_, rfl⟩
          intro turn mem
          rcases List.mem_cons.mp mem with rfl | later
          · exact kept
          · exact noReset turn later

theorem forall_history {holds : Turn → Prop}
    (each : ∀ (s : Session) (time : Nat) (invocation : Invocation),
      holds ⟨time, invocation, (s.perform time invocation).2⟩)
    (s : Session) (calls : List (Nat × Invocation)) : ∀ turn ∈ s.history calls, holds turn := by
  induction calls generalizing s with
  | nil => exact List.forall_mem_nil _
  | cons call rest ih =>
      obtain ⟨time, invocation⟩ := call
      rw [history_cons, List.forall_mem_cons]
      exact ⟨each s time invocation, ih _⟩

theorem checked_history (s : Session) (calls : List (Nat × Invocation)) :
    ∀ turn ∈ s.history calls, turn.Checked :=
  forall_history checked_perform s calls

end Session

end Proofbook
