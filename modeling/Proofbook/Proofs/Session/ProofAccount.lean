import Proofbook.Proofs.Session.Reporting
import Mathlib.Data.List.Induction

namespace Proofbook

open Proofbook.Action

/-! ## Lists of steps -/

structure Proof.Lists (proof : Proof) (goal : String) (steps : List Step) : Prop where
  goal : proof.goal = goal
  formulas : proof.steps = steps.map Step.formula
  justifications : proof.justifications = steps.map Step.justification
  some : steps ≠ []

namespace Proof

variable {proof : Proof} {goal : String} {steps : List Step}

theorem Lists.push (lists : proof.Lists goal steps) (step : Step) :
    (proof.push step).Lists goal (steps ++ [step]) := by
  refine ⟨lists.goal, ?_, ?_, by simp⟩
  · simp [Proof.push, lists.formulas]
  · simp [Proof.push, lists.justifications]

theorem lists_first (goal : String) (step : Step) :
    ((empty goal).push step).Lists goal [step] := ⟨rfl, rfl, rfl, nofun⟩

theorem lists_concluded {valid : Bool} {time : Nat} (some : steps ≠ []) :
    (concluded goal steps valid time).Lists goal steps := ⟨rfl, rfl, rfl, some⟩

theorem Lists.aligned (lists : proof.Lists goal steps) :
    proof.steps.length = proof.justifications.length ∧ 0 < proof.steps.length := by
  rw [lists.formulas, lists.justifications]
  exact ⟨by simp, by simpa using List.length_pos_iff.mpr lists.some⟩

/-- Steps are paired with justifications as far as both lists reach, which is to their end. -/
theorem Lists.paired (lists : proof.Lists goal steps) :
    proof.steps.zipWith Step.mk proof.justifications = steps := by
  rw [lists.formulas, lists.justifications, List.zipWith_map, List.zipWith_self]
  exact List.map_id steps

theorem Lists.events (lists : proof.Lists goal steps) :
    proof.events = .opening goal :: steps.mapIdx Step.event ++ [.closing goal] := by
  rw [Proof.events, lists.paired, lists.goal]

end Proof

/-! ## The turns since a definition -/

def Turn.added (name : String) (turns : List Turn) : List Step :=
  turns.filterMap (·.appended? name)

def Turn.EndsValid (name : String) (turns : List Turn) : Prop :=
  ∃ earlier turn later steps, turns = earlier ++ turn :: later ∧
    turn.checked? name = some (steps, true) ∧ ∀ u ∈ later, u.touches name = false

/-- What turns have made a working proof of, and the state in which they left it. -/
inductive Proof.MadeBy (name : String) (turns : List Turn) (proof : Proof) : Prop where
  | added (unchecked : ∀ turn ∈ turns, turn.checked? name = none)
      (lists : proof.Lists name (Turn.added name turns)) (state : proof.state = .accumulating)
  | checked {earlier later : List Turn} {turn : Turn} {steps : List Step} {valid : Bool}
      (split : turns = earlier ++ turn :: later)
      (checked : turn.checked? name = some (steps, valid))
      (unchecked : ∀ u ∈ later, u.checked? name = none)
      (lists : proof.Lists name (steps ++ Turn.added name later))
      (settled : Turn.added name later = [] → valid = checkSteps proof.steps ∧
        proof.state = if valid then .verifiedValid else .verifiedInvalid)
      (reopened : Turn.added name later ≠ [] → proof.state = .accumulating)

namespace Turn

variable {name : String} {turn : Turn} {turns : List Turn}

theorem touches_eq_false :
    turn.touches name = false ↔ turn.appended? name = none ∧ turn.checked? name = none := by
  simp [touches]

theorem added_snoc (name : String) (turns : List Turn) (turn : Turn) :
    added name (turns ++ [turn]) = added name turns ++ (turn.appended? name).toList := by
  cases appended : turn.appended? name <;> simp [added, appended]

theorem added_eq_nil : added name turns = [] ↔ ∀ turn ∈ turns, turn.appended? name = none :=
  List.filterMap_eq_nil_iff

end Turn

namespace Proof

variable {name : String} {turn : Turn} {turns : List Turn} {found : Option Proof} {proof : Proof}

theorem isSome_after (name : String) (found : Option Proof) (turn : Turn) :
    (after name found turn).isSome = (found.isSome || turn.touches name) := by
  unfold after Turn.touches
  cases turn.checked? name with
  | some outcome => simp
  | none => cases turn.appended? name <;> simp

theorem isSome_foldl (name : String) (turns : List Turn) (found : Option Proof) :
    (turns.foldl (after name) found).isSome = (found.isSome || turns.any (·.touches name)) := by
  induction turns generalizing found with
  | nil => simp
  | cons turn rest ih => rw [List.foldl_cons, ih, isSome_after, List.any_cons, Bool.or_assoc]

theorem foldl_untouched (untouched : ∀ turn ∈ turns, turn.touches name = false)
    (found : Option Proof) : turns.foldl (after name) found = found := by
  induction turns with
  | nil => rfl
  | cons turn rest ih =>
      rw [List.forall_mem_cons] at untouched
      rw [List.foldl_cons, after_of_untouched untouched.1, ih untouched.2]

/-! One more turn -/

theorem madeBy_concluded {steps : List Step} {valid : Bool}
    (checked : turn.checked? name = some (steps, valid))
    (passed : steps ≠ [] ∧ valid = checkSteps (steps.map Step.formula)) :
    (concluded name steps valid turn.time).MadeBy name (turns ++ [turn]) := by
  refine .checked rfl checked (List.forall_mem_nil _) ?_ ?_ nofun
  · rw [Turn.added, List.filterMap_nil, List.append_nil]
    exact lists_concluded passed.1
  · exact fun _ => ⟨passed.2, rfl⟩

theorem unchecked_snoc (unchecked : ∀ u ∈ turns, u.checked? name = none)
    (noCheck : turn.checked? name = none) : ∀ u ∈ turns ++ [turn], u.checked? name = none :=
  List.forall_mem_append.mpr ⟨unchecked, List.forall_mem_singleton.mpr noCheck⟩

theorem madeBy_first {step : Step} (untouched : ∀ u ∈ turns, u.touches name = false)
    (noCheck : turn.checked? name = none) (appended : turn.appended? name = some step) :
    ((empty name).push step).MadeBy name (turns ++ [turn]) := by
  have nothing : Turn.added name turns = [] :=
    Turn.added_eq_nil.mpr fun u mem => (Turn.touches_eq_false.mp (untouched u mem)).1
  refine .added (unchecked_snoc ?_ noCheck) ?_ rfl
  · exact fun u mem => (Turn.touches_eq_false.mp (untouched u mem)).2
  · rw [Turn.added_snoc, nothing, appended]
    exact lists_first name step

theorem MadeBy.push {step : Step} (made : proof.MadeBy name turns)
    (noCheck : turn.checked? name = none) (appended : turn.appended? name = some step) :
    (proof.push step).MadeBy name (turns ++ [turn]) := by
  cases made with
  | added unchecked lists state =>
      refine .added (unchecked_snoc unchecked noCheck) ?_ rfl
      rw [Turn.added_snoc, appended]
      exact lists.push step
  | @checked earlier later check steps valid split checked unchecked lists settled reopened =>
      have more : Turn.added name (later ++ [turn]) = Turn.added name later ++ [step] := by
        rw [Turn.added_snoc, appended]
        rfl
      refine .checked (by rw [split, List.append_assoc]; rfl) checked
        (unchecked_snoc unchecked noCheck) ?_ ?_ fun _ => rfl
      · rw [more, ← List.append_assoc]
        exact lists.push step
      · rw [more]
        exact fun none => absurd none (by simp)

theorem MadeBy.skip (made : proof.MadeBy name turns) (untouched : turn.touches name = false) :
    proof.MadeBy name (turns ++ [turn]) := by
  obtain ⟨noStep, noCheck⟩ := Turn.touches_eq_false.mp untouched
  have same (turns : List Turn) : Turn.added name (turns ++ [turn]) = Turn.added name turns := by
    rw [Turn.added_snoc, noStep]
    exact List.append_nil _
  cases made with
  | added unchecked lists state =>
      exact .added (unchecked_snoc unchecked noCheck) (by rwa [same]) state
  | checked split checked unchecked lists settled reopened =>
      refine .checked (by rw [split, List.append_assoc]; rfl) checked
        (unchecked_snoc unchecked noCheck) ?_ ?_ ?_ <;> rwa [same]

theorem madeBy_of_foldl (performed : ∀ turn ∈ turns, turn.Performed)
    (made : turns.foldl (after name) none = some proof) : proof.MadeBy name turns := by
  -- The account is about the last check and what follows, so turns are added behind.
  induction turns using List.reverseRecOn generalizing proof with
  | nil => cases made
  | append_singleton turns turn ih =>
      obtain ⟨before, last⟩ := List.forall_mem_append.mp performed
      have ih {proof : Proof} := @ih proof before
      rw [List.foldl_append, List.foldl_cons, List.foldl_nil] at made
      cases checked : turn.checked? name with
      | some outcome =>
          rw [after, checked] at made
          obtain rfl := Option.some.inj made
          exact madeBy_concluded checked ((last turn List.mem_cons_self).checked checked)
      | none =>
          cases appended : turn.appended? name with
          | none =>
              rw [after_eq_self checked appended] at made
              exact (ih made).skip (Turn.touches_eq_false.mpr ⟨appended, checked⟩)
          | some step =>
              rw [after, checked, appended] at made
              obtain rfl := Option.some.inj made
              cases found : turns.foldl (after name) none with
              | some old => exact (ih found).push checked appended
              | none =>
                  -- No proof so far means that no turn so far has touched one.
                  have any := isSome_foldl name turns none
                  rw [found] at any
                  have untouched : ∀ u ∈ turns, u.touches name = false := by
                    simpa using any
                  exact madeBy_first untouched checked appended

theorem MadeBy.state_ne_empty (made : proof.MadeBy name turns) : proof.state ≠ .empty := by
  cases made with
  | added _ _ state => simp [state]
  | @checked _ later _ _ valid _ _ _ _ settled reopened =>
      by_cases nothing : Turn.added name later = []
      · rw [(settled nothing).2]
        cases valid <;> nofun
      · simp [reopened nothing]

theorem MadeBy.lists (made : proof.MadeBy name turns) : ∃ steps, proof.Lists name steps := by
  cases made with
  | added _ lists => exact ⟨_, lists⟩
  | checked _ _ _ lists => exact ⟨_, lists⟩

theorem MadeBy.endsValid (made : proof.MadeBy name turns) (valid : proof.isValid = true) :
    Turn.EndsValid name turns := by
  have state : proof.state = .verifiedValid := of_decide_eq_true valid
  cases made with
  | added _ _ accumulating =>
      rw [state] at accumulating
      cases accumulating
  | @checked earlier later turn steps verdict split checked unchecked _ settled reopened =>
      by_cases nothing : Turn.added name later = []
      · have settled := (settled nothing).2
        cases verdict with
        | false => rw [state] at settled; cases settled
        | true =>
            refine ⟨earlier, turn, later, steps, split, checked, fun u mem => ?_⟩
            exact Turn.touches_eq_false.mpr ⟨Turn.added_eq_nil.mp nothing u mem, unchecked u mem⟩
      · have reopened := reopened nothing
        rw [state] at reopened
        cases reopened

theorem valid_of_endsValid (ends : Turn.EndsValid name turns) (found : Option Proof) :
    ∃ proof, turns.foldl (after name) found = some proof ∧ proof.isValid = true := by
  obtain ⟨earlier, turn, later, steps, rfl, checked, untouched⟩ := ends
  refine ⟨.concluded name steps true turn.time, ?_, rfl⟩
  rw [List.foldl_append, List.foldl_cons, foldl_untouched untouched, after, checked]

end Proof

/-! ## Exports -/

namespace Session

variable {s : Session} {time : Nat} {invocation : Invocation}

theorem succeeds_iff {call : Operation} {request : Request}
    (known : Operation.ofName? invocation.call = some call)
    (read : Request.read call invocation.args = .ok request) :
    (s.perform time invocation).2.isOk = true ↔
      ∃ r a r', s.registry = some r ∧ Registry.perform s.config time request r = .ok a r' := by
  rw [perform_of_read known read]
  unfold withRegistry
  cases s.registry with
  | none => simp [Except.isOk, Except.toBool]
  | some r =>
      cases ran : Registry.perform s.config time request r with
      | ok a r' => simp [ran, Except.isOk, Except.toBool]
      | error fault r' => simp [ran, Except.isOk, Except.toBool]

end Session

def exportArguments (name : String) : List (List Json) :=
  [[.string name], [.string name, .string "tstp"], [.string name, .string "markdown"]]

theorem read_exportArguments {name : String} {args : List Json}
    (known : args ∈ exportArguments name) :
    ∃ format, Request.read .proofExport args = .ok (.exportProof name format) ∧
      ∀ proof : Proof, ∃ content, proof.exportAs format = .ok content := by
  simp only [exportArguments, List.mem_cons, List.not_mem_nil, or_false] at known
  rcases known with rfl | rfl | rfl
  · exact ⟨"tstp", rfl, fun _ => ⟨_, rfl⟩⟩
  · exact ⟨"tstp", rfl, fun _ => ⟨_, rfl⟩⟩
  · exact ⟨"markdown", rfl, fun _ => ⟨_, rfl⟩⟩

namespace Registry

variable {r : Registry} {goal : String} {proof : Proof}

theorem exports_iff {config : Config} {time : Nat} {format : String}
    (known : ∀ proof : Proof, ∃ content, proof.exportAs format = .ok content) :
    (∃ a r', perform config time (.exportProof goal format) r = .ok a r') ↔
      ∃ proof, r.proofs.get? goal = some proof ∧ proof.isValid = true := by
  constructor
  · rintro ⟨a, r', ran⟩
    cases performs_of_ok ran with
    | exportProof complete => exact ⟨_, completeProof_ok.mp complete⟩
  · rintro ⟨proof, present, valid⟩
    obtain ⟨content, listed⟩ := known proof
    refine ⟨.listing content, r, ask_bind_ok.mpr ⟨proof, ?_, ?_⟩⟩
    · exact completeProof_ok.mpr ⟨present, valid⟩
    · exact lift_bind_ok.mpr ⟨content, listed, rfl⟩

end Registry

namespace Session

variable {s : Session} {time : Nat} {name : String}

theorem export_succeeds_iff {args : List Json} (known : args ∈ exportArguments name) :
    (s.perform time ⟨"proof_export", args⟩).2.isOk = true ↔
      ∃ proof, s.working? name = some proof ∧ proof.isValid = true := by
  obtain ⟨format, read, listed⟩ := read_exportArguments known
  have called : Operation.ofName? "proof_export" = some .proofExport := rfl
  rw [succeeds_iff called read]
  constructor
  · rintro ⟨r, a, r', present, ran⟩
    obtain ⟨proof, found, valid⟩ := (Registry.exports_iff listed).mp ⟨a, r', ran⟩
    exact ⟨proof, by rw [working?, present]; exact found, valid⟩
  · rintro ⟨proof, found, valid⟩
    obtain ⟨r, present, got⟩ := Option.bind_eq_some_iff.mp found
    obtain ⟨a, r', ran⟩ := (Registry.exports_iff listed).mpr ⟨proof, got, valid⟩
    exact ⟨r, a, r', present, ran⟩

theorem definition_of_working {config : Config} {calls : List (Nat × Invocation)} {proof : Proof}
    (found : ((init { config }).run calls).1.working? name = some proof) :
    ∃ t since, DefinedIn ((init { config }).history calls) t since ∧ t.name = name := by
  have sound := sound_init config
  have owned := (owned_init config).run calls
  cases present : ((init { config }).run calls).1.theorem? name with
  | none =>
      rw [owned.working?_eq_none (sound.run calls) present] at found
      cases found
  | some t =>
      rcases origin_of_find sound present with ⟨new, since, definition, named, -⟩ | ⟨old, was, -⟩
      · exact ⟨new, since, definition, named⟩
      · cases was

end Session

/--
A working proof is what the turns since the definition of its theorem have made, and is exported
exactly if the last of those that worked on it found its steps valid.
-/
theorem working_proof_exactly (config : Config) (calls : List (Nat × Invocation)) :
    let s := ((Session.init { config }).run calls).1
    let history := (Session.init { config }).history calls
    (∀ turn ∈ history, ∀ name, turn.Reports name) ∧
    (∀ name proof, s.working? name = some proof →
      ∃ t since, DefinedIn history t since ∧ t.name = name) ∧
    ∀ t since, DefinedIn history t since →
      ((∃ proof, s.working? t.name = some proof) ↔
        ∃ turn ∈ since, turn.touches t.name = true) ∧
      (∀ proof, s.working? t.name = some proof →
        proof.MadeBy t.name since ∧ proof.state ≠ .empty ∧
        proof.steps.length = proof.justifications.length ∧ 0 < proof.steps.length ∧
        ∃ steps, proof.Lists t.name steps ∧
          proof.events = .opening t.name :: steps.mapIdx Step.event ++ [.closing t.name]) ∧
      ∀ time, ∀ args ∈ exportArguments t.name,
        (s.perform time ⟨"proof_export", args⟩).2.isOk = true ↔
          Turn.EndsValid t.name since := by
  intro s history
  have performed := Session.forall_history Session.performed_perform (Session.init { config }) calls
  refine ⟨?_, fun name proof => Session.definition_of_working, ?_⟩
  · exact fun turn mem name => (performed turn mem).reports name
  · intro t since definition
    have working : s.working? t.name = since.foldl (Proof.after t.name) none :=
      Session.working_defined (Session.sound_init config) (Session.owned_init config) definition
    have made {proof : Proof} (found : s.working? t.name = some proof) :
        proof.MadeBy t.name since := by
      rw [working] at found
      exact Proof.madeBy_of_foldl (fun u mem => performed u (definition.mem mem)) found
    refine ⟨?_, ?_, ?_⟩
    · rw [← Option.isSome_iff_exists, working, Proof.isSome_foldl]
      simp
    · intro proof found
      obtain ⟨steps, lists⟩ := (made found).lists
      obtain ⟨aligned, some⟩ := lists.aligned
      exact ⟨made found, (made found).state_ne_empty, aligned, some, steps, lists, lists.events⟩
    · intro time args known
      rw [Session.export_succeeds_iff known]
      constructor
      · rintro ⟨proof, found, valid⟩
        exact (made found).endsValid valid
      · intro ends
        rw [working]
        exact Proof.valid_of_endsValid ends none

end Proofbook
