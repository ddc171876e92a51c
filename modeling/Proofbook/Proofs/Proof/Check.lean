import Proofbook.Proof.Check

/-!
The loop notes the markers that it meets. One more step adds at most its own marker to the findings
(`notes_of_add`), so in the end they are what was there at first and the markers among the steps
(`notes_of_foldlM`); the loop comes to its end unless a step is inadmissible.
-/

namespace Proofbook

namespace Formula

def IsAdmissible (step : Formula) : Prop := step.isMarker = true ∨ step.wellFormed = true

def IsSoundInference (step : Formula) : Prop :=
  ∃ rule premises, step = inference rule premises ∧ rule.isSound = true

theorem isAdmissible_iff {step : Formula} :
    step.IsAdmissible ↔ (step.isMarker = false → step.wellFormed = true) := by
  unfold IsAdmissible
  cases step.isMarker <;> simp

theorem exists_isSoundInference_iff {steps : List Formula} :
    (∃ step ∈ steps, step.IsSoundInference) ↔
      ∃ rule premises, inference rule premises ∈ steps ∧ rule.isSound = true := by
  constructor
  · rintro ⟨_, mem, rule, premises, rfl, sound⟩
    exact ⟨rule, premises, mem, sound⟩
  · rintro ⟨rule, premises, mem, sound⟩
    exact ⟨_, mem, rule, premises, rfl, sound⟩

theorem isSoundInference_inference {rule : Rule} {premises : List Formula} :
    (inference rule premises).IsSoundInference ↔ rule.isSound = true := by
  constructor
  · rintro ⟨_, _, ⟨⟩, sound⟩
    exact sound
  · intro sound
    exact ⟨rule, premises, rfl, sound⟩

end Formula

namespace Findings

variable {found found' found'' : Findings} {step : Formula} {steps steps' : List Formula}

/-- The later findings are the earlier ones and the markers among the steps. -/
structure Notes (found : Findings) (steps : List Formula) (found' : Findings) : Prop where
  premise : found'.premise = true ↔ found.premise = true ∨ .premise ∈ steps
  inference : found'.inference = true ↔
    found.inference = true ∨ ∃ step ∈ steps, step.IsSoundInference
  conclusion : found'.conclusion = true ↔ found.conclusion = true ∨ .conclusion ∈ steps

theorem notes_nil : Notes found [] found where
  premise := by simp
  inference := by simp
  conclusion := by simp

theorem Notes.cons (first : Notes found [step] found') (rest : Notes found' steps found'') :
    Notes found (step :: steps) found'' where
  premise := by simp [rest.premise, first.premise, or_assoc]
  inference := by simp [rest.inference, first.inference, or_assoc]
  conclusion := by simp [rest.conclusion, first.conclusion, or_assoc]

/-! ## One step -/

theorem add_statement (unmarked : step.isMarker = false) :
    found.add step = if step.wellFormed then some found else .none := by
  cases step with
  | premise | conclusion | inference => cases unmarked
  | _ => rfl

theorem isSome_add (found : Findings) (step : Formula) :
    (found.add step).isSome = true ↔ step.IsAdmissible := by
  cases step with
  | premise | conclusion | inference => exact iff_of_true rfl (.inl rfl)
  | _ =>
      rw [add_statement rfl]
      simp [Formula.IsAdmissible, Formula.isMarker]

theorem notes_of_add (noted : found.add step = some found') : Notes found [step] found' := by
  cases step with
  | premise | conclusion =>
      obtain rfl := Option.some.inj noted
      constructor <;> simp [Formula.IsSoundInference]
  | inference rule premises =>
      obtain rfl := Option.some.inj noted
      constructor <;> simp [Formula.isSoundInference_inference]
  | _ =>
      -- A statement leaves the findings as they are.
      rw [add_statement rfl, Option.ite_none_right_eq_some] at noted
      obtain rfl := Option.some.inj noted.2
      constructor <;> simp [Formula.IsSoundInference]

/-! ## All steps -/

theorem isSome_foldlM (found : Findings) (steps : List Formula) :
    (steps.foldlM add found).isSome = true ↔ ∀ step ∈ steps, step.IsAdmissible := by
  induction steps generalizing found with
  | nil => simp
  | cons step steps ih =>
      rw [List.foldlM_cons, List.forall_mem_cons, ← isSome_add found step]
      cases found.add step with
      | none => simp
      | some found' => simp [ih found']

theorem notes_of_foldlM (read : steps.foldlM add found = some found') :
    Notes found steps found' := by
  induction steps generalizing found with
  | nil =>
      obtain rfl := Option.some.inj read
      exact notes_nil
  | cons step steps ih =>
      rw [List.foldlM_cons] at read
      obtain ⟨between, noted, rest⟩ := Option.bind_eq_some_iff.mp read
      exact (notes_of_add noted).cons (ih rest)

theorem isComplete_iff : found.isComplete = true ↔
    found.premise = true ∧ found.inference = true ∧ found.conclusion = true := by
  simp [isComplete, and_assoc]

end Findings

/-! ## The verdict -/

variable {steps steps' : List Formula}

theorem checkSteps_iff :
    checkSteps steps = true ↔
      .premise ∈ steps ∧ .conclusion ∈ steps ∧ (∃ step ∈ steps, step.IsSoundInference) ∧
        ∀ step ∈ steps, step.IsAdmissible := by
  have admitted := Findings.isSome_foldlM .none steps
  unfold checkSteps
  cases read : steps.foldlM Findings.add Findings.none with
  | none =>
      rw [read] at admitted
      simp [← admitted]
  | some found =>
      rw [read] at admitted
      have notes := Findings.notes_of_foldlM read
      have premise : found.premise = true ↔ .premise ∈ steps := by
        simpa [Findings.none] using notes.premise
      have inference : found.inference = true ↔ ∃ step ∈ steps, step.IsSoundInference := by
        simpa [Findings.none] using notes.inference
      have conclusion : found.conclusion = true ↔ .conclusion ∈ steps := by
        simpa [Findings.none] using notes.conclusion
      rw [Findings.isComplete_iff, premise, inference, conclusion, ← admitted]
      simp [and_comm]

theorem checkSteps_congr (same : ∀ step, step ∈ steps ↔ step ∈ steps') :
    checkSteps steps = checkSteps steps' := by
  rw [Bool.eq_iff_iff, checkSteps_iff, checkSteps_iff]
  simp only [same]

theorem checkSteps_mono (included : steps ⊆ steps')
    (admissible : ∀ step ∈ steps', step ∈ steps ∨ step.IsAdmissible)
    (passed : checkSteps steps = true) : checkSteps steps' = true := by
  obtain ⟨premise, conclusion, ⟨step, mem, sound⟩, old⟩ := checkSteps_iff.mp passed
  refine checkSteps_iff.mpr
    ⟨included premise, included conclusion, ⟨step, included mem, sound⟩, fun step mem => ?_⟩
  exact (admissible step mem).elim (old step) id

theorem checkSteps_of_inadmissible {step : Formula} (mem : step ∈ steps)
    (inadmissible : ¬step.IsAdmissible) : checkSteps steps = false := by
  rw [← Bool.not_eq_true, checkSteps_iff]
  rintro ⟨-, -, -, each⟩
  exact inadmissible (each step mem)

theorem checkSteps_insert {before after : List Formula} {step : Formula}
    (admissible : step.IsAdmissible) (passed : checkSteps (before ++ after) = true) :
    checkSteps (before ++ step :: after) = true := by
  refine checkSteps_mono (fun old mem => ?_) (fun old mem => ?_) passed
  · rw [List.mem_append, List.mem_cons]
    exact (List.mem_append.mp mem).imp_right .inr
  · rcases List.mem_append.mp mem with first | later
    · exact .inl (List.mem_append_left _ first)
    · rcases List.mem_cons.mp later with rfl | later
      · exact .inr admissible
      · exact .inl (List.mem_append_right _ later)

theorem check_requires :
    (∀ steps : List Formula, checkSteps steps = true ↔
      Formula.premise ∈ steps ∧ Formula.conclusion ∈ steps ∧
      (∃ rule premises, Formula.inference rule premises ∈ steps ∧ rule.isSound = true) ∧
      ∀ step ∈ steps, step.isMarker = false → step.wellFormed = true) ∧
    (∀ steps steps' : List Formula, steps.Perm steps' → checkSteps steps = checkSteps steps') ∧
    (∀ (before after : List Formula) (step : Formula),
      step.isMarker = true ∨ step.wellFormed = true → checkSteps (before ++ after) = true →
      checkSteps (before ++ step :: after) = true) ∧
    ∀ (before after : List Formula) (step : Formula), step.isMarker = false →
      step.wellFormed = false → checkSteps (before ++ step :: after) = false := by
  refine ⟨fun steps => ?_, fun steps steps' permuted => ?_, ?_, ?_⟩
  · rw [checkSteps_iff, Formula.exists_isSoundInference_iff]
    simp only [Formula.isAdmissible_iff]
  · exact checkSteps_congr fun step => permuted.mem_iff
  · intro before after step admissible passed
    exact checkSteps_insert admissible passed
  · intro before after step unmarked illFormed
    apply checkSteps_of_inadmissible (List.mem_append_right before List.mem_cons_self)
    simp [Formula.IsAdmissible, unmarked, illFormed]

theorem check_requires_inserted :
    let first : List Formula := [.premise]
    let last : List Formula := [.inference .postulate [], .conclusion]
    let unsound : Formula := .inference .assumption []
    let number : Formula := .number .zero
    (first ++ last).Perm (last ++ first) ∧
      checkSteps (first ++ last) = checkSteps (last ++ first) ∧
      (unsound.isMarker = true ∨ unsound.wellFormed = true) ∧ checkSteps (first ++ last) = true ∧
      checkSteps (first ++ unsound :: last) = true ∧
      number.isMarker = false ∧ number.wellFormed = false ∧
      checkSteps (first ++ number :: last) = false := by
  intro first last unsound number
  obtain ⟨exactly, order, insertion, refusal⟩ := check_requires
  have permuted : (first ++ last).Perm (last ++ first) := List.perm_append_comm
  have passed : checkSteps (first ++ last) = true := by
    refine (exactly _).mpr ⟨by simp [first], by simp [last], ?_, ?_⟩
    · exact ⟨.postulate, [], by simp [last], rfl⟩
    · simp [first, last, Formula.isMarker]
  exact ⟨permuted, order _ _ permuted, .inl rfl, passed,
    insertion first last unsound (.inl rfl) passed, rfl, rfl, refusal first last number rfl rfl⟩

end Proofbook
