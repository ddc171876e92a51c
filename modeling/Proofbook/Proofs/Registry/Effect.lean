import Proofbook.Proofs.Registry.Performance

namespace Proofbook

open Registry Proofbook.Action

def Request.isQuiet : Request → Bool
  | defineTheorem .. | verifyTheorem _ | addStep .. | verifyProof .. | reset _ => false
  | _ => true

inductive Effect (time : Nat) (r r' : Registry) : Request → Answer → Prop where
  | quiet {request : Request} {answer : Answer} (quiet : request.isQuiet = true)
      (theorems : r'.theorems = r.theorems) (proofs : r'.proofs = r.proofs) :
      Effect time r r' request answer
  | defined {name : String} {statement : Formula} {hypotheses : List Formula}
      {goal : Option Formula} {answer : Answer}
      (free : r.theorems.contains name = false)
      (wellFormed : Theorem.isWellFormed { name, statement, hypotheses, conclusion := goal })
      (theorems : r'.theorems =
        r.theorems.insert name { name, statement, hypotheses, conclusion := goal })
      (proofs : r'.proofs = r.proofs) :
      Effect time r r' (.defineTheorem name statement hypotheses goal) answer
  | verified {name : String} {t : Theorem} (found : r.theorems.get? name = some t)
      (theorems : r'.theorems =
        if (t.statement.wellFormed && t.hypotheses.all Formula.wellFormed) &&
            (t.proof.any Proof.isValid || t.isEntailed) then
          r.theorems.modify name Theorem.markProven
        else r.theorems)
      (proofs : r'.proofs = r.proofs) {answer : Answer} :
      Effect time r r' (.verifyTheorem name) answer
  | extended {goal : String} {step : Step} {proof : Proof} {mid : Registry}
      (opened : openProof goal r = .ok proof mid) (theorems : r'.theorems = r.theorems)
      (proofs : r'.proofs = mid.proofs.modify goal (·.push step)) {answer : Answer} :
      Effect time r r' (.addStep goal step) answer
  | checked {goal : String} {steps : List Step} {proof concluded : Proof} {mid : Registry}
      {valid : Bool} (opened : openProof goal r = .ok proof mid)
      (verdict : valid = checkSteps (steps.map Step.formula))
      (outcome : concluded = proof.conclude (steps.map Step.formula)
        (steps.map Step.justification) valid time)
      (theorems : r'.theorems =
        if valid then r.theorems.modify goal (·.prove concluded) else r.theorems)
      (proofs : r'.proofs = mid.proofs.modify goal fun _ => concluded) :
      Effect time r r' (.verifyProof goal steps) (.verdict valid)
  | reset {confirmed : Bool} {answer : Answer} (anew : r' = fresh) :
      Effect time r r' (.reset confirmed) answer

variable {config : Config} {time : Nat} {r r' : Registry} {request : Request} {answer : Answer}

theorem perform_effect (ran : perform config time request r = .ok answer r') :
    Effect time r r' request answer := by
  cases performs_of_ok ran with
  | defineTheorem made free wellFormed =>
      subst made
      exact .defined free wellFormed rfl rfl
  | verifyTheorem found judged =>
      subst judged
      refine .verified found ?_ ?_ <;> split <;> rfl
  | addStep known opened =>
      refine .extended opened ?_ rfl
      exact (openProof_frame opened).1
  | verifyProof known some verdict opened outcome =>
      refine .checked opened verdict outcome ?_ rfl
      simp only [(openProof_frame opened).1]
  | derive => refine .quiet rfl ?_ ?_ <;> split <;> rfl
  | reset => exact .reset rfl
  | _ => exact .quiet rfl rfl rfl

/-! ## What always holds -/

structure Theorem.Sound (t : Theorem) : Prop where
  wellFormed : t.isWellFormed = true
  attached : ∀ proof, t.proof = some proof → proof.isValid = true

structure Registry.Sound (r : Registry) : Prop where
  theorems : r.theorems.Coherent Theorem.name
  proofs : r.proofs.Coherent Proof.goal
  each : ∀ t ∈ r.theorems.items, t.Sound

theorem Theorem.Sound.markProven {t : Theorem} (sound : t.Sound) : t.markProven.Sound :=
  ⟨sound.wellFormed, sound.attached⟩

theorem Theorem.Sound.prove {t : Theorem} (sound : t.Sound) {proof : Proof}
    (valid : proof.isValid = true) : (t.prove proof).Sound := by
  refine ⟨sound.wellFormed, ?_⟩
  rintro _ ⟨⟩
  exact valid

namespace Registry

theorem sound_fresh : fresh.Sound where
  theorems := Store.coherent_empty
  proofs := Store.coherent_empty
  each := by
    intro t mem
    cases mem

theorem Sound.openProof (sound : r.Sound) {goal : String} {proof : Proof}
    (opened : openProof goal r = .ok proof r') :
    proof.goal = goal ∧ r'.proofs.Coherent Proof.goal := by
  rcases openProof_ok.mp opened with ⟨-, found, rfl⟩ | ⟨free, rfl, rfl⟩
  · exact ⟨(sound.proofs.get?_eq_some_iff.mp found).2, sound.proofs⟩
  · exact ⟨rfl, sound.proofs.insert free⟩

end Registry

theorem Effect.sound (effect : Effect time r r' request answer) (sound : r.Sound) : r'.Sound := by
  cases effect with
  | quiet _ theorems proofs =>
      exact ⟨theorems ▸ sound.theorems, proofs ▸ sound.proofs, theorems ▸ sound.each⟩
  | defined free wellFormed theorems proofs =>
      refine ⟨theorems ▸ sound.theorems.insert free, proofs ▸ sound.proofs, ?_⟩
      rw [theorems]
      exact Store.forall_insert sound.each ⟨wellFormed, nofun⟩ _
  | verified _ theorems proofs =>
      refine ⟨?_, proofs ▸ sound.proofs, ?_⟩ <;> rw [theorems] <;> split
      · exact sound.theorems.modify fun _ named => named
      · exact sound.theorems
      · exact Store.forall_modify sound.each (fun _ old => old.markProven) _
      · exact sound.each
  | extended opened theorems proofs =>
      refine ⟨theorems ▸ sound.theorems, ?_, theorems ▸ sound.each⟩
      rw [proofs]
      exact (sound.openProof opened).2.modify fun _ named => named
  | @checked goal steps proof concluded mid valid opened verdict outcome theorems proofs =>
      obtain ⟨named, coherent⟩ := sound.openProof opened
      have concludedName : concluded.goal = goal := by
        rw [outcome]
        exact named
      refine ⟨?_, ?_, ?_⟩
      · rw [theorems]
        split
        · exact sound.theorems.modify fun _ named => named
        · exact sound.theorems
      · rw [proofs]
        exact coherent.modify fun _ _ => concludedName
      · rw [theorems]
        cases valid with
        | true =>
            have accepted : concluded.isValid = true := by
              rw [outcome]
              rfl
            exact Store.forall_modify sound.each (fun _ old => old.prove accepted) goal
        | false => exact sound.each
  | reset anew => exact anew ▸ sound_fresh

end Proofbook
