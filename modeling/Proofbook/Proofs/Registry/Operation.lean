import Proofbook.Proofs.Outcome
import Proofbook.Proofs.Registry.Action
import Proofbook.Proofs.Registry.Store

namespace Proofbook.Registry

open Proofbook.Action

variable {r r' : Registry} {name goal : String} {u : PUnit}

/-! ## Looking up -/

theorem findTheorem_ok {t : Theorem} :
    r.findTheorem name = .ok t ↔ r.theorems.get? name = some t := by
  unfold findTheorem
  cases r.theorems.get? name <;> simp

theorem findAxiom_ok {a : Axiom} : r.findAxiom name = .ok a ↔ r.axioms.get? name = some a := by
  unfold findAxiom
  cases r.axioms.get? name <;> simp

theorem locateAxiom_ok {position : Nat} :
    r.locateAxiom name = .ok position ↔ r.axioms.position? name = some position := by
  unfold locateAxiom
  cases r.axioms.position? name <;> simp

theorem findProof_ok {proof : Proof} :
    r.findProof goal = .ok proof ↔ r.proofs.get? goal = some proof := by
  unfold findProof
  cases r.proofs.get? goal <;> simp

theorem completeProof_ok {proof : Proof} :
    r.completeProof goal = .ok proof ↔
      r.proofs.get? goal = some proof ∧ proof.isComplete = true := by
  unfold completeProof
  rw [Except.bind_eq_ok]
  simp only [findProof_ok]
  constructor
  · rintro ⟨found, present, finished⟩
    split at finished
    · obtain rfl := Except.pure_eq_ok.mp finished
      exact ⟨present, ‹_›⟩
    · cases finished
  · rintro ⟨present, complete⟩
    exact ⟨proof, present, by rw [if_pos complete]; rfl⟩

/-! ## Theorems -/

theorem defineTheorem_ok {t : Theorem} :
    defineTheorem t r = .ok u r' ↔
      r.theorems.contains t.name = false ∧ t.isWellFormed = true ∧
        r' = { r with theorems := r.theorems.insert t.name t } := by
  unfold defineTheorem
  simp [get_bind_ok, ite_ok]

theorem atomic_defineTheorem (t : Theorem) : Atomic (defineTheorem t) :=
  atomic_get_bind fun _ => .ite (atomic_throw _) (.ite (atomic_throw _) (total_modify _).atomic)

theorem verifyTheorem_ok {verdict : Bool} :
    verifyTheorem name r = .ok verdict r' ↔
      ∃ t, r.theorems.get? name = some t ∧
        verdict = (t.statement.wellFormed && t.hypotheses.all Formula.wellFormed) ∧
        r' = if verdict && (t.proof.any Proof.isValid || t.isEntailed) then
            { r with theorems := r.theorems.modify name Theorem.markProven }
          else r := by
  unfold verifyTheorem
  rw [ask_bind_ok]
  simp only [findTheorem_ok]
  refine exists_congr fun t => and_congr_right fun _ => ?_
  cases t.statement.wellFormed && t.hypotheses.all Formula.wellFormed with
  | false => simp +contextual
  | true =>
      cases t.proof.any Proof.isValid || t.isEntailed with
      | false => simp +contextual
      | true =>
          simp only [Bool.not_true, Bool.false_eq_true, if_false, if_true, modify_bind_ok, pure_ok]
          simp +contextual

theorem atomic_verifyTheorem (name : String) : Atomic (verifyTheorem name) := by
  refine atomic_ask_bind _ fun t => .ite (total_pure _).atomic (Total.atomic ?_)
  exact .ite ((total_modify _).bind fun _ => total_pure _) (total_pure _)

/-! ## Axioms -/

theorem addAxiom_ok {a : Axiom} :
    addAxiom a r = .ok u r' ↔
      r.axioms.contains a.name = false ∧ a.statement.wellFormed = true ∧
        r' = { r with axioms := r.axioms.insert a.name a.absolve } := by
  unfold addAxiom
  simp [get_bind_ok, ite_ok]

theorem atomic_addAxiom (a : Axiom) : Atomic (addAxiom a) :=
  atomic_get_bind fun _ => .ite (atomic_throw _) (.ite (atomic_throw _) (total_modify _).atomic)

theorem validateAxiom_ok {verdict : Bool} :
    validateAxiom name r = .ok verdict r' ↔
      ∃ position, r.axioms.position? name = some position ∧
        verdict = isSpared r.contradictions position ∧
        r' = { r with
          axioms := r.axioms.modifyAt position fun a => { a with isConsistent := verdict } } := by
  unfold validateAxiom
  simp only [ask_bind_ok, get_bind_ok, modify_bind_ok, locateAxiom_ok, pure_ok]
  refine exists_congr fun position => and_congr_right fun _ => and_congr_right ?_
  rintro rfl
  rfl

theorem atomic_validateAxiom (name : String) : Atomic (validateAxiom name) :=
  atomic_ask_bind _ fun _ => atomic_get_bind fun _ =>
    ((total_modify _).bind fun _ => total_pure _).atomic

theorem checkConsistency_ok {pairs : List (String × String)} :
    checkConsistency r = .ok pairs r' ↔
      pairs = namePairs (accuseAll r.axioms.items r.contradictions) r.contradictions ∧
      r' = { r with
        axioms := { r.axioms with items := accuseAll r.axioms.items r.contradictions }
        isConsistent := r.contradictions.isEmpty } := by
  unfold checkConsistency
  simp only [get_bind_ok, set_bind_ok, pure_ok]

theorem total_checkConsistency : Total checkConsistency :=
  total_get.bind fun _ => (total_set _).bind fun _ => total_pure _

/-! ## Proofs -/

theorem openProof_ok {proof : Proof} :
    openProof goal r = .ok proof r' ↔
      r.proofs.contains goal = true ∧ r.proofs.get? goal = some proof ∧ r' = r ∨
      r.proofs.contains goal = false ∧ proof = .empty goal ∧
        r' = { r with proofs := r.proofs.insert goal (.empty goal) } := by
  unfold openProof
  rw [get_bind_ok]
  cases r.proofs.contains goal with
  | true => simp [findProof_ok]
  | false =>
      simp only [Bool.not_false, if_true, modify_bind_ok, ask_ok, findProof_ok,
        Store.get?_insert_self]
      simp [eq_comm]

theorem atomic_openProof (goal : String) : Atomic (openProof goal) := by
  intro r fault r' failed
  cases known : r.proofs.contains goal with
  | true =>
      unfold openProof at failed
      rw [get_bind_error, known] at failed
      exact (ask_error.mp failed).2
  | false =>
      rw [openProof_ok.mpr (.inr ⟨known, rfl, rfl⟩)] at failed
      cases failed

theorem openProof_frame {proof : Proof} (opened : openProof goal r = .ok proof r') :
    r'.theorems = r.theorems ∧ r'.axioms = r.axioms ∧ r'.isConsistent = r.isConsistent ∧
      r'.statistics = r.statistics := by
  rcases openProof_ok.mp opened with ⟨-, -, rfl⟩ | ⟨-, -, rfl⟩ <;> exact ⟨rfl, rfl, rfl, rfl⟩

theorem addStep_ok {step : Step} {verdict : Bool} :
    addStep goal step r = .ok verdict r' ↔
      (∃ t, r.theorems.get? goal = some t) ∧ ∃ proof mid, openProof goal r = .ok proof mid ∧
        verdict = (proof.steps.isEmpty || step.formula.isMarker || step.formula.wellFormed) ∧
        r' = { mid with proofs := mid.proofs.modify goal (·.push step) } := by
  unfold addStep
  rw [ask_bind_ok]
  simp only [findTheorem_ok, exists_and_right]
  rw [bind_ok]
  simp only [modify_bind_ok, pure_ok]

theorem atomic_addStep (goal : String) (step : Step) : Atomic (addStep goal step) :=
  atomic_ask_bind _ fun _ => (atomic_openProof goal).bind_total fun _ =>
    (total_modify _).bind fun _ => total_pure _

theorem commit_ok {steps justifications : List Formula} {valid : Bool} {time : Nat} :
    commit goal steps justifications valid time r = .ok u r' ↔
      (∃ t, r.theorems.get? goal = some t) ∧ ∃ proof mid, openProof goal r = .ok proof mid ∧
        r' = { mid with
          proofs := mid.proofs.modify goal fun _ =>
            proof.conclude steps justifications valid time
          theorems := if valid then
              mid.theorems.modify goal (·.prove (proof.conclude steps justifications valid time))
            else mid.theorems
          statistics := mid.statistics.addVerification steps.length valid time } := by
  unfold commit
  rw [ask_bind_ok]
  simp only [findTheorem_ok, exists_and_right]
  rw [bind_ok]
  simp only [modify_bind_ok]
  refine and_congr_right fun _ => exists_congr fun proof => exists_congr fun mid =>
    and_congr_right fun _ => ?_
  cases valid with
  | false => simp
  | true => simp only [if_true, modify_bind_ok, modify_ok]

theorem atomic_commit (goal : String) (steps justifications : List Formula) (valid : Bool)
    (time : Nat) : Atomic (commit goal steps justifications valid time) :=
  atomic_ask_bind _ fun _ => (atomic_openProof goal).bind_total fun _ =>
    (total_modify _).bind fun _ =>
      .ite ((total_modify _).bind fun _ => total_modify _) (total_modify _)

theorem verifyProof_ok {limit : Option Nat} {time : Nat} {steps justifications : List Formula}
    {valid : Bool} :
    verifyProof limit time goal steps justifications r = .ok valid r' ↔
      (∃ t, r.theorems.get? goal = some t) ∧ steps ≠ [] ∧
        checkWithin limit time goal steps = .ok valid ∧
        commit goal steps justifications valid time r = .ok () r' := by
  unfold verifyProof
  rw [ask_bind_ok]
  simp only [findTheorem_ok, exists_and_right]
  refine and_congr_right fun _ => ?_
  cases steps with
  | nil => simp
  | cons step steps =>
      rw [List.isEmpty_cons, if_neg (by decide), lift_bind_ok]
      simp only [bind_ok, pure_ok]
      constructor
      · rintro ⟨_, checked, _, _, committed, rfl, rfl⟩
        exact ⟨List.cons_ne_nil _ _, checked, committed⟩
      · rintro ⟨-, checked, committed⟩
        exact ⟨valid, checked, (), r', committed, rfl, rfl⟩

theorem atomic_verifyProof (limit : Option Nat) (time : Nat) (goal : String)
    (steps justifications : List Formula) :
    Atomic (verifyProof limit time goal steps justifications) := by
  refine atomic_ask_bind _ fun _ => .ite (atomic_throw _) (atomic_lift_bind _ fun valid => ?_)
  exact (atomic_commit goal steps justifications valid time).bind_total fun _ => total_pure _

/-! ## The registry as a whole -/

theorem countDerivation_ok {derived : Option Formula} :
    countDerivation derived r = .ok u r' ↔
      r' = if derived.isSome then { r with statistics := r.statistics.addRuleApplication }
        else r := by
  unfold countDerivation
  cases derived <;> simp

theorem total_countDerivation (derived : Option Formula) : Total (countDerivation derived) :=
  .ite (total_modify _) (total_pure _)

theorem reset_ok {confirmed : Bool} :
    reset confirmed r = .ok u r' ↔ confirmed = true ∧ r' = fresh := by
  unfold reset
  cases confirmed with
  | true => simp [fresh, seed, empty]
  | false => simp

theorem atomic_reset (confirmed : Bool) : Atomic (reset confirmed) :=
  .ite (total_modify _).atomic (atomic_throw _)

end Proofbook.Registry
