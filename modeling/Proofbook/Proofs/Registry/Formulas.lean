import Proofbook.Proofs.Registry.Consistency

namespace Proofbook

open Registry

/-! ## Formulas -/

def Theorem.stated (t : Theorem) : List Formula :=
  t.statement :: t.hypotheses ++ t.conclusion.toList

def Proof.formulas (proof : Proof) : List Formula := proof.steps ++ proof.justifications

def Theorem.formulas (t : Theorem) : List Formula :=
  t.stated ++ t.proof.toList.flatMap Proof.formulas

def Step.formulas (step : Step) : List Formula := [step.formula, step.justification]

namespace Registry

def stated (r : Registry) : List Formula :=
  r.theorems.items.flatMap Theorem.stated ++ r.axioms.items.map Axiom.statement

def formulas (r : Registry) : List Formula :=
  r.theorems.items.flatMap Theorem.formulas ++ r.axioms.items.map Axiom.statement ++
    r.proofs.items.flatMap Proof.formulas

end Registry

namespace Request

def stated : Request → List Formula
  | defineTheorem _ statement hypotheses goal => statement :: hypotheses ++ goal.toList
  | addAxiom _ statement => [statement]
  | _ => []

def formulas : Request → List Formula
  | defineTheorem _ statement hypotheses goal => statement :: hypotheses ++ goal.toList
  | addAxiom _ statement => [statement]
  | addStep _ step => step.formulas
  | verifyProof _ steps => steps.flatMap Step.formulas
  | entails premises goal => premises ++ [goal]
  | equivalent a b => a.toList ++ b.toList
  | derive _ first second => [first, second]
  | substitute formula _ replacement => [formula, replacement]
  | tabulate formula | checkUndecidable formula => [formula]
  | getTheorem _ | listTheorems | verifyTheorem _ | listAxioms | validateAxiom _ | describeProof _
  | exportProof .. | summarize | checkConsistency | reset _ => []

end Request

/-! ## What is stated -/

section

variable {config : Config} {time : Nat} {r r' : Registry} {request : Request} {answer : Answer}
  {f : Formula}

theorem stated_eq_of_items
    (theorems : r'.theorems.items.map Theorem.stated = r.theorems.items.map Theorem.stated)
    (axioms : r'.axioms.items.map Axiom.statement = r.axioms.items.map Axiom.statement) :
    r'.stated = r.stated := by
  rw [Registry.stated, Registry.stated, List.flatMap_def, List.flatMap_def, theorems, axioms]

theorem mem_stated (ran : Performs config time r request answer r')
    (noReset : ∀ confirmed, request ≠ .reset confirmed) :
    f ∈ r'.stated ↔ f ∈ r.stated ∨ f ∈ request.stated := by
  have unstated (same : r'.stated = r.stated) (none : request.stated = []) :
      f ∈ r'.stated ↔ f ∈ r.stated ∨ f ∈ request.stated := by
    rw [same, none]
    simp
  cases ran with
  | defineTheorem made =>
      subst made
      simp only [Registry.stated, Request.stated, Store.insert, Theorem.stated, List.flatMap_append,
        List.flatMap_singleton, List.mem_append]
      grind
  | addAxiom =>
      simp only [Registry.stated, Request.stated, Store.insert, List.map_append, List.map_singleton,
        List.mem_append]
      grind
  | verifyTheorem =>
      refine unstated ?_ rfl
      split
      · refine stated_eq_of_items ?_ rfl
        apply Store.map_items_modify
        exact fun _ => rfl
      · rfl
  | validateAxiom =>
      refine unstated (stated_eq_of_items rfl ?_) rfl
      apply Store.map_modify_unseen
      exact fun _ => rfl
  | checkConsistency =>
      exact unstated (stated_eq_of_items rfl (map_accuseAll (fun _ _ => rfl) _ _)) rfl
  | addStep known opened =>
      obtain ⟨theorems, axioms, -⟩ := openProof_frame opened
      exact unstated (stated_eq_of_items (by rw [theorems]) (by rw [axioms])) rfl
  | verifyProof known some verdict opened =>
      obtain ⟨theorems, axioms, -⟩ := openProof_frame opened
      refine unstated (stated_eq_of_items ?_ (by rw [axioms])) rfl
      rw [← theorems]
      apply Store.map_items_ite_modify
      exact fun _ => rfl
  | derive => exact unstated (by split <;> rfl) rfl
  | reset => exact absurd rfl (noReset true)
  | _ => exact unstated rfl rfl

end

/-! ## What is held -/

def Answer.formulas : Answer → List Formula
  | foundTheorem found => found.toList.flatMap Theorem.formulas
  | theoremList theorems => theorems.flatMap Theorem.formulas
  | addedAxiom added => [added.statement]
  | axiomList axioms => axioms.map Axiom.statement
  | formula found => found.toList
  | verdict _ | proofSummary _ | listing _ | table _ | undecidable _ | summary _ | conflicts _ => []

section

variable {config : Config} {time : Nat} {r r' mid : Registry} {request : Request}
  {answer : Answer} {goal : String} {proof : Proof} {holds : Formula → Prop}

structure Registry.Holds (holds : Formula → Prop) (r : Registry) : Prop where
  theorems : ∀ t ∈ r.theorems.items, ∀ f ∈ t.formulas, holds f
  axioms : ∀ a ∈ r.axioms.items, holds a.statement
  proofs : ∀ proof ∈ r.proofs.items, ∀ f ∈ proof.formulas, holds f

theorem holds_iff : r.Holds holds ↔ ∀ f ∈ r.formulas, holds f := by
  unfold Registry.formulas
  simp only [List.forall_mem_append, List.forall_mem_flatMap, List.forall_mem_map]
  exact ⟨fun ⟨theorems, axioms, proofs⟩ => ⟨⟨theorems, axioms⟩, proofs⟩,
    fun ⟨⟨theorems, axioms⟩, proofs⟩ => ⟨theorems, axioms, proofs⟩⟩

theorem Proof.forall_push {step : Step} (old : ∀ f ∈ proof.formulas, holds f)
    (new : ∀ f ∈ step.formulas, holds f) : ∀ f ∈ (proof.push step).formulas, holds f := by
  simp only [Proof.formulas, Step.formulas, List.forall_mem_append, List.forall_mem_cons,
    Proof.push] at old new ⊢
  exact ⟨⟨old.1, new.1, List.forall_mem_nil _⟩, old.2, new.2⟩

theorem Proof.forall_conclude {steps : List Step} {valid : Bool} {concluded : Proof}
    (outcome : concluded =
      proof.conclude (steps.map Step.formula) (steps.map Step.justification) valid time)
    (checked : ∀ f ∈ steps.flatMap Step.formulas, holds f) :
    ∀ f ∈ concluded.formulas, holds f := by
  subst outcome
  simp only [List.forall_mem_flatMap, Step.formulas, List.forall_mem_cons] at checked
  simp only [Proof.formulas, Proof.conclude, List.forall_mem_append, List.forall_mem_map]
  exact ⟨fun step mem => (checked step mem).1, fun step mem => (checked step mem).2.1⟩

theorem Theorem.forall_prove {t : Theorem} (old : ∀ f ∈ t.formulas, holds f)
    (new : ∀ f ∈ proof.formulas, holds f) : ∀ f ∈ (t.prove proof).formulas, holds f := by
  simp only [Theorem.formulas, List.forall_mem_append] at old
  simp only [Theorem.formulas, List.forall_mem_append, Theorem.prove, Option.toList_some,
    List.flatMap_singleton]
  exact ⟨old.1, new⟩

theorem Registry.Holds.openProof (held : r.Holds holds)
    (opened : openProof goal r = .ok proof mid) :
    (∀ f ∈ proof.formulas, holds f) ∧ mid.Holds holds := by
  rcases openProof_ok.mp opened with ⟨-, found, rfl⟩ | ⟨-, rfl, rfl⟩
  · exact ⟨held.proofs proof (Store.mem_of_get? found), held⟩
  · have empty : ∀ f ∈ (Proof.empty goal).formulas, holds f := List.forall_mem_nil _
    exact ⟨empty, held.theorems, held.axioms, Store.forall_insert held.proofs empty goal⟩

theorem holds_fresh (seeded : ∀ a ∈ Axiom.seeds, holds a.statement) : fresh.Holds holds where
  theorems := List.forall_mem_nil _
  axioms := seeded
  proofs := List.forall_mem_nil _

theorem Registry.Holds.performs (held : r.Holds holds)
    (seeded : ∀ a ∈ Axiom.seeds, holds a.statement) (asked : ∀ f ∈ request.formulas, holds f)
    (ran : Performs config time r request answer r') : r'.Holds holds := by
  cases ran with
  | defineTheorem made =>
      subst made
      refine ⟨Store.forall_insert held.theorems ?_ _, held.axioms, held.proofs⟩
      intro f mem
      apply asked
      simpa [Theorem.formulas, Theorem.stated, Request.formulas] using mem
  | verifyTheorem =>
      split
      · refine ⟨Store.forall_modify held.theorems ?_ _, held.axioms, held.proofs⟩
        exact fun t old => old
      · exact held
  | addAxiom =>
      refine ⟨held.theorems, Store.forall_insert held.axioms ?_ _, held.proofs⟩
      exact asked _ List.mem_cons_self
  | validateAxiom =>
      refine ⟨held.theorems, Store.forall_modifyAt held.axioms ?_ _, held.proofs⟩
      exact fun a old => old
  | checkConsistency =>
      exact ⟨held.theorems, forall_accuseAll held.axioms (fun _ _ old => old) _, held.proofs⟩
  | addStep known opened =>
      obtain ⟨-, held⟩ := held.openProof opened
      refine ⟨held.theorems, held.axioms, Store.forall_modify held.proofs ?_ _⟩
      exact fun proof old => Proof.forall_push old asked
  | verifyProof known some verdict opened outcome =>
      obtain ⟨-, held⟩ := held.openProof opened
      have new := Proof.forall_conclude outcome asked
      refine ⟨?_, held.axioms, Store.forall_modify held.proofs (fun _ _ => new) _⟩
      split
      · exact Store.forall_modify held.theorems (fun t old => Theorem.forall_prove old new) _
      · exact held.theorems
  | derive =>
      split
      · exact ⟨held.theorems, held.axioms, held.proofs⟩
      · exact held
  | reset => exact holds_fresh seeded
  | _ => exact held

/-- A property of formulas that neither a substitution nor a rule takes from them. -/
structure Formula.Lasting (holds : Formula → Prop) : Prop where
  substituted : ∀ {f r : Formula} (x : String), holds f → holds r →
    holds (Formula.substitute x r f)
  derived : ∀ {rule : Rule} {premises : List Formula} {d : Formula},
    (∀ p ∈ premises, holds p) → Formula.derive rule premises = some d → holds d

theorem Performs.answers (lasting : Formula.Lasting holds) (held : r.Holds holds)
    (asked : ∀ f ∈ request.formulas, holds f) (ran : Performs config time r request answer r') :
    ∀ f ∈ answer.formulas, holds f := by
  cases ran with
  | defineTheorem made =>
      subst made
      intro f mem
      apply asked
      simpa [Answer.formulas, Theorem.formulas, Theorem.stated, Request.formulas] using mem
  | @getTheorem name =>
      simp only [Answer.formulas, List.forall_mem_flatMap, Option.mem_toList]
      exact fun t found => held.theorems t (Store.mem_of_get? found)
  | listTheorems =>
      simp only [Answer.formulas, List.forall_mem_flatMap]
      exact held.theorems
  | addAxiom => exact asked
  | listAxioms => exact List.forall_mem_map.mpr held.axioms
  | derive applied =>
      simp only [Answer.formulas, Option.mem_toList]
      intro d derived
      rw [applied] at derived
      exact lasting.derived asked derived
  | substitute =>
      simp only [Request.formulas, List.forall_mem_cons] at asked
      exact List.forall_mem_singleton.mpr (lasting.substituted _ asked.1 asked.2.1)
  | _ => exact List.forall_mem_nil _

end

end Proofbook
