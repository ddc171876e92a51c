import Proofbook.Proofs.Registry.Operation
import Proofbook.Session.Basic

namespace Proofbook

open Registry Proofbook.Action

inductive Performs (config : Config) (time : Nat) (r : Registry) :
    Request → Answer → Registry → Prop where
  | defineTheorem {name : String} {statement : Formula} {hypotheses : List Formula}
      {goal : Option Formula} {t : Theorem}
      (made : t = { name, statement, hypotheses, conclusion := goal })
      (free : r.theorems.contains name = false) (wellFormed : t.isWellFormed = true) :
      Performs config time r (.defineTheorem name statement hypotheses goal)
        (.foundTheorem (some t)) { r with theorems := r.theorems.insert name t }
  | getTheorem {name : String} :
      Performs config time r (.getTheorem name) (.foundTheorem (r.theorems.get? name)) r
  | listTheorems : Performs config time r .listTheorems (.theoremList r.theorems.items) r
  | verifyTheorem {name : String} {t : Theorem} {verdict : Bool}
      (found : r.theorems.get? name = some t)
      (judged : verdict = (t.statement.wellFormed && t.hypotheses.all Formula.wellFormed)) :
      Performs config time r (.verifyTheorem name) (.verdict verdict)
        (if verdict && (t.proof.any Proof.isValid || t.isEntailed) then
          { r with theorems := r.theorems.modify name Theorem.markProven }
        else r)
  | addAxiom {name : String} {statement : Formula} (free : r.axioms.contains name = false)
      (wellFormed : statement.wellFormed = true) :
      Performs config time r (.addAxiom name statement) (.addedAxiom { name, statement })
        { r with axioms := r.axioms.insert name { name, statement } }
  | listAxioms : Performs config time r .listAxioms (.axiomList r.axioms.items) r
  | validateAxiom {name : String} {position : Nat} {verdict : Bool}
      (found : r.axioms.position? name = some position)
      (judged : verdict = isSpared r.contradictions position) :
      Performs config time r (.validateAxiom name) (.verdict verdict)
        { r with
          axioms := r.axioms.modifyAt position fun a => { a with isConsistent := verdict } }
  | addStep {goal : String} {step : Step} {proof : Proof} {mid : Registry}
      (known : r.theorems.contains goal = true) (opened : openProof goal r = .ok proof mid) :
      Performs config time r (.addStep goal step)
        (.verdict (proof.steps.isEmpty || step.formula.isMarker || step.formula.wellFormed))
        { mid with proofs := mid.proofs.modify goal (·.push step) }
  | verifyProof {goal : String} {steps : List Step} {proof concluded : Proof} {mid : Registry}
      {valid : Bool} (known : r.theorems.contains goal = true) (some : steps ≠ [])
      (verdict : valid = checkSteps (steps.map Step.formula))
      (opened : openProof goal r = .ok proof mid)
      (outcome : concluded = proof.conclude (steps.map Step.formula)
        (steps.map Step.justification) valid time) :
      Performs config time r (.verifyProof goal steps) (.verdict valid)
        { mid with
          proofs := mid.proofs.modify goal fun _ => concluded
          theorems := if valid then mid.theorems.modify goal (·.prove concluded) else mid.theorems
          statistics := mid.statistics.addVerification steps.length valid time }
  | describeProof {goal : String} {proof : Proof} (found : r.proofs.get? goal = some proof) :
      Performs config time r (.describeProof goal) (.proofSummary proof) r
  | exportProof {goal format content : String} {proof : Proof}
      (complete : r.completeProof goal = .ok proof)
      (listed : proof.exportAs format = .ok content) :
      Performs config time r (.exportProof goal format) (.listing content) r
  | entails {premises : List Formula} {goal : Formula} :
      Performs config time r (.entails premises goal)
        (.verdict (Formula.entails premises goal)) r
  | equivalent {a b : Option Formula} :
      Performs config time r (.equivalent a b) (.verdict (Formula.equivalentOption a b)) r
  | derive {rule : Rule} {first second : Formula} {derived : Option Formula}
      (applied : derived = Formula.derive rule [first, second]) :
      Performs config time r (.derive rule first second) (.formula derived)
        (if derived.isSome then { r with statistics := r.statistics.addRuleApplication } else r)
  | substitute {formula replacement : Formula} {name : String} :
      Performs config time r (.substitute formula name replacement)
        (.formula (some (Formula.substitute name replacement formula))) r
  | tabulate {formula : Formula} {table : Truth.Table}
      (made : Truth.table formula config.tableLimit = .ok table) :
      Performs config time r (.tabulate formula) (.table table) r
  | checkUndecidable {formula : Formula} :
      Performs config time r (.checkUndecidable formula) (.undecidable formula.isUndecidable) r
  | summarize : Performs config time r .summarize (.summary r) r
  | checkConsistency :
      Performs config time r .checkConsistency
        (.conflicts (namePairs (accuseAll r.axioms.items r.contradictions) r.contradictions))
        { r with
          axioms := { r.axioms with items := accuseAll r.axioms.items r.contradictions }
          isConsistent := r.contradictions.isEmpty }
  | reset : Performs config time r (.reset true) (.verdict true) fresh

variable {config : Config} {time : Nat} {r r' : Registry} {request : Request} {answer : Answer}

theorem checkWithin_ok {limit : Option Nat} {goal : String} {steps : List Formula} {valid : Bool}
    (checked : checkWithin limit time goal steps = .ok valid) : valid = checkSteps steps := by
  unfold checkWithin at checked
  split at checked
  · split at checked
    · cases checked
    · exact (Except.ok.inj checked).symm
  · exact (Except.ok.inj checked).symm

theorem performs_of_ok (ran : perform config time request r = .ok answer r') :
    Performs config time r request answer r' := by
  cases request with
  | defineTheorem name statement hypotheses goal =>
      obtain ⟨_, mid, defined, answered⟩ := bind_ok.mp ran
      obtain ⟨free, wellFormed, rfl⟩ := defineTheorem_ok.mp defined
      obtain ⟨t, _, asked, finished⟩ := bind_ok.mp answered
      obtain ⟨found, rfl⟩ := ask_ok.mp asked
      obtain ⟨rfl, rfl⟩ := pure_ok.mp finished
      have same := findTheorem_ok.mp found
      rw [Store.get?_insert_self] at same
      obtain rfl := Option.some.inj same
      exact .defineTheorem rfl free wellFormed
  | addAxiom name statement =>
      obtain ⟨_, mid, added, answered⟩ := bind_ok.mp ran
      obtain ⟨free, wellFormed, rfl⟩ := addAxiom_ok.mp added
      obtain ⟨a, _, asked, finished⟩ := bind_ok.mp answered
      obtain ⟨found, rfl⟩ := ask_ok.mp asked
      obtain ⟨rfl, rfl⟩ := pure_ok.mp finished
      have same := findAxiom_ok.mp found
      rw [Store.get?_insert_self] at same
      obtain rfl := Option.some.inj same
      exact .addAxiom free wellFormed
  | verifyTheorem name =>
      obtain ⟨verdict, mid, verified, finished⟩ := bind_ok.mp ran
      obtain ⟨t, found, judged, rfl⟩ := verifyTheorem_ok.mp verified
      obtain ⟨rfl, rfl⟩ := pure_ok.mp finished
      exact .verifyTheorem found judged
  | validateAxiom name =>
      obtain ⟨verdict, mid, validated, finished⟩ := bind_ok.mp ran
      obtain ⟨position, found, judged, rfl⟩ := validateAxiom_ok.mp validated
      obtain ⟨rfl, rfl⟩ := pure_ok.mp finished
      exact .validateAxiom found judged
  | addStep goal step =>
      obtain ⟨verdict, mid, added, finished⟩ := bind_ok.mp ran
      obtain ⟨⟨t, known⟩, proof, mid, opened, rfl, rfl⟩ := addStep_ok.mp added
      obtain ⟨rfl, rfl⟩ := pure_ok.mp finished
      exact .addStep (Store.contains_of_get? known) opened
  | verifyProof goal steps =>
      obtain ⟨valid, mid, verified, finished⟩ := bind_ok.mp ran
      obtain ⟨⟨t, known⟩, some, checked, committed⟩ := verifyProof_ok.mp verified
      obtain ⟨-, proof, mid, opened, rfl⟩ := commit_ok.mp committed
      obtain ⟨rfl, rfl⟩ := pure_ok.mp finished
      rw [List.length_map]
      exact .verifyProof (Store.contains_of_get? known) (fun none => some (by rw [none]; rfl))
        (checkWithin_ok checked) opened rfl
  | checkConsistency =>
      obtain ⟨_, mid, checked, finished⟩ := bind_ok.mp ran
      obtain ⟨rfl, rfl⟩ := checkConsistency_ok.mp checked
      obtain ⟨rfl, rfl⟩ := pure_ok.mp finished
      exact .checkConsistency
  | derive rule first second =>
      obtain ⟨_, mid, counted, finished⟩ := bind_ok.mp ran
      obtain rfl := countDerivation_ok.mp counted
      obtain ⟨rfl, rfl⟩ := pure_ok.mp finished
      exact .derive rfl
  | reset confirmed =>
      obtain ⟨_, mid, reset, finished⟩ := bind_ok.mp ran
      obtain ⟨rfl, rfl⟩ := reset_ok.mp reset
      obtain ⟨rfl, rfl⟩ := pure_ok.mp finished
      exact .reset
  | getTheorem | listTheorems | listAxioms | summarize =>
      obtain ⟨_, mid, looked, finished⟩ := bind_ok.mp ran
      obtain ⟨rfl, rfl⟩ := get_ok.mp looked
      obtain ⟨rfl, rfl⟩ := pure_ok.mp finished
      constructor
  | describeProof goal =>
      obtain ⟨_, mid, asked, finished⟩ := bind_ok.mp ran
      obtain ⟨found, rfl⟩ := ask_ok.mp asked
      obtain ⟨rfl, rfl⟩ := pure_ok.mp finished
      exact .describeProof (findProof_ok.mp found)
  | exportProof goal format =>
      obtain ⟨proof, mid, asked, exported⟩ := bind_ok.mp ran
      obtain ⟨complete, rfl⟩ := ask_ok.mp asked
      obtain ⟨content, mid, lifted, finished⟩ := bind_ok.mp exported
      obtain ⟨listed, rfl⟩ := lift_ok.mp lifted
      obtain ⟨rfl, rfl⟩ := pure_ok.mp finished
      exact .exportProof complete listed
  | tabulate formula =>
      obtain ⟨table, mid, lifted, finished⟩ := bind_ok.mp ran
      obtain ⟨made, rfl⟩ := lift_ok.mp lifted
      obtain ⟨rfl, rfl⟩ := pure_ok.mp finished
      exact .tabulate made
  | entails | equivalent | substitute | checkUndecidable =>
      obtain ⟨rfl, rfl⟩ := pure_ok.mp ran
      constructor

end Proofbook
