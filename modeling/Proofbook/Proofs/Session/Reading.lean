import Proofbook.Proofs.Outcome
import Proofbook.Session.Request

namespace Proofbook

def Operation.rule? : Operation → Option Rule
  | .modusPonens => some .modusPonens
  | .modusTollens => some .modusTollens
  | .universalInstantiation => some .universalInstantiation
  | _ => none

theorem Operation.ofName?_eq_some {name : String} {call : Operation} :
    ofName? name = some call ↔ name = call.name := by
  constructor
  · intro found
    have same := List.find?_some found
    exact (beq_iff_eq.mp same).symm
  · rintro rfl
    cases call <;> rfl

namespace Request

open Formula

/-! ## Arguments -/

def ReadsOption (value : Json) (found : Option Formula) : Prop :=
  value = .null ∧ found = none ∨ ∃ f, decode value = .ok f ∧ found = some f

def ReadsList (value : Json) (found : List Formula) : Prop :=
  value = .null ∧ found = [] ∨
  (∃ items, value = .array items ∧ List.Forall₂ (fun item f => decode item = .ok f) items found) ∨
  ∃ f, decode value = .ok f ∧ found = [f]

def Justifies (value : Json) (justification : Formula) : Prop :=
  value = .null ∧ justification = assumed ∨ decode value = .ok justification

def ReadsStep (value : Json) (step : Step) : Prop :=
  decode value = .ok step.formula ∧
    Justifies ((value.get? "justification").getD .null) step.justification

variable {call : Operation} {args : List Json} {position : Nat}

theorem stringArgument_ok {value : String} :
    stringArgument call args position = .ok value ↔ argument args position = .string value := by
  unfold stringArgument
  split <;> simp_all

theorem readFormula_ok {value : Json} {f : Formula} :
    readFormula value = .ok f ↔ decode value = .ok f := Except.mapError_eq_ok

theorem formulaArgument_ok {f : Formula} :
    formulaArgument args position = .ok f ↔ decode (argument args position) = .ok f :=
  readFormula_ok

theorem reads_of_formulaArgument? {found : Option Formula}
    (read : formulaArgument? args position = .ok found) :
    ReadsOption (argument args position) found := by
  unfold formulaArgument? at read
  split at read
  · rename_i none
    exact .inl ⟨none, (Except.ok.inj read).symm⟩
  · obtain ⟨f, decoded, rfl⟩ := Except.map_eq_ok.mp read
    exact .inr ⟨f, readFormula_ok.mp decoded, rfl⟩

theorem reads_of_formulasArgument {found : List Formula}
    (read : formulasArgument args position = .ok found) :
    ReadsList (argument args position) found := by
  unfold formulasArgument at read
  split at read
  · rename_i none
    exact .inl ⟨none, (Except.ok.inj read).symm⟩
  · rename_i items listed
    refine .inr (.inl ⟨items, listed, ?_⟩)
    exact (Except.mapM_eq_ok.mp read).imp fun _ _ => readFormula_ok.mp
  · obtain ⟨f, decoded, rfl⟩ := Except.map_eq_ok.mp read
    exact .inr (.inr ⟨f, readFormula_ok.mp decoded, rfl⟩)

theorem reads_of_readStep {value : Json} {step : Step} (read : readStep value = .ok step) :
    ReadsStep value step := by
  obtain ⟨f, decoded, justified⟩ := Except.bind_eq_ok.mp read
  have formula := readFormula_ok.mp decoded
  split at justified
  · rename_i none
    obtain rfl := Except.pure_eq_ok.mp justified
    exact ⟨formula, .inl ⟨by rw [none]; rfl, rfl⟩⟩
  · rename_i null
    obtain rfl := Except.pure_eq_ok.mp justified
    exact ⟨formula, .inl ⟨by rw [null]; rfl, rfl⟩⟩
  · rename_i justification _ some
    obtain ⟨g, found, finished⟩ := Except.bind_eq_ok.mp justified
    obtain rfl := Except.pure_eq_ok.mp finished
    exact ⟨formula, .inr (by rw [some]; exact readFormula_ok.mp found)⟩

/-! ## Requests -/

inductive Reading (args : List Json) : Operation → Request → Prop where
  | defineTheorem {name : String} {statement : Formula} {hypotheses : List Formula}
      {goal : Option Formula} (named : argument args 0 = .string name)
      (stated : decode (argument args 1) = .ok statement)
      (assuming : ReadsList (argument args 2) hypotheses)
      (concluding : ReadsOption (argument args 3) goal) :
      Reading args .theoremDefine (.defineTheorem name statement hypotheses goal)
  | getTheorem {name : String} (named : argument args 0 = .string name) :
      Reading args .theoremGet (.getTheorem name)
  | listTheorems : Reading args .theoremList .listTheorems
  | verifyTheorem {name : String} (named : argument args 0 = .string name) :
      Reading args .theoremVerify (.verifyTheorem name)
  | addAxiom {name : String} {statement : Formula} (named : argument args 0 = .string name)
      (stated : decode (argument args 1) = .ok statement) :
      Reading args .axiomAdd (.addAxiom name statement)
  | listAxioms : Reading args .axiomList .listAxioms
  | validateAxiom {name : String} (named : argument args 0 = .string name) :
      Reading args .axiomValidate (.validateAxiom name)
  | addStep {goal : String} {step : Step} (named : argument args 0 = .string goal)
      (formula : decode (argument args 1) = .ok step.formula)
      (justified : Justifies (argument args 2) step.justification) :
      Reading args .proofStep (.addStep goal step)
  | verifyProof {goal : String} {items : List Json} {steps : List Step}
      (named : argument args 0 = .string goal) (listed : argument args 1 = .array items)
      (each : List.Forall₂ ReadsStep items steps) :
      Reading args .proofVerify (.verifyProof goal steps)
  | describeProof {goal : String} (named : argument args 0 = .string goal) :
      Reading args .proofStats (.describeProof goal)
  | exportProof {goal format : String} (named : argument args 0 = .string goal)
      (formatted : if args.length < 2 then format = "tstp" else argument args 1 = .string format) :
      Reading args .proofExport (.exportProof goal format)
  | entails {premises : List Formula} {goal : Formula}
      (given : ReadsList (argument args 0) premises)
      (concluding : decode (argument args 1) = .ok goal) :
      Reading args .entails (.entails premises goal)
  | equivalent {a b : Option Formula} (first : ReadsOption (argument args 0) a)
      (second : ReadsOption (argument args 1) b) :
      Reading args .equivalent (.equivalent a b)
  | derive {call : Operation} {rule : Rule} {f g : Formula} (ruled : call.rule? = some rule)
      (first : decode (argument args 0) = .ok f) (second : decode (argument args 1) = .ok g) :
      Reading args call (.derive rule f g)
  | substitute {f r : Formula} {x : String} (formula : decode (argument args 0) = .ok f)
      (named : argument args 1 = .string x)
      (replacement : decode (argument args 2) = .ok r) :
      Reading args .substitute (.substitute f x r)
  | tabulate {f : Formula} (formula : decode (argument args 0) = .ok f) :
      Reading args .truthTable (.tabulate f)
  | checkUndecidable {f : Formula} (formula : decode (argument args 0) = .ok f) :
      Reading args .checkUndecidable (.checkUndecidable f)
  | summarize : Reading args .systemStats .summarize
  | checkConsistency : Reading args .systemConsistency .checkConsistency
  | reset {confirmed : Bool} (confirms : confirmed = true ↔ args = [] ∨ args = [.bool true]) :
      Reading args .systemReset (.reset confirmed)

variable {request : Request}

theorem reading_of_readDerivation {rule : Rule} (ruled : call.rule? = some rule)
    (read : readDerivation rule args = .ok request) : Reading args call request := by
  obtain ⟨f, first, read⟩ := Except.bind_eq_ok.mp read
  obtain ⟨g, second, read⟩ := Except.bind_eq_ok.mp read
  obtain rfl := Except.pure_eq_ok.mp read
  exact .derive ruled (formulaArgument_ok.mp first) (formulaArgument_ok.mp second)

theorem reading_of_ofArguments (read : ofArguments call args = .ok request) :
    Reading args call request := by
  cases call with
  | theoremDefine =>
      obtain ⟨name, named, read⟩ := Except.bind_eq_ok.mp read
      obtain ⟨statement, stated, read⟩ := Except.bind_eq_ok.mp read
      obtain ⟨hypotheses, assuming, read⟩ := Except.bind_eq_ok.mp read
      obtain ⟨goal, concluding, read⟩ := Except.bind_eq_ok.mp read
      obtain rfl := Except.pure_eq_ok.mp read
      exact .defineTheorem (stringArgument_ok.mp named) (formulaArgument_ok.mp stated)
        (reads_of_formulasArgument assuming) (reads_of_formulaArgument? concluding)
  | theoremGet | theoremVerify | axiomValidate | proofStats =>
      obtain ⟨name, named, read⟩ := Except.bind_eq_ok.mp read
      obtain rfl := Except.pure_eq_ok.mp read
      constructor
      exact stringArgument_ok.mp named
  | axiomAdd =>
      obtain ⟨name, named, read⟩ := Except.bind_eq_ok.mp read
      obtain ⟨statement, stated, read⟩ := Except.bind_eq_ok.mp read
      obtain rfl := Except.pure_eq_ok.mp read
      exact .addAxiom (stringArgument_ok.mp named) (formulaArgument_ok.mp stated)
  | proofStep =>
      obtain ⟨goal, named, read⟩ := Except.bind_eq_ok.mp read
      obtain ⟨f, formula, read⟩ := Except.bind_eq_ok.mp read
      obtain ⟨justification, justified, read⟩ := Except.bind_eq_ok.mp read
      obtain rfl := Except.pure_eq_ok.mp read
      refine .addStep (stringArgument_ok.mp named) (formulaArgument_ok.mp formula) ?_
      rcases reads_of_formulaArgument? justified with ⟨none, rfl⟩ | ⟨g, decoded, rfl⟩
      · exact .inl ⟨none, rfl⟩
      · exact .inr decoded
  | proofVerify =>
      obtain ⟨goal, named, read⟩ := Except.bind_eq_ok.mp read
      split at read
      · rename_i items listed
        obtain ⟨steps, each, read⟩ := Except.bind_eq_ok.mp read
        obtain rfl := Except.pure_eq_ok.mp read
        refine .verifyProof (stringArgument_ok.mp named) listed ?_
        exact (Except.mapM_eq_ok.mp each).imp fun _ _ => reads_of_readStep
      · cases read
  | proofExport =>
      obtain ⟨goal, named, read⟩ := Except.bind_eq_ok.mp read
      have goalNamed := stringArgument_ok.mp named
      by_cases short : args.length < 2
      · rw [if_pos short] at read
        obtain rfl := Except.pure_eq_ok.mp read
        exact .exportProof goalNamed (by rw [if_pos short])
      · rw [if_neg short] at read
        obtain ⟨format, formatted, read⟩ := Except.bind_eq_ok.mp read
        obtain rfl := Except.pure_eq_ok.mp read
        exact .exportProof goalNamed (by rw [if_neg short]; exact stringArgument_ok.mp formatted)
  | entails =>
      obtain ⟨premises, given, read⟩ := Except.bind_eq_ok.mp read
      obtain ⟨goal, concluding, read⟩ := Except.bind_eq_ok.mp read
      obtain rfl := Except.pure_eq_ok.mp read
      exact .entails (reads_of_formulasArgument given) (formulaArgument_ok.mp concluding)
  | equivalent =>
      obtain ⟨a, first, read⟩ := Except.bind_eq_ok.mp read
      obtain ⟨b, second, read⟩ := Except.bind_eq_ok.mp read
      obtain rfl := Except.pure_eq_ok.mp read
      exact .equivalent (reads_of_formulaArgument? first) (reads_of_formulaArgument? second)
  | modusPonens | modusTollens | universalInstantiation =>
      exact reading_of_readDerivation rfl read
  | substitute =>
      obtain ⟨f, formula, read⟩ := Except.bind_eq_ok.mp read
      obtain ⟨x, named, read⟩ := Except.bind_eq_ok.mp read
      obtain ⟨r, replacement, read⟩ := Except.bind_eq_ok.mp read
      obtain rfl := Except.pure_eq_ok.mp read
      exact .substitute (formulaArgument_ok.mp formula) (stringArgument_ok.mp named)
        (formulaArgument_ok.mp replacement)
  | truthTable | checkUndecidable =>
      obtain ⟨f, formula, read⟩ := Except.bind_eq_ok.mp read
      obtain rfl := Except.pure_eq_ok.mp read
      constructor
      exact formulaArgument_ok.mp formula
  | theoremList | axiomList | systemStats | systemConsistency =>
      obtain rfl := Except.pure_eq_ok.mp read
      constructor
  | systemReset =>
      simp only [ofArguments] at read
      split at read <;> obtain rfl := Except.pure_eq_ok.mp read
      · exact .reset (by simp)
      · exact .reset (by simp)
      · rename_i given flagged
        refine .reset ⟨nofun, ?_⟩
        rintro (rfl | rfl)
        · exact absurd rfl given
        · exact absurd rfl flagged

theorem read_ok (read : Request.read call args = .ok request) :
    call.arity.admits args.length = true ∧ Reading args call request := by
  unfold Request.read at read
  split at read
  · exact ⟨‹_›, reading_of_ofArguments read⟩
  · cases read

end Request

end Proofbook
