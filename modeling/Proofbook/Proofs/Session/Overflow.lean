import Proofbook.Proofs.Session.History
import Proofbook.Proofs.Session.Reading
import Proofbook.Proofs.Truth.Tabulation

namespace Proofbook

theorem Request.overflows_iff {config : Config} {request : Request} :
    request.overflows config = true ↔
      ∃ formula, request = .tabulate formula ∧
        Truth.overflows formula config.tableLimit = true := by
  cases request <;> simp [overflows]

namespace Session

variable {s : Session} {invocation : Invocation}

def Tabulates (s : Session) (invocation : Invocation) (formula : Formula) : Prop :=
  s.isInitialized = true ∧ invocation.call = "truth_table" ∧
    ∃ value, invocation.args = [value] ∧ Formula.decode value = .ok formula

/--
The limit admits the propositions, but there is no block of memory for the rows of their table.
-/
def TabulatesTooMany (s : Session) (invocation : Invocation) (count : Nat) : Prop :=
  58 ≤ count ∧ count ≤ 63 ∧ count ≤ s.config.tableLimit ∧
    ∃ formula, s.Tabulates invocation formula ∧ (Truth.columns formula).length = count

theorem Tabulates.read {formula : Formula} (tabulates : s.Tabulates invocation formula) :
    Operation.ofName? invocation.call = some .truthTable ∧
      Request.read .truthTable invocation.args = .ok (.tabulate formula) := by
  obtain ⟨-, called, value, given, decoded⟩ := tabulates
  refine ⟨Operation.ofName?_eq_some.mpr called, ?_⟩
  have argument : Request.formulaArgument [value] 0 = .ok formula :=
    Request.formulaArgument_ok.mpr decoded
  rw [given]
  exact Except.bind_eq_ok.mpr ⟨formula, argument, rfl⟩

theorem tabulates_of_read {formula : Formula} {call : Operation}
    (initialized : s.isInitialized = true)
    (known : Operation.ofName? invocation.call = some call)
    (read : Request.read call invocation.args = .ok (.tabulate formula)) :
    s.Tabulates invocation formula := by
  obtain ⟨admitted, reading⟩ := Request.read_ok read
  cases reading with
  | tabulate decoded =>
      obtain ⟨least, most⟩ := Bool.and_eq_true_iff.mp admitted
      have one : invocation.args.length = 1 :=
        Nat.le_antisymm (of_decide_eq_true most) (of_decide_eq_true least)
      obtain ⟨value, given⟩ := List.length_eq_one_iff.mp one
      rw [given] at decoded
      exact ⟨initialized, Operation.ofName?_eq_some.mp known, value, given, decoded⟩

theorem overflows_iff :
    s.overflows invocation = true ↔ ∃ count, s.TabulatesTooMany invocation count := by
  unfold overflows
  rw [Bool.and_eq_true, Option.any_eq_true]
  constructor
  · rintro ⟨initialized, call, known, asked⟩
    cases read : Request.read call invocation.args with
    | error fault => rw [read] at asked; cases asked
    | ok request =>
        rw [read] at asked
        obtain ⟨formula, rfl, overflows⟩ := Request.overflows_iff.mp asked
        obtain ⟨broad, fits, admitted⟩ := Truth.overflows_iff.mp overflows
        exact ⟨_, broad, fits, admitted, formula, tabulates_of_read initialized known read, rfl⟩
  · rintro ⟨_, broad, fits, admitted, formula, tabulates, rfl⟩
    obtain ⟨known, read⟩ := tabulates.read
    refine ⟨tabulates.1, .truthTable, known, ?_⟩
    rw [read]
    exact Truth.overflows_iff.mpr ⟨broad, fits, admitted⟩

theorem overflows_perform (time : Nat) (before : Invocation) :
    (s.perform time before).1.overflows = s.overflows := by
  cases outcome : (s.perform time before).2 with
  | error fault => rw [perform_failed outcome]
  | ok answer =>
      obtain ⟨r, r', request, here, -, -, after⟩ := perform_ok outcome
      funext invocation
      rw [after, overflows, overflows, isInitialized, isInitialized, here]
      rfl

end Session

end Proofbook
