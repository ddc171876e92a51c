import Proofbook.Proofs.Session.Reporting
import Proofbook.Proofs.Session.Since
import Mathlib.Algebra.Ring.Nat

namespace Proofbook

open Registry

/-! ## Turns that count -/

namespace Turn

def isCheck (turn : Turn) : Bool :=
  turn.invocation.call == "proof_verify" && turn.outcome.isOk

def isAcceptance (turn : Turn) : Bool :=
  turn.invocation.call == "proof_verify" &&
    match turn.outcome with
    | .ok (.verdict valid) => valid
    | _ => false

def isDerivation (turn : Turn) : Bool :=
  ["modus_ponens", "modus_tollens", "universal_instantiation"].contains turn.invocation.call &&
    match turn.outcome with
    | .ok (.formula derived) => derived.isSome
    | _ => false

def stepCount (turn : Turn) : Nat :=
  match Request.argument turn.invocation.args 1 with
  | .array items => items.length
  | _ => 0

def stepsChecked (turns : List Turn) : Nat := ((turns.filter isCheck).map stepCount).sum

theorem stepsChecked_snoc (turns : List Turn) (turn : Turn) :
    stepsChecked (turns ++ [turn]) =
      stepsChecked turns + if turn.isCheck then turn.stepCount else 0 := by
  unfold stepsChecked
  rw [List.filter_append, List.map_append, List.sum_append]
  cases checked : turn.isCheck <;> simp [checked]

variable {turn : Turn} {request : Request} {answer : Answer}

structure Uncounted (turn : Turn) : Prop where
  check : turn.isCheck = false
  acceptance : turn.isAcceptance = false
  derivation : turn.isDerivation = false

theorem uncounted_of_error {fault : Error} (failed : turn.outcome = .error fault) :
    turn.Uncounted := by
  refine ⟨?_, ?_, ?_⟩
  · simp [isCheck, failed, Except.isOk, Except.toBool]
  · simp [isAcceptance, failed]
  · simp [isDerivation, failed]

theorem counts_verifyProof {goal : String} {steps : List Step} {valid : Bool}
    (success : turn.success? = some (.verifyProof goal steps, .verdict valid)) :
    turn.isCheck = true ∧ turn.isAcceptance = valid ∧ turn.isDerivation = false ∧
      turn.stepCount = steps.length := by
  obtain ⟨call, named, reading, outcome⟩ := reading_of_success success
  cases reading with
  | @verifyProof goal items steps _ listed each =>
      refine ⟨?_, ?_, ?_, ?_⟩
      · simp [isCheck, named, outcome, Operation.name, Except.isOk, Except.toBool]
      · simp [isAcceptance, named, outcome, Operation.name]
      · simp [isDerivation, outcome]
      · rw [stepCount, listed]
        exact each.length_eq

theorem counts_derive {rule : Rule} {f g : Formula} {derived : Option Formula}
    (success : turn.success? = some (.derive rule f g, .formula derived)) :
    turn.isCheck = false ∧ turn.isAcceptance = false ∧ turn.isDerivation = derived.isSome := by
  obtain ⟨call, named, reading, outcome⟩ := reading_of_success success
  cases reading with
  | @derive call rule f g ruled =>
      have applies : (call.name == "proof_verify") = false ∧
          ["modus_ponens", "modus_tollens", "universal_instantiation"].contains call.name := by
        cases call <;> first | exact ⟨rfl, rfl⟩ | cases ruled
      refine ⟨?_, ?_, ?_⟩
      · rw [isCheck, named, applies.1, Bool.false_and]
      · rw [isAcceptance, named, applies.1, Bool.false_and]
      · rw [isDerivation, named, applies.2, outcome, Bool.true_and]

end Turn

def Request.isCounted : Request → Bool
  | verifyProof .. | derive .. => true
  | _ => false

theorem Turn.uncounted_of_success {turn : Turn} {request : Request} {answer : Answer}
    (success : turn.success? = some (request, answer)) (other : request.isCounted = false) :
    turn.Uncounted := by
  obtain ⟨call, named, reading, -⟩ := reading_of_success success
  cases reading with
  | verifyProof => cases other
  | derive => cases other
  | _ =>
      refine ⟨?_, ?_, ?_⟩
      · simp [isCheck, named, Operation.name]
      · simp [isAcceptance, named, Operation.name]
      · simp [isDerivation, named, Operation.name]

/-! ## One turn -/

/-- The counters agree with the turns, as far as their words go. -/
structure Statistics.Counts (turns : List Turn) (s : Statistics) : Prop where
  verifications : s.verifications.toNat = turns.countP Turn.isCheck % UInt32.size
  validProofs : s.validProofs.toNat = turns.countP Turn.isAcceptance % UInt32.size
  stepsChecked : s.stepsChecked.toNat = Turn.stepsChecked turns % UInt64.size
  ruleApplications : s.ruleApplications.toNat = turns.countP Turn.isDerivation % UInt32.size

namespace Statistics

variable {s s' : Statistics} {turns : List Turn} {turn : Turn}

theorem counts_nil : Counts [] {} := ⟨rfl, rfl, rfl, rfl⟩

theorem agrees_snoc {counter counter' : UInt32} {counts : Turn → Bool}
    (agrees : counter.toNat = turns.countP counts % UInt32.size)
    (step : counter' = if counts turn then counter + 1 else counter) :
    counter'.toNat = (turns ++ [turn]).countP counts % UInt32.size := by
  have one : (1 : UInt32).toNat = 1 := rfl
  have size : UInt32.size = 4294967296 := rfl
  rw [List.countP_append, List.countP_singleton, step]
  rw [size] at agrees ⊢
  split
  · rw [UInt32.toNat_add, one, agrees]
    omega
  · exact agrees

theorem Counts.snoc (counts : s.Counts turns)
    (verifications : s'.verifications =
      if turn.isCheck then s.verifications + 1 else s.verifications)
    (validProofs : s'.validProofs =
      if turn.isAcceptance then s.validProofs + 1 else s.validProofs)
    (stepsChecked : s'.stepsChecked =
      if turn.isCheck then s.stepsChecked + UInt64.ofNat turn.stepCount else s.stepsChecked)
    (ruleApplications : s'.ruleApplications =
      if turn.isDerivation then s.ruleApplications + 1 else s.ruleApplications) :
    s'.Counts (turns ++ [turn]) where
  verifications := agrees_snoc counts.verifications verifications
  validProofs := agrees_snoc counts.validProofs validProofs
  ruleApplications := agrees_snoc counts.ruleApplications ruleApplications
  stepsChecked := by
    have size : UInt64.size = 18446744073709551616 := rfl
    have old := counts.stepsChecked
    rw [Turn.stepsChecked_snoc, stepsChecked]
    rw [size] at old ⊢
    split
    · rw [UInt64.toNat_add, UInt64.toNat_ofNat', old]
      omega
    · exact old

theorem Counts.uncounted (counts : s.Counts turns) (none : turn.Uncounted) :
    s.Counts (turns ++ [turn]) := by
  apply counts.snoc
  · rw [none.check, if_neg Bool.false_ne_true]
  · rw [none.acceptance, if_neg Bool.false_ne_true]
  · rw [none.check, if_neg Bool.false_ne_true]
  · rw [none.derivation, if_neg Bool.false_ne_true]

end Statistics

/-! ## Attached proofs -/

namespace Registry

variable {r r' : Registry} {turns : List Turn} {turn : Turn}

def attachedProofs (r : Registry) : Nat := r.theorems.items.countP (·.proof.isSome)

theorem attachedProofs_eq_of_items
    (same : r'.theorems.items.map Theorem.proof = r.theorems.items.map Theorem.proof) :
    r'.attachedProofs = r.attachedProofs := by
  have through (items : List Theorem) :
      items.countP (·.proof.isSome) = (items.map Theorem.proof).countP Option.isSome := by
    rw [List.countP_map]
    rfl
  rw [attachedProofs, through, same, ← through, attachedProofs]

structure Counted (turns : List Turn) (r : Registry) : Prop where
  counts : r.statistics.Counts turns
  attached : r.attachedProofs ≤ turns.countP Turn.isAcceptance
  checks : turns.countP Turn.isCheck ≤ Turn.stepsChecked turns

theorem counted_fresh : fresh.Counted [] := ⟨Statistics.counts_nil, Nat.le_refl _, Nat.le_refl _⟩

theorem Counted.snoc (counted : r.Counted turns)
    (counts : r'.statistics.Counts (turns ++ [turn]))
    (attached : r'.attachedProofs ≤ r.attachedProofs + if turn.isAcceptance then 1 else 0)
    (some : turn.isCheck = true → 0 < turn.stepCount) : r'.Counted (turns ++ [turn]) := by
  refine ⟨counts, ?_, ?_⟩
  · have old := counted.attached
    rw [List.countP_append, List.countP_singleton]
    omega
  · have old := counted.checks
    rw [Turn.stepsChecked_snoc, List.countP_append, List.countP_singleton]
    cases checked : turn.isCheck with
    | true =>
        have least := some checked
        rw [if_pos rfl, if_pos rfl]
        omega
    | false => exact old

theorem Counted.uncounted (counted : r.Counted turns) (none : turn.Uncounted)
    (statistics : r'.statistics = r.statistics) (attached : r'.attachedProofs = r.attachedProofs) :
    r'.Counted (turns ++ [turn]) := by
  apply counted.snoc
  · rw [statistics]
    exact counted.counts.uncounted none
  · rw [attached]
    exact Nat.le_add_right _ _
  · intro checked
    rw [none.check] at checked
    cases checked

variable {config : Config} {request : Request} {answer : Answer}

theorem Counted.verified (counted : r.Counted turns) {goal : String} {steps : List Step}
    {valid : Bool} (concluded : Proof)
    (success : turn.success? = some (.verifyProof goal steps, .verdict valid))
    (some : steps ≠ [])
    (statistics : r'.statistics = r.statistics.addVerification steps.length valid turn.time)
    (theorems : r'.theorems =
      if valid then r.theorems.modify goal (·.prove concluded) else r.theorems) :
    r'.Counted (turns ++ [turn]) := by
  obtain ⟨check, acceptance, derivation, listed⟩ := Turn.counts_verifyProof success
  apply counted.snoc
  · apply counted.counts.snoc
    · rw [if_pos check, statistics]
      rfl
    · rw [acceptance, statistics]
      rfl
    · rw [if_pos check, listed, statistics]
      rfl
    · rw [derivation, if_neg Bool.false_ne_true, statistics]
      rfl
  · rw [attachedProofs, attachedProofs, acceptance, theorems]
    cases valid with
    | true => exact Store.countP_modify_le _ _ goal r.theorems
    | false => exact Nat.le_refl _
  · rw [listed]
    exact fun _ => List.length_pos_iff.mpr some

theorem Counted.derived (counted : r.Counted turns) {rule : Rule} {f g h : Formula}
    (success : turn.success? = some (.derive rule f g, .formula (some h))) :
    Counted (turns ++ [turn]) { r with statistics := r.statistics.addRuleApplication } := by
  obtain ⟨check, acceptance, derivation⟩ := Turn.counts_derive success
  rw [Option.isSome_some] at derivation
  apply counted.snoc
  · apply counted.counts.snoc
    · rw [check, if_neg Bool.false_ne_true]
      rfl
    · rw [acceptance, if_neg Bool.false_ne_true]
      rfl
    · rw [check, if_neg Bool.false_ne_true]
      rfl
    · rw [if_pos derivation]
      rfl
  · exact Nat.le_add_right _ _
  · intro checked
    rw [check] at checked
    cases checked

theorem Counted.performs (counted : r.Counted turns)
    (success : turn.success? = some (request, answer))
    (noReset : ∀ confirmed, request ≠ .reset confirmed)
    (performs : Performs config turn.time r request answer r') :
    r'.Counted (turns ++ [turn]) := by
  have idle (other : request.isCounted = false) (statistics : r'.statistics = r.statistics)
      (attached : r'.attachedProofs = r.attachedProofs) : r'.Counted (turns ++ [turn]) :=
    counted.uncounted (Turn.uncounted_of_success success other) statistics attached
  cases performs with
  | @verifyProof goal steps proof concluded mid valid known some verdict opened =>
      obtain ⟨theorems, -, -, statistics⟩ := openProof_frame opened
      refine counted.verified concluded success some ?_ ?_
      · rw [statistics]
      · rw [theorems]
  | @derive rule first second derived applied =>
      cases derived with
      | none =>
          obtain ⟨check, acceptance, derivation⟩ := Turn.counts_derive success
          exact counted.uncounted ⟨check, acceptance, derivation⟩ rfl rfl
      | some formula => exact counted.derived success
  | defineTheorem made =>
      subst made
      apply idle rfl rfl
      simp [attachedProofs, Store.insert]
  | verifyTheorem =>
      apply idle rfl
      · split <;> rfl
      · apply attachedProofs_eq_of_items
        split
        · apply Store.map_items_modify
          exact fun _ => rfl
        · rfl
  | addStep known opened =>
      obtain ⟨theorems, -, -, statistics⟩ := openProof_frame opened
      exact idle rfl statistics (by rw [attachedProofs, theorems, attachedProofs])
  | reset => exact absurd rfl (noReset true)
  | _ => exact idle rfl rfl rfl

end Registry

/-! ## Runs -/

theorem Turn.isCheck_of_isAcceptance {turn : Turn} (accepts : turn.isAcceptance = true) :
    turn.isCheck = true := by
  unfold isAcceptance at accepts
  split at accepts
  · rename_i valid outcome
    rw [isCheck, outcome]
    simp_all [Except.isOk, Except.toBool]
  · simp at accepts

theorem Statistics.averageTime_cases (s : Statistics) :
    s.verifications = 0 ∧ s.averageTime = 0 ∨
      ∃ counted : s.verifications ≠ 0, s.averageTime = mean s.time s.verifications counted := by
  unfold averageTime
  by_cases counted : s.verifications ≠ 0
  · exact .inr ⟨counted, dif_pos counted⟩
  · exact .inl ⟨not_not.mp counted, dif_neg counted⟩

/-- The counters agree with the turns since the last reset, as far as their words go. -/
theorem statistics_count (config : Config) (calls : List (Nat × Invocation)) :
    let since := Turn.sinceReset ((Session.init { config }).history calls)
    ∃ r, ((Session.init { config }).run calls).1.registry = some r ∧
      r.statistics.verifications.toNat = since.countP Turn.isCheck % UInt32.size ∧
      r.statistics.validProofs.toNat = since.countP Turn.isAcceptance % UInt32.size ∧
      r.statistics.stepsChecked.toNat = Turn.stepsChecked since % UInt64.size ∧
      r.statistics.ruleApplications.toNat = since.countP Turn.isDerivation % UInt32.size ∧
      (since.countP Turn.isCheck < UInt32.size → Turn.stepsChecked since < UInt64.size →
        r.theorems.items.countP (·.proof.isSome) ≤ r.statistics.validProofs.toNat ∧
        r.statistics.validProofs.toNat ≤ r.statistics.verifications.toNat ∧
        r.statistics.verifications.toNat ≤ r.statistics.stepsChecked.toNat) ∧
      (r.statistics.verifications = 0 ∧ r.statistics.averageTime = 0 ∨
        ∃ counted : r.statistics.verifications ≠ 0, r.statistics.averageTime =
          Statistics.mean r.statistics.time r.statistics.verifications counted) := by
  intro since
  obtain ⟨r, present, -, counted⟩ := Session.since_run config (fun since r => r.Counted since)
    Registry.counted_fresh
    (fun failed counted => counted.uncounted (Turn.uncounted_of_error failed) rfl rfl)
    (fun success noReset ran counted => counted.performs success noReset (performs_of_ok ran))
    calls
  obtain ⟨verifications, validProofs, stepsChecked, ruleApplications⟩ := counted.counts
  refine ⟨r, present, verifications, validProofs, stepsChecked, ruleApplications, ?_,
    r.statistics.averageTime_cases⟩
  intro checksFit stepsFit
  have accepted : since.countP Turn.isAcceptance ≤ since.countP Turn.isCheck :=
    List.countP_mono_left fun turn _ => Turn.isCheck_of_isAcceptance
  have attached : r.theorems.items.countP (·.proof.isSome) ≤ since.countP Turn.isAcceptance :=
    counted.attached
  rw [verifications, validProofs, stepsChecked, Nat.mod_eq_of_lt checksFit,
    Nat.mod_eq_of_lt (accepted.trans_lt checksFit), Nat.mod_eq_of_lt stepsFit]
  exact ⟨attached, accepted, counted.checks⟩

end Proofbook
