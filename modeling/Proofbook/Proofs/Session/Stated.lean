import Proofbook.Proofs.Formula.Operands
import Proofbook.Proofs.Session.Reporting
import Proofbook.Proofs.Session.Source

namespace Proofbook

/-! ## Turns -/

def Turn.stated (turn : Turn) : List Formula :=
  match turn.success? with
  | some (request, _) => request.stated
  | none => []

def StatedIn (history : List Turn) (f : Formula) : Prop :=
  ∃ before turn since, history = before ++ turn :: since ∧ f ∈ turn.stated ∧
    ∀ later ∈ since, later.isReset = false

section

variable {turn : Turn} {history : List Turn} {f : Formula}

theorem statedIn_nil : ¬StatedIn [] f := by
  rintro ⟨before, turn, since, split, -⟩
  simp at split

theorem statedIn_cons :
    StatedIn (turn :: history) f ↔
      StatedIn history f ∨ f ∈ turn.stated ∧ ∀ later ∈ history, later.isReset = false := by
  constructor
  · rintro ⟨before, first, since, split, stated, noReset⟩
    cases before with
    | nil =>
        obtain ⟨rfl, rfl⟩ := List.cons.inj split
        exact .inr ⟨stated, noReset⟩
    | cons other before =>
        exact .inl ⟨before, first, since, (List.cons.inj split).2, stated, noReset⟩
  · rintro (⟨before, first, since, rfl, stated, noReset⟩ | ⟨stated, noReset⟩)
    · exact ⟨turn :: before, first, since, rfl, stated, noReset⟩
    · exact ⟨[], turn, history, rfl, stated, noReset⟩

theorem StatedIn.exists_turn (stated : StatedIn history f) : ∃ turn ∈ history, f ∈ turn.stated := by
  obtain ⟨before, turn, since, rfl, stated, -⟩ := stated
  exact ⟨turn, List.mem_append_right before List.mem_cons_self, stated⟩

theorem Turn.stated_of_reset (anew : turn.isReset = true) : turn.stated = [] := by
  unfold Turn.stated
  cases success : turn.success? with
  | none => rfl
  | some both =>
      obtain ⟨request, answer⟩ := both
      obtain ⟨confirmed, rfl⟩ := (Turn.isReset_of_success success).mp anew
      rfl

end

/-! ## Runs -/

namespace Session

variable {s : Session} {time : Nat} {invocation : Invocation} {f : Formula}

def stated (s : Session) : List Formula := s.registry.elim [] Registry.stated

theorem mem_stated_perform (s : Session) (time : Nat) (invocation : Invocation) (f : Formula) :
    f ∈ (s.perform time invocation).1.stated ↔
      if (Turn.mk time invocation (s.perform time invocation).2).isReset then
        f ∈ Registry.fresh.stated
      else f ∈ s.stated ∨
        f ∈ (Turn.mk time invocation (s.perform time invocation).2).stated := by
  cases outcome : (s.perform time invocation).2 with
  | error fault =>
      have failed : (Turn.mk time invocation (.error fault)).success? = none :=
        Turn.success?_eq_none_of_error rfl
      simp [perform_failed outcome, Turn.isReset, Turn.stated, failed]
  | ok answer =>
      obtain ⟨r, r', request, before, requested, performed, after⟩ := perform_ok outcome
      have success : (Turn.mk time invocation (.ok answer)).success? = some (request, answer) :=
        success?_of_ok requested
      have performs := performs_of_ok performed
      rw [after]
      cases anew : (Turn.mk time invocation (.ok answer)).isReset with
      | true =>
          obtain ⟨confirmed, rfl⟩ := (Turn.isReset_of_success success).mp anew
          cases performs with
          | reset => simp [stated]
      | false =>
          have noReset : ∀ confirmed, request ≠ .reset confirmed := by
            rintro confirmed rfl
            rw [Turn.isReset, success] at anew
            cases anew
          simp only [stated, before, Turn.stated, success, Option.elim_some]
          simpa using mem_stated performs noReset

theorem mem_stated_run (s : Session) (calls : List (Nat × Invocation)) (f : Formula) :
    f ∈ (s.run calls).1.stated ↔ StatedIn (s.history calls) f ∨
      f ∈ if (s.history calls).any Turn.isReset then Registry.fresh.stated else s.stated := by
  induction calls generalizing s with
  | nil => simp [history, statedIn_nil]
  | cons call rest ih =>
      obtain ⟨time, invocation⟩ := call
      have step := mem_stated_perform s time invocation f
      rw [run_cons, history_cons, statedIn_cons, List.any_cons, ih]
      -- What the first turn leaves matters only if no later turn resets.
      cases later : ((s.perform time invocation).1.history rest).any Turn.isReset with
      | true =>
          have someReset : ¬∀ turn ∈ (s.perform time invocation).1.history rest,
              turn.isReset = false := by simpa using later
          simp [someReset]
      | false =>
          have noReset : ∀ turn ∈ (s.perform time invocation).1.history rest,
              turn.isReset = false := by simpa using later
          cases anew : (Turn.mk time invocation (s.perform time invocation).2).isReset with
          | true =>
              rw [anew, if_pos rfl] at step
              simp [Turn.stated_of_reset anew, step]
          | false =>
              rw [anew, if_neg Bool.false_ne_true] at step
              simp only [Bool.false_or, Bool.false_eq_true, if_false, step]
              grind

theorem mem_stated (config : Config) (calls : List (Nat × Invocation)) (f : Formula) :
    f ∈ ((init { config }).run calls).1.stated ↔
      f ∈ Axiom.seeds.map Axiom.statement ∨ StatedIn ((init { config }).history calls) f := by
  rw [mem_stated_run, or_comm]
  have start : (init { config }).stated = Registry.fresh.stated := rfl
  rw [start, ite_self]
  exact Iff.rfl

end Session

/-! ## Operands -/

theorem Turn.Performed.stateable {turn : Turn} (performed : turn.Performed) {f : Formula}
    (stated : f ∈ turn.stated) : f.Stateable := by
  unfold Turn.stated at stated
  split at stated
  · rename_i request answer success
    obtain ⟨call, -, reading, -⟩ := Turn.reading_of_success success
    obtain ⟨arg, -, value, -, decoded⟩ := Request.source_of_stated reading f stated
    refine ⟨?_, Formula.single_of_decode decoded⟩
    obtain ⟨config, r, r', performs⟩ := performed.performs success
    cases performs with
    | defineTheorem made free wellFormed =>
        subst made
        simp only [Theorem.isWellFormed, Bool.and_eq_true, List.all_eq_true, Option.all_eq_true]
          at wellFormed
        simp only [Request.stated, List.mem_append, List.mem_cons, Option.mem_toList] at stated
        grind
    | addAxiom free wellFormed =>
        obtain rfl := List.mem_singleton.mp stated
        exact wellFormed
    | _ => cases stated
  · cases stated

/-- What is stated has its operands outermost. Below, a binary connective may lack its left one. -/
theorem operands_of_stated (config : Config) (calls : List (Nat × Invocation)) :
    let s := ((Session.init { config }).run calls).1
    let history := (Session.init { config }).history calls
    ∃ r, s.registry = some r ∧
      (∀ f, f ∈ r.stated ↔ f ∈ Axiom.seeds.map Axiom.statement ∨ StatedIn history f) ∧
      ∀ f ∈ r.stated, f.hasItsOperands = true ∧ f.Single ∧
        (f.Complete ↔
          ∀ part ∈ f.children, ∀ sub, Formula.Subformula sub part → sub.isDangling = false) := by
  intro s history
  have performed := Session.forall_history Session.performed_perform (Session.init { config }) calls
  have start : (Session.init { config }).registry = some .fresh := rfl
  obtain ⟨r, present⟩ := Session.registry_run start calls
  have exactly (f : Formula) :
      f ∈ r.stated ↔ f ∈ Axiom.seeds.map Axiom.statement ∨ StatedIn history f := by
    have stated := Session.mem_stated config calls f
    rwa [Session.stated, present] at stated
  refine ⟨r, present, exactly, fun f mem => ?_⟩
  have stateable : f.Stateable := by
    rcases (exactly f).mp mem with seeded | stated
    · obtain ⟨a, among, rfl⟩ := List.mem_map.mp seeded
      exact Formula.stateable_seeds a among
    · obtain ⟨turn, inside, stated⟩ := stated.exists_turn
      exact (performed turn inside).stateable stated
  exact ⟨stateable.hasItsOperands, stateable.single, stateable.complete_iff⟩

/-- `¬(∧ P)`: a negation of a conjunction without its left operand. -/
def Formula.denial : Formula := negation (connective .and none (atom "P"))

theorem incomplete_stated :
    ¬∀ f ∈ ((Session.init { config := {} }).run
      [(0, ⟨"axiom_add", [.string "a", Formula.denial.encode]⟩)]).1.stated, f.Complete := by
  intro all
  have stated : Formula.denial ∈ ((Session.init { config := {} }).run
      [(0, ⟨"axiom_add", [.string "a", Formula.denial.encode]⟩)]).1.stated :=
    List.mem_append_right (Axiom.seeds.map Axiom.statement) List.mem_cons_self
  have complete := all Formula.denial stated (.connective .and none (.atom "P"))
    (.part List.mem_cons_self (.self _))
  cases complete

end Proofbook
