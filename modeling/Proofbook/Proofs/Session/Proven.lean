import Proofbook.Proofs.Session.History

namespace Proofbook

namespace Theorem

variable {t : Theorem} {turn : Turn}

/-! ## One turn -/

theorem after_stated (t : Theorem) (turn : Turn) :
    (t.after turn).name = t.name ∧ (t.after turn).statement = t.statement ∧
      (t.after turn).hypotheses = t.hypotheses ∧ (t.after turn).conclusion = t.conclusion := by
  unfold after
  split
  · exact ⟨rfl, rfl, rfl, rfl⟩
  · split <;> exact ⟨rfl, rfl, rfl, rfl⟩

theorem isEntailed_after (t : Theorem) (turn : Turn) :
    (t.after turn).isEntailed = t.isEntailed := by
  obtain ⟨-, -, hypotheses, conclusion⟩ := after_stated t turn
  rw [isEntailed, hypotheses, conclusion, isEntailed]

theorem proof_after_proven {steps : List Step} (proven : turn.provenWith? t.name = some steps) :
    (t.after turn).proof = some (.accepted t.name steps turn.time) := by
  simp [after, proven, prove]

theorem proof_after_other (other : turn.provenWith? t.name = none) :
    (t.after turn).proof = t.proof := by
  simp only [after, other]
  split <;> rfl

theorem isProven_after (t : Theorem) (turn : Turn) :
    (t.after turn).isProven = true ↔
      t.isProven = true ∨ (turn.provenWith? t.name).isSome = true ∨
        turn.verifies t.name = true ∧ (t.proof.isSome = true ∨ t.isEntailed = true) := by
  unfold after
  cases turn.provenWith? t.name with
  | some steps => simp [prove]
  | none =>
      by_cases confirmed : (turn.verifies t.name && (t.proof.isSome || t.isEntailed)) = true
      · rw [if_pos confirmed]
        simp only [Bool.and_eq_true, Bool.or_eq_true] at confirmed
        simp [markProven, confirmed]
      · rw [if_neg confirmed]
        simp only [Bool.and_eq_true, Bool.or_eq_true] at confirmed
        simp [confirmed]

/-! ## The turns since a definition -/

theorem foldl_stated (t : Theorem) (since : List Turn) :
    (since.foldl after t).name = t.name ∧ (since.foldl after t).statement = t.statement ∧
      (since.foldl after t).hypotheses = t.hypotheses ∧
      (since.foldl after t).conclusion = t.conclusion := by
  induction since generalizing t with
  | nil => exact ⟨rfl, rfl, rfl, rfl⟩
  | cons turn rest ih =>
      obtain ⟨name, statement, hypotheses, conclusion⟩ := ih (t.after turn)
      obtain ⟨name', statement', hypotheses', conclusion'⟩ := after_stated t turn
      exact ⟨name.trans name', statement.trans statement', hypotheses.trans hypotheses',
        conclusion.trans conclusion'⟩

theorem proof_foldl (t : Theorem) (since : List Turn) :
    (∀ turn ∈ since, turn.provenWith? t.name = none) ∧
        (since.foldl after t).proof = t.proof ∨
      ∃ earlier turn later steps, since = earlier ++ turn :: later ∧
        turn.provenWith? t.name = some steps ∧ (∀ u ∈ later, u.provenWith? t.name = none) ∧
        (since.foldl after t).proof = some (.accepted t.name steps turn.time) := by
  induction since generalizing t with
  | nil => exact .inl ⟨List.forall_mem_nil _, rfl⟩
  | cons turn rest ih =>
      have ih := ih (t.after turn)
      rw [(after_stated t turn).1] at ih
      rcases ih with ⟨none, kept⟩ | ⟨earlier, last, later, steps, split, proven, none, attached⟩
      · cases proven : turn.provenWith? t.name with
        | none =>
            refine .inl ⟨?_, kept.trans (proof_after_other proven)⟩
            intro u mem
            rcases List.mem_cons.mp mem with rfl | later
            · exact proven
            · exact none u later
        | some steps =>
            exact .inr ⟨[], turn, rest, steps, rfl, proven, none,
              kept.trans (proof_after_proven proven)⟩
      · exact .inr ⟨turn :: earlier, last, later, steps, by rw [split]; rfl, proven, none, attached⟩

theorem isProven_foldl {t : Theorem} (attached : t.proof.isSome = true → t.isProven = true)
    (since : List Turn) :
    (since.foldl after t).isProven = true ↔
      t.isProven = true ∨ (∃ turn ∈ since, (turn.provenWith? t.name).isSome = true) ∨
        (∃ turn ∈ since, turn.verifies t.name = true) ∧ t.isEntailed = true := by
  induction since generalizing t with
  | nil => simp
  | cons turn rest ih =>
      have attachedAfter : (t.after turn).proof.isSome = true → (t.after turn).isProven = true := by
        intro present
        rw [isProven_after]
        cases proven : turn.provenWith? t.name with
        | some steps => simp
        | none =>
            rw [proof_after_other proven] at present
            exact .inl (attached present)
      rw [List.foldl_cons, ih attachedAfter, isProven_after, (after_stated t turn).1,
        isEntailed_after]
      simp only [List.mem_cons, exists_eq_or_imp]
      grind

end Theorem

/-! ## The account of a theorem -/

/-- What a theorem is by now, judged by its definition and the turns since then. -/
structure Accounts (new : Theorem) (since : List Turn) (t : Theorem) : Prop where
  name : t.name = new.name
  statement : t.statement = new.statement
  hypotheses : t.hypotheses = new.hypotheses
  conclusion : t.conclusion = new.conclusion
  attached : t.proof.isSome = true ↔ ∃ turn ∈ since, (turn.provenWith? t.name).isSome = true
  latest : ∀ proof, t.proof = some proof →
    ∃ (earlier : List Turn) (turn : Turn) (later : List Turn) (steps : List Step),
    since = earlier ++ turn :: later ∧ turn.provenWith? t.name = some steps ∧
    (∀ u ∈ later, u.provenWith? t.name = none) ∧
    proof.steps = steps.map Step.formula ∧ proof.justifications = steps.map Step.justification ∧
    proof.state = .verifiedValid ∧ checkSteps proof.steps = true
  proven : t.isProven = true ↔ t.proof.isSome = true ∨
    (∃ turn ∈ since, turn.verifies t.name = true) ∧
      ∃ c, t.conclusion = some c ∧ Formula.entails t.hypotheses c = true

theorem Theorem.isEntailed_iff (t : Theorem) :
    t.isEntailed = true ↔ ∃ c, t.conclusion = some c ∧ Formula.entails t.hypotheses c = true := by
  unfold isEntailed
  cases t.conclusion <;> simp

structure Theorem.New (t : Theorem) : Prop where
  unattached : t.proof = none
  unproven : t.isProven = false

theorem accounts_foldl {new : Theorem} (fresh : new.New) {since : List Turn}
    (checked : ∀ turn ∈ since, turn.Checked) :
    Accounts new since (since.foldl Theorem.after new) := by
  obtain ⟨name, statement, hypotheses, conclusion⟩ := Theorem.foldl_stated new since
  have attached : (since.foldl Theorem.after new).proof.isSome = true ↔
      ∃ turn ∈ since, (turn.provenWith? new.name).isSome = true := by
    rcases Theorem.proof_foldl new since with ⟨none, kept⟩ |
      ⟨earlier, turn, later, steps, rfl, proven, -, attached⟩
    · rw [kept, fresh.unattached]
      refine ⟨nofun, ?_⟩
      rintro ⟨turn, mem, proven⟩
      rw [none turn mem] at proven
      cases proven
    · rw [attached]
      exact ⟨fun _ => ⟨turn, by simp, by rw [proven]; rfl⟩, fun _ => rfl⟩
  refine ⟨name, statement, hypotheses, conclusion, by rwa [name], ?_, ?_⟩
  · intro proof present
    rw [name]
    rcases Theorem.proof_foldl new since with ⟨-, kept⟩ |
      ⟨earlier, turn, later, steps, split, proven, none, attached⟩
    · rw [kept, fresh.unattached] at present
      cases present
    · obtain rfl := Option.some.inj (attached.symm.trans present)
      have passed := checked turn (by simp [split]) _ steps proven
      exact ⟨earlier, turn, later, steps, split, proven, none, rfl, rfl, rfl, passed⟩
  · have unattached : new.proof.isSome = true → new.isProven = true := by
      rw [fresh.unattached]
      exact nofun
    rw [Theorem.isProven_foldl unattached, ← attached, fresh.unproven, name, hypotheses,
      conclusion, Theorem.isEntailed_iff]
    simp

theorem Turn.new_of_definition {turn : Turn} {t : Theorem} (defined : turn.definition? = some t) :
    t.New := by
  unfold definition? at defined
  split at defined
  · cases defined
    exact ⟨rfl, rfl⟩
  · cases defined

end Proofbook
