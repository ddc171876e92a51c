import Proofbook.Proofs.Truth.Classical

namespace Proofbook

namespace Truth

/-- The second value leaves no boolean possible that the first one excludes. -/
def SettledBy (a b : Truth) : Prop := ∀ c, b.admits c = true → a.admits c = true

theorem settledBy_iff {a b : Truth} : a.SettledBy b ↔ a = b ∨ a = undecidable := by
  unfold SettledBy
  cases a <;> cases b <;> decide

theorem SettledBy.not {a b : Truth} (settled : a.SettledBy b) : a.not.SettledBy b.not := by
  intro c possible
  rw [admits_not] at possible ⊢
  exact settled _ possible

theorem SettledBy.truth {a b a' b' : Truth} (kind : Connective) (left : a.SettledBy a')
    (right : b.SettledBy b') : (kind.truth a b).SettledBy (kind.truth a' b') := by
  intro c possible
  obtain ⟨x, y, hx, hy, made⟩ := (admits_truth kind a' b' c).mp possible
  exact (admits_truth kind a b c).mpr ⟨x, y, left x hx, right y hy, made⟩

theorem SettledBy.antisymm {a b : Truth} (settled : a.SettledBy b) (back : b.SettledBy a) :
    a = b := by
  rcases settledBy_iff.mp settled with same | rfl
  · exact same
  · exact ((settledBy_iff.mp back).elim id id).symm

theorem SettledBy.of_ofBool {value : Bool} {b : Truth} (settled : (ofBool value).SettledBy b) :
    b = ofBool value :=
  ((settledBy_iff.mp settled).resolve_right (ofBool_ne_undecidable value)).symm

end Truth

namespace Formula

variable {σ τ : Assignment} {f : Formula}

/-- Every proposition in the formula that has a value under the first assignment keeps it. -/
def KeepsValues (σ τ : Assignment) (f : Formula) : Prop :=
  ∀ name truth, Subformula (proposition name truth) f →
    ∀ b, (σ name).or truth = some b → (τ name).or truth = some b

theorem KeepsValues.part (keeps : KeepsValues σ τ f) {part : Formula} (mem : part ∈ f.children) :
    KeepsValues σ τ part :=
  fun name truth inside => keeps name truth (.part mem inside)

theorem settledBy_of_keepsValues (keeps : KeepsValues σ τ f) {a b : Truth}
    (ha : evaluate σ f = .ok a) (hb : evaluate τ f = .ok b) : a.SettledBy b := by
  have propositional := propositional_of_ok ha
  induction propositional generalizing a b with
  | proposition name truth =>
      rw [evaluate_proposition, Except.ok.injEq] at ha hb
      subst ha hb
      cases value : (σ name).or truth with
      | none => exact fun _ _ => rfl
      | some known => rw [keeps name truth (.self _) known value]; exact fun _ => id
  | undecidable shape =>
      rw [evaluate_of_isUndecidable shape, Except.ok.injEq] at ha
      subst ha
      exact fun _ _ => rfl
  | @negation right left inside ih =>
      obtain ⟨x, hx⟩ := inside.evaluates σ
      obtain ⟨y, hy⟩ := inside.evaluates τ
      rw [evaluate_negation_of_ok hx, Except.ok.injEq] at ha
      rw [evaluate_negation_of_ok hy, Except.ok.injEq] at hb
      subst ha hb
      exact (ih (keeps.part (by simp [children])) hx hy).not
  | @binary kind left right binary _ _ ihLeft ihRight =>
      obtain ⟨x, y, hx, hy, rfl⟩ := (evaluate_binary_ok binary).mp ha
      obtain ⟨x', y', hx', hy', rfl⟩ := (evaluate_binary_ok binary).mp hb
      exact (ihLeft (keeps.part (by simp [children])) hx hx').truth kind
        (ihRight (keeps.part (by simp [children])) hy hy')

theorem evaluate_congr
    (same : ∀ name truth, Subformula (proposition name truth) f →
      (σ name).or truth = (τ name).or truth) : evaluate σ f = evaluate τ f := by
  rcases propositional_or_reports f with propositional | ⟨place, g, -, reported⟩
  · obtain ⟨a, ha⟩ := propositional.evaluates σ
    obtain ⟨b, hb⟩ := propositional.evaluates τ
    have keeps : KeepsValues σ τ f := fun name truth inside _ value =>
      same name truth inside ▸ value
    have back : KeepsValues τ σ f := fun name truth inside _ value =>
      (same name truth inside).symm ▸ value
    have settled := settledBy_of_keepsValues keeps ha hb
    rw [ha, hb, settled.antisymm (settledBy_of_keepsValues back hb ha)]
  · rw [reported, reported]

theorem evaluation_is_monotone (σ τ : Assignment) (f : Formula) :
    (KeepsValues σ τ f →
      (∀ b, evaluate σ f = .ok (.ofBool b) → evaluate τ f = .ok (.ofBool b)) ∧
      (evaluate τ f = evaluate σ f ∨
        evaluate σ f = .ok .undecidable ∧ ∃ t, evaluate τ f = .ok t)) ∧
    ((∀ name truth, Subformula (proposition name truth) f →
      (σ name).or truth = (τ name).or truth) → evaluate σ f = evaluate τ f) := by
  refine ⟨fun keeps => ?_, evaluate_congr⟩
  rcases propositional_or_reports f with propositional | ⟨place, g, -, reported⟩
  · obtain ⟨a, ha⟩ := propositional.evaluates σ
    obtain ⟨b, hb⟩ := propositional.evaluates τ
    have settled := settledBy_of_keepsValues keeps ha hb
    rw [ha, hb]
    refine ⟨fun value definite => ?_, ?_⟩
    · obtain rfl := Except.ok.inj definite
      rw [settled.of_ofBool]
    · rcases Truth.settledBy_iff.mp settled with same | rfl
      · exact .inl (by rw [same])
      · exact .inr ⟨rfl, b, rfl⟩
  · rw [reported, reported]
    exact ⟨fun _ definite => definite, .inl rfl⟩

def halfKnown : Formula := disjunction (atom "P") (proposition "Q" (some true))

theorem evaluation_is_monotone_half_known :
    KeepsValues (fun _ => none) (fun name => some (name == "Q")) halfKnown ∧
    evaluate (fun _ => none) halfKnown = .ok .holds ∧
    evaluate (fun name => some (name == "Q")) halfKnown = .ok .holds := by
  have keeps : KeepsValues (fun _ => none) (fun name => some (name == "Q")) halfKnown := by
    intro name truth inside b value
    cases inside with
    | part mem inside =>
        have operands : _ ∈ [atom "P", proposition "Q" (some true)] := mem
        rw [List.mem_cons, List.mem_singleton] at operands
        rcases operands with rfl | rfl
        · cases inside with
          | self => cases value
          | part mem => cases mem
        · cases inside with
          | self => exact value
          | part mem => cases mem
  have before : evaluate (fun _ => none) halfKnown = .ok .holds := by rfl
  exact ⟨keeps, before, ((evaluation_is_monotone _ _ halfKnown).1 keeps).1 true before⟩

end Formula

end Proofbook
