import Proofbook.Proofs.Truth.Propositional

/-!
With a boolean chosen for each place that is left open, a formula has an ordinary two-valued
reading. Three-valued evaluation is exact because the choices at different places are independent
of each other, so that every reading of the left operand goes with every reading of the right one.
-/

namespace Proofbook

def Connective.meaning : Connective → Bool → Bool → Bool
  | .and => fun a b => a && b
  | .or => fun a b => a || b
  | .implies => fun a b => !a || b
  | .iff | .not => fun a b => a == b

namespace Truth

/-- The booleans that a truth value leaves possible. -/
def admits : Truth → Bool → Bool
  | holds, b => b
  | fails, b => !b
  | undecidable, _ => true

theorem admits_ofBool (a b : Bool) : (ofBool a).admits b = true ↔ a = b := by
  cases a <;> cases b <;> decide

theorem ofBool_ne_undecidable (b : Bool) : ofBool b ≠ undecidable := by
  cases b <;> decide

theorem admits_not (t : Truth) (b : Bool) : t.not.admits b = t.admits !b := by
  cases t <;> cases b <;> rfl

theorem admits_truth (kind : Connective) (a b : Truth) (c : Bool) :
    (kind.truth a b).admits c = true ↔
      ∃ x y, a.admits x = true ∧ b.admits y = true ∧ kind.meaning x y = c := by
  cases kind <;> cases a <;> cases b <;> cases c <;> decide

theorem eq_ofBool_iff (t : Truth) (b : Bool) : t = ofBool b ↔ ∀ c, t.admits c = true → c = b := by
  cases t <;> cases b <;> decide

end Truth

namespace Formula

variable {σ : Assignment} {f : Formula} {t : Truth}

/-! ## Readings -/

/-- Nothing says whether the formula holds. -/
def isOpen (σ : Assignment) : Formula → Bool
  | proposition name truth => ((σ name).or truth).isNone
  | f => f.isUndecidable

def OpenAt (σ : Assignment) (f : Formula) (place : Place) : Prop :=
  ∃ g, Reaches f place g ∧ g.isOpen σ = true

abbrev Choice := Place → Bool

namespace Choice

def below (choice : Choice) (side : Side) : Choice := fun place => choice (side :: place)

def join (onLeft onRight : Choice) : Choice
  | [] => false
  | .left :: place => onLeft place
  | .right :: place => onRight place

end Choice

/-- The two-valued reading of a formula, with a boolean chosen for whatever is open. -/
def reading (σ : Assignment) (choice : Choice) : Formula → Bool
  | proposition name truth => ((σ name).or truth).getD (choice [])
  | connective .not left right =>
    if isUndecidable (connective .not left right) then choice []
    else !reading σ (choice.below .right) right
  | connective kind (some left) right =>
    kind.meaning (reading σ (choice.below .left) left) (reading σ (choice.below .right) right)
  | _ => choice []

theorem isOpen_of_isUndecidable (shape : f.isUndecidable = true) : f.isOpen σ = true := by
  cases f with
  | proposition => cases shape
  | _ => exact shape

theorem reading_negation {left : Option Formula} {right : Formula}
    (plain : isUndecidable (connective .not left right) = false) (choice : Choice) :
    reading σ choice (connective .not left right) = !reading σ (choice.below .right) right := by
  cases left <;> simp [reading, plain]

theorem reading_binary {kind : Connective} (binary : kind ≠ .not) (left right : Formula)
    (choice : Choice) :
    reading σ choice (connective kind (some left) right) =
      kind.meaning (reading σ (choice.below .left) left)
        (reading σ (choice.below .right) right) := by
  rw [reading]
  exact binary

theorem reading_of_isUndecidable (shape : f.isUndecidable = true) (choice : Choice) :
    reading σ choice f = choice [] := by
  cases f with
  | connective kind left right =>
      cases kind with
      | not => cases left <;> simp [reading, shape]
      | and | or | implies | iff => cases shape
  | quantified => simp [reading]
  | _ => cases shape

/-! ## Values and readings -/

theorem admits_iff_reading (h : evaluate σ f = .ok t) (b : Bool) :
    t.admits b = true ↔ ∃ choice, reading σ choice f = b := by
  have propositional := propositional_of_ok h
  induction propositional generalizing t b with
  | proposition name truth =>
      rw [evaluate_proposition] at h
      cases value : (σ name).or truth with
      | none =>
          simp only [value, Except.ok.injEq, Option.elim_none] at h
          subst h
          exact ⟨fun _ => ⟨fun _ => b, by simp [reading, value]⟩, fun _ => rfl⟩
      | some a =>
          simp only [value, Except.ok.injEq, Option.elim_some] at h
          subst h
          simp [reading, value, Truth.admits_ofBool]
  | @undecidable f shape =>
      rw [evaluate_of_isUndecidable shape, Except.ok.injEq] at h
      subst h
      exact ⟨fun _ => ⟨fun _ => b, reading_of_isUndecidable shape _⟩, fun _ => rfl⟩
  | @negation right left inside ih =>
      obtain ⟨a, ha⟩ := inside.evaluates σ
      have plain := isUndecidable_negation_of_ok ha left
      rw [evaluate_negation_of_ok ha, Except.ok.injEq] at h
      subst h
      simp only [Truth.admits_not, ih ha, reading_negation plain]
      constructor
      · rintro ⟨choice, read⟩
        refine ⟨choice.join choice, ?_⟩
        change (!reading σ choice right) = b
        rw [read, Bool.not_not]
      · rintro ⟨choice, read⟩
        exact ⟨choice.below .right, by rw [← read, Bool.not_not]⟩
  | @binary kind left right binary inLeft inRight ihLeft ihRight =>
      obtain ⟨x, y, hx, hy, rfl⟩ := (evaluate_binary_ok binary).mp h
      simp only [Truth.admits_truth, ihLeft hx, ihRight hy, reading_binary binary]
      constructor
      · rintro ⟨_, _, ⟨onLeft, rfl⟩, ⟨onRight, rfl⟩, rfl⟩
        exact ⟨onLeft.join onRight, rfl⟩
      · rintro ⟨choice, rfl⟩
        exact ⟨_, _, ⟨choice.below .left, rfl⟩, ⟨choice.below .right, rfl⟩, rfl⟩

theorem reading_congr (propositional : Propositional f) {choice choice' : Choice}
    (same : ∀ place, OpenAt σ f place → choice place = choice' place) :
    reading σ choice f = reading σ choice' f := by
  induction propositional generalizing choice choice' with
  | proposition name truth =>
      cases value : (σ name).or truth with
      | none =>
          have here := same [] ⟨_, .here _, by simp [isOpen, value]⟩
          simp [reading, value, here]
      | some a => simp [reading, value]
  | @undecidable f shape =>
      rw [reading_of_isUndecidable shape, reading_of_isUndecidable shape]
      exact same [] ⟨f, .here f, isOpen_of_isUndecidable shape⟩
  | @negation right left inside ih =>
      obtain ⟨a, ha⟩ := inside.evaluates σ
      have plain := isUndecidable_negation_of_ok ha left
      rw [reading_negation plain, reading_negation plain]
      congr 1
      apply ih
      rintro place ⟨g, reached, opened⟩
      exact same _ ⟨g, .denied plain reached, opened⟩
  | @binary kind left right binary _ _ ihLeft ihRight =>
      rw [reading_binary binary, reading_binary binary]
      congr 1
      · apply ihLeft
        rintro place ⟨g, reached, opened⟩
        exact same _ ⟨g, .left right binary reached, opened⟩
      · apply ihRight
        rintro place ⟨g, reached, opened⟩
        exact same _ ⟨g, .right left binary reached, opened⟩

theorem eq_ofBool_iff_reading (h : evaluate σ f = .ok t) (b : Bool) :
    t = .ofBool b ↔ ∀ choice, reading σ choice f = b := by
  simp only [Truth.eq_ofBool_iff, admits_iff_reading h]
  exact ⟨fun all choice => all _ ⟨choice, rfl⟩, fun all _ ⟨choice, read⟩ => read ▸ all choice⟩

theorem definite_values_are_classical {σ : Assignment} {f : Formula} {t : Truth}
    (h : evaluate σ f = .ok t) :
    (t = .holds ↔ ∀ choice, reading σ choice f = true) ∧
    (t = .fails ↔ ∀ choice, reading σ choice f = false) ∧
    (∀ choice choice' : Choice, (∀ place, OpenAt σ f place → choice place = choice' place) →
      reading σ choice f = reading σ choice' f) ∧
    ((∀ place, ¬OpenAt σ f place) →
      t ≠ .undecidable ∧ ∀ choice, t = .ofBool (reading σ choice f)) := by
  have depends {choice choice' : Choice}
      (same : ∀ place, OpenAt σ f place → choice place = choice' place) :=
    reading_congr (propositional_of_ok h) same
  refine ⟨eq_ofBool_iff_reading h true, eq_ofBool_iff_reading h false, fun _ _ => depends,
    fun closed => ?_⟩
  have definite (choice : Choice) : t = .ofBool (reading σ choice f) :=
    (eq_ofBool_iff_reading h _).mpr fun other =>
      depends fun place opened => absurd opened (closed place)
  exact ⟨definite (fun _ => false) ▸ Truth.ofBool_ne_undecidable _, definite⟩

def halfOpen : Formula :=
  conjunction (disjunction (atom "P") (negation (predicate "Provable" [])))
    (negation (conjunction (proposition "Q" (some false))
      (forAll "x" (implication (atom "P") (atom "Q")))))

def onlyP : Assignment := fun name => if name = "P" then some true else none

theorem definite_values_are_classical_half_open :
    evaluate onlyP halfOpen = .ok .holds ∧ OpenAt onlyP halfOpen [.left, .right] ∧
      OpenAt onlyP halfOpen [.right, .right, .right] ∧
      ∀ choice, reading onlyP choice halfOpen = true := by
  have value : evaluate onlyP halfOpen = .ok .holds := by rfl
  have unprovable : OpenAt onlyP halfOpen [.left, .right] :=
    ⟨_, .left _ (by decide) (.right _ (by decide) (.here _)), rfl⟩
  have implied : OpenAt onlyP halfOpen [.right, .right, .right] :=
    ⟨_, .right _ (by decide) (.denied rfl (.right _ (by decide) (.here _))), rfl⟩
  exact ⟨value, unprovable, implied, (definite_values_are_classical value).1.mp rfl⟩

end Formula

end Proofbook
