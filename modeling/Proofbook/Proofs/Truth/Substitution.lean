import Proofbook.Proofs.Formula.Substitution
import Proofbook.Proofs.Truth.Propositional

/-!
A substitution may give a value to a formula that has none: in `¬x` a predicate about provability
may take the place of the variable. But it takes no value away and changes none, since evaluation
comes to no variable in a formula that has a value, and the shapes at which it ends keep their
shape.
-/

namespace Proofbook.Formula

variable {f g : Formula} {place : Place} (x : String) (r : Formula)

/-! ## Shapes -/

theorem isUndecidable_substituted (shape : f.isUndecidable = true) :
    (substitute x r f).isUndecidable = true := by
  unfold isUndecidable at shape
  split at shape
  · exact shape
  · -- The body is an implication, shielded or not.
    rw [substitute_quantified]
    split <;> rfl
  · cases shape

theorem isUndecidable_negation_of_propositional {right : Formula}
    (propositional : Propositional right) (left : Option Formula) :
    isUndecidable (connective .not left right) = false := by
  obtain ⟨t, value⟩ := propositional.evaluates fun _ => none
  exact isUndecidable_negation_of_ok value left

theorem isUndecidable_binary {kind : Connective} (binary : kind ≠ .not) (left : Option Formula)
    (right : Formula) : isUndecidable (connective kind left right) = false := by
  simp [isUndecidable, binary]

theorem propositional_substitute (propositional : Propositional f) :
    Propositional (substitute x r f) := by
  induction propositional with
  | proposition name truth => exact .proposition name truth
  | undecidable shape => exact .undecidable (isUndecidable_substituted x r shape)
  | negation left _ ih => exact .negation _ ih
  | binary binary _ _ ihLeft ihRight => exact .binary binary ihLeft ihRight

theorem isUndecidable_substitute (propositional : Propositional f) :
    (substitute x r f).isUndecidable = f.isUndecidable := by
  cases propositional with
  | proposition name truth => rfl
  | undecidable shape => rw [shape, isUndecidable_substituted x r shape]
  | negation left inside =>
      rw [isUndecidable_negation_of_propositional inside]
      exact isUndecidable_negation_of_propositional (propositional_substitute x r inside) _
  | binary binary =>
      rw [isUndecidable_binary binary]
      exact isUndecidable_binary binary _ _

/-! ## Values -/

theorem evaluate_substitute (propositional : Propositional f) (σ : Assignment) :
    evaluate σ (substitute x r f) = evaluate σ f := by
  induction propositional with
  | proposition name truth => rfl
  | undecidable shape =>
      have kept := isUndecidable_substituted x r shape
      rw [evaluate_of_isUndecidable shape, evaluate_of_isUndecidable kept]
  | @negation right left inside ih =>
      have kept := isUndecidable_substitute x r (.negation left inside)
      change isUndecidable (connective .not _ (substitute x r right)) = _ at kept
      change evaluate σ (connective .not _ (substitute x r right)) = _
      rw [evaluate_negation, evaluate_negation, kept, ih]
  | @binary kind left right binary _ _ ihLeft ihRight =>
      change evaluate σ (connective kind (some (substitute x r left)) (substitute x r right)) = _
      rw [evaluate_binary binary, evaluate_binary binary, ihLeft, ihRight]

/-! ## The way of evaluation -/

theorem Reaches.place_of_isUndecidable (reached : Reaches f place g)
    (shape : f.isUndecidable = true) : place = [] := by
  cases reached with
  | here => rfl
  | denied plain => rw [shape] at plain; cases plain
  | left right binary => rw [isUndecidable_binary binary] at shape; cases shape
  | right left binary => rw [isUndecidable_binary binary] at shape; cases shape

theorem Propositional.reached (propositional : Propositional f) (reached : Reaches f place g) :
    Propositional g := by
  induction reached with
  | here => exact propositional
  | denied plain inside ih =>
      apply ih
      cases propositional with
      | undecidable shape => rw [plain] at shape; cases shape
      | negation _ inside => exact inside
      | binary binary => exact absurd rfl binary
  | left right binary inside ih =>
      apply ih
      cases propositional with
      | undecidable shape => rw [isUndecidable_binary binary] at shape; cases shape
      | negation => exact absurd rfl binary
      | binary _ first => exact first
  | right left binary inside ih =>
      apply ih
      cases propositional with
      | undecidable shape => rw [isUndecidable_binary binary] at shape; cases shape
      | negation => exact absurd rfl binary
      | binary _ _ second => exact second

theorem reaches_substitute (propositional : Propositional f) (reached : Reaches f place g) :
    Reaches (substitute x r f) place (substitute x r g) := by
  induction reached with
  | here => exact .here _
  | denied plain inside ih =>
      have operand := propositional.reached (.denied plain (.here _))
      refine .denied ?_ (ih operand)
      exact isUndecidable_negation_of_propositional (propositional_substitute x r operand) _
  | left right binary inside ih =>
      exact .left _ binary (ih (propositional.reached (.left right binary (.here _))))
  | right left binary inside ih =>
      exact .right _ binary (ih (propositional.reached (.right left binary (.here _))))

theorem reaches_of_substitute (propositional : Propositional f) {h : Formula}
    (reached : Reaches (substitute x r f) place h) :
    ∃ g, Reaches f place g ∧ substitute x r g = h := by
  induction propositional generalizing place with
  | proposition name truth =>
      cases reached with
      | here => exact ⟨_, .here _, rfl⟩
  | @undecidable f shape =>
      obtain rfl := reached.eq_of_isUndecidable (isUndecidable_substituted x r shape)
      cases reached.place_of_isUndecidable (isUndecidable_substituted x r shape)
      exact ⟨f, .here f, rfl⟩
  | @negation right left inside ih =>
      change Reaches (connective .not (substituteOption x r left) (substitute x r right)) _ _
        at reached
      generalize stray : substituteOption x r left = left' at reached
      cases reached with
      | here => exact ⟨_, .here _, congrArg (connective .not · _) stray⟩
      | denied _ below =>
          obtain ⟨g, there, same⟩ := ih below
          exact ⟨g, .denied (isUndecidable_negation_of_propositional inside left) there, same⟩
      | left _ binary => exact absurd rfl binary
      | right _ binary => exact absurd rfl binary
  | binary binary _ _ ihLeft ihRight =>
      cases reached with
      | here => exact ⟨_, .here _, rfl⟩
      | denied => exact absurd rfl binary
      | left _ _ below =>
          obtain ⟨g, there, same⟩ := ihLeft below
          exact ⟨g, .left _ binary there, same⟩
      | right _ _ below =>
          obtain ⟨g, there, same⟩ := ihRight below
          exact ⟨g, .right _ binary there, same⟩

theorem value_of_substitution {σ : Assignment} {t : Truth} {f : Formula}
    (value : evaluate σ f = .ok t) (x : String) (r : Formula) :
    evaluate σ (substitute x r f) = .ok t ∧
    (∀ place h, Reaches (substitute x r f) place h ↔
      ∃ g, Reaches f place g ∧ substitute x r g = h) ∧
    ∀ place g, Reaches f place g →
      (substitute x r g).isUndecidable = g.isUndecidable ∧
        (substitute x r g).isOffender = false := by
  have propositional := propositional_of_ok value
  refine ⟨?_, ?_, ?_⟩
  · rw [evaluate_substitute x r propositional, value]
  · intro place h
    constructor
    · exact reaches_of_substitute x r propositional
    · rintro ⟨g, reached, rfl⟩
      exact reaches_substitute x r propositional reached
  · intro place g reached
    have part := propositional.reached reached
    have kept := propositional_substitute x r part
    exact ⟨isUndecidable_substitute x r part, kept.not_isOffender (.here _)⟩

theorem value_of_substitution_inside_shapes :
    let f := disjunction (negation (predicate "Provable" [var "x" false]))
      (forAll "y" (implication (var "x" false) (atom "P")))
    let r := predicate "Provable" []
    evaluate (fun _ => none) f = .ok .undecidable ∧
      evaluate (fun _ => none) (substitute "x" r f) = .ok .undecidable := by
  intro f r
  have value : evaluate (fun _ => none) f = .ok .undecidable := rfl
  exact ⟨value, (value_of_substitution value "x" r).1⟩

-- Where there was no value, one may come about.
example :
    let f := negation (var "x" false)
    (∃ g, evaluate (fun _ => none) f = .error (.notPropositional g)) ∧
      evaluate (fun _ => none) (substitute "x" (predicate "Provable" []) f) = .ok .undecidable :=
  ⟨⟨var "x" false, rfl⟩, rfl⟩

end Proofbook.Formula
