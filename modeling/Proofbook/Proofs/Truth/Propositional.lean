import Proofbook.Proofs.Truth.Evaluation

namespace Proofbook.Formula

variable {f g : Formula}

/-! ## Places -/

inductive Side where
  | left
  | right

abbrev Place := List Side

/-- Where the two ways part, the first goes to the left and the second to the right. -/
def Place.LeftOf (place other : Place) : Prop :=
  ∃ shared rest rest', place = shared ++ .left :: rest ∧ other = shared ++ .right :: rest'

inductive Reaches : Formula → Place → Formula → Prop where
  | here (f : Formula) : Reaches f [] f
  | denied {left : Option Formula} {right g : Formula} {place : Place} :
      isUndecidable (connective .not left right) = false → Reaches right place g →
        Reaches (connective .not left right) (.right :: place) g
  | left {kind : Connective} {left g : Formula} {place : Place} (right : Formula) :
      kind ≠ .not → Reaches left place g →
        Reaches (connective kind (some left) right) (.left :: place) g
  | right {kind : Connective} {right g : Formula} {place : Place} (left : Formula) :
      kind ≠ .not → Reaches right place g →
        Reaches (connective kind (some left) right) (.right :: place) g

def isOffender : Formula → Bool
  | proposition .. | connective .not _ _ | connective _ (some _) _ => false
  | f => !f.isUndecidable

structure FirstOffender (f : Formula) (place : Place) (g : Formula) : Prop where
  reached : Reaches f place g
  offends : g.isOffender = true
  first : ∀ other h, Reaches f other h → h.isOffender = true → other = place ∨ place.LeftOf other

inductive Propositional : Formula → Prop where
  | proposition (name : String) (truth : Option Bool) : Propositional (proposition name truth)
  | undecidable {f : Formula} : f.isUndecidable = true → Propositional f
  | negation {right : Formula} (left : Option Formula) :
      Propositional right → Propositional (connective .not left right)
  | binary {kind : Connective} {left right : Formula} :
      kind ≠ .not → Propositional left → Propositional right →
        Propositional (connective kind (some left) right)

/-! ## Propositional formulas have values -/

theorem isOffender_of_isUndecidable (shape : f.isUndecidable = true) : f.isOffender = false := by
  cases f with
  | connective kind left right =>
      cases kind with
      | not => rfl
      | and | or | implies | iff => cases shape
  | quantified => simp [isOffender, shape]
  | _ => cases shape

theorem Reaches.eq_of_isUndecidable {place : Place} (reached : Reaches f place g)
    (shape : f.isUndecidable = true) : g = f := by
  cases reached with
  | here => rfl
  | denied plain => rw [shape] at plain; cases plain
  | left right binary => simp [isUndecidable, binary] at shape
  | right left binary => simp [isUndecidable, binary] at shape

theorem Propositional.not_isOffender (propositional : Propositional f) {place : Place}
    (reached : Reaches f place g) : g.isOffender = false := by
  induction propositional generalizing place with
  | proposition name truth => cases reached with | here => rfl
  | undecidable shape =>
      obtain rfl := reached.eq_of_isUndecidable shape
      exact isOffender_of_isUndecidable shape
  | negation left _ ih =>
      cases reached with
      | here => rfl
      | denied _ inside => exact ih inside
      | left _ binary => exact absurd rfl binary
      | right _ binary => exact absurd rfl binary
  | @binary kind left right binary _ _ ihLeft ihRight =>
      cases reached with
      | here => cases kind <;> rfl
      | denied => exact absurd rfl binary
      | left _ _ inside => exact ihLeft inside
      | right _ _ inside => exact ihRight inside

theorem Propositional.evaluates (propositional : Propositional f) (σ : Assignment) :
    ∃ t, evaluate σ f = .ok t := by
  induction propositional with
  | proposition name truth => exact ⟨_, evaluate_proposition name truth⟩
  | undecidable shape => exact ⟨_, evaluate_of_isUndecidable shape⟩
  | negation left _ ih =>
      obtain ⟨a, ha⟩ := ih
      exact ⟨_, evaluate_negation_of_ok ha⟩
  | binary binary _ _ ihLeft ihRight =>
      obtain ⟨a, ha⟩ := ihLeft
      obtain ⟨b, hb⟩ := ihRight
      exact ⟨_, (evaluate_binary_ok binary).mpr ⟨a, b, ha, hb, rfl⟩⟩

/-! ## Offenders are reported -/

theorem Place.leftOf_parting (place other : Place) :
    Place.LeftOf (.left :: place) (.right :: other) :=
  ⟨[], place, other, rfl, rfl⟩

theorem Place.LeftOf.cons {place other : Place} (side : Side) (before : place.LeftOf other) :
    Place.LeftOf (side :: place) (side :: other) := by
  obtain ⟨shared, rest, rest', rfl, rfl⟩ := before
  exact ⟨side :: shared, rest, rest', rfl, rfl⟩

theorem Place.first_cons {place other : Place} (side : Side)
    (first : other = place ∨ place.LeftOf other) :
    side :: other = side :: place ∨ Place.LeftOf (side :: place) (side :: other) :=
  first.imp (congrArg _) (.cons side)

theorem evaluate_offender (offends : f.isOffender = true) (σ : Assignment) :
    evaluate σ f = .error (.notPropositional f) := by
  have plain : ¬f.isUndecidable = true := by
    intro shape
    rw [isOffender_of_isUndecidable shape] at offends
    cases offends
  cases f with
  | proposition => cases offends
  | connective kind left right =>
      have binary : kind ≠ .not := by rintro rfl; cases offends
      cases left with
      | none => exact evaluate_dangling binary right
      | some left => cases kind <;> cases offends
  | _ => rw [evaluate_other (by simp [kind]) (by simp [kind]), if_neg plain]

def Reports (f : Formula) : Prop :=
  ∃ place g, FirstOffender f place g ∧ ∀ σ, evaluate σ f = .error (.notPropositional g)

theorem reports_offender (offends : f.isOffender = true) : Reports f := by
  refine ⟨[], f, ⟨.here f, offends, fun other h reached _ => ?_⟩, evaluate_offender offends⟩
  cases reached with
  | here => exact .inl rfl
  | denied => cases offends
  | left => cases ‹Connective› <;> cases offends
  | right => cases ‹Connective› <;> cases offends

theorem reports_negation {left : Option Formula} {right : Formula}
    (plain : isUndecidable (connective .not left right) = false) (inside : Reports right) :
    Reports (connective .not left right) := by
  obtain ⟨place, g, offender, reported⟩ := inside
  refine ⟨.right :: place, g, ⟨.denied plain offender.reached, offender.offends, ?_⟩, fun σ => ?_⟩
  · intro other h reached offends
    cases reached with
    | here => cases offends
    | denied _ inside => exact Place.first_cons .right (offender.first _ h inside offends)
    | left _ binary => exact absurd rfl binary
    | right _ binary => exact absurd rfl binary
  · rw [evaluate_negation, plain, reported]
    rfl

theorem reports_left {kind : Connective} (binary : kind ≠ .not) {left : Formula}
    (inside : Reports left) (right : Formula) : Reports (connective kind (some left) right) := by
  obtain ⟨place, g, offender, reported⟩ := inside
  refine ⟨.left :: place, g, ⟨.left right binary offender.reached, offender.offends, ?_⟩,
    fun σ => ?_⟩
  · intro other h reached offends
    cases reached with
    | here => cases kind <;> cases offends
    | denied => exact absurd rfl binary
    | left _ _ inside => exact Place.first_cons .left (offender.first _ h inside offends)
    | right => exact .inr (Place.leftOf_parting _ _)
  · rw [evaluate_binary binary, reported]
    rfl

theorem reports_right {kind : Connective} (binary : kind ≠ .not) {left right : Formula}
    (sound : Propositional left) (inside : Reports right) :
    Reports (connective kind (some left) right) := by
  obtain ⟨place, g, offender, reported⟩ := inside
  refine ⟨.right :: place, g, ⟨.right left binary offender.reached, offender.offends, ?_⟩,
    fun σ => ?_⟩
  · intro other h reached offends
    cases reached with
    | here => cases kind <;> cases offends
    | denied => exact absurd rfl binary
    | left _ _ inside =>
        rw [sound.not_isOffender inside] at offends
        cases offends
    | right _ _ inside => exact Place.first_cons .right (offender.first _ h inside offends)
  · obtain ⟨a, ha⟩ := sound.evaluates σ
    rw [evaluate_binary binary, ha, reported]
    rfl

theorem propositional_or_reports (f : Formula) : Propositional f ∨ Reports f := by
  induction f using inductionOnParts with
  | step f ih =>
    cases shape : f.isUndecidable with
    | true => exact .inl (.undecidable shape)
    | false =>
        cases f with
        | proposition name truth => exact .inl (.proposition name truth)
        | connective kind left right =>
            have inRight := ih right (by simp [children])
            by_cases negation : kind = .not
            · subst negation
              exact inRight.imp (.negation left) (reports_negation shape)
            · cases left with
              | none => exact .inr (reports_offender (by cases kind <;> simp_all [isOffender]))
              | some left =>
                  rcases ih left (by simp [children]) with sound | inside
                  · exact inRight.imp (.binary negation sound) (reports_right negation sound)
                  · exact .inr (reports_left negation inside right)
        | _ => exact .inr (reports_offender (by simp [isOffender, shape]))

theorem propositional_of_ok {σ : Assignment} {t : Truth} (h : evaluate σ f = .ok t) :
    Propositional f := by
  rcases propositional_or_reports f with propositional | ⟨place, g, -, reported⟩
  · exact propositional
  · rw [reported] at h
    cases h

end Proofbook.Formula
