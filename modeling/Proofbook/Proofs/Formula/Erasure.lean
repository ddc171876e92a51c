import Proofbook.Proofs.Formula.Equivalence
import Proofbook.Proofs.Formula.Subformula

namespace Proofbook

/-! ## Numbers -/

namespace Binary64

def nan : Binary64 := ofMagnitude false (infinityBits + 1)

/-- One number for all that agree: zero without a sign, and a single NaN. -/
def canonical (x : Binary64) : Binary64 :=
  if x.isNaN then nan else if x.isZero then zero else x

theorem isNaN_nan : nan.isNaN = true := by decide

theorem isZero_zero : zero.isZero = true := by decide

theorem not_isNaN_of_isZero {x : Binary64} (zero : x.isZero = true) : x.isNaN = false := by
  have none : x.magnitudeBits = 0 := by simpa [isZero] using zero
  simp [isNaN, exponentBits, none]

theorem canonical_eq_iff {x y : Binary64} :
    x.canonical = y.canonical ↔ x.agreesOrNaN y = true := by
  have apart_nan {z : Binary64} (number : z.isNaN = false) : z ≠ nan := by
    rintro rfl
    rw [isNaN_nan] at number
    cases number
  have apart_zero {z : Binary64} (nonzero : z.isZero = false) : z ≠ zero := by
    rintro rfl
    rw [isZero_zero] at nonzero
    cases nonzero
  have apart : zero ≠ nan := apart_nan (not_isNaN_of_isZero isZero_zero)
  unfold canonical agreesOrNaN agrees
  cases nx : x.isNaN <;> cases ny : y.isNaN
  · cases zx : x.isZero <;> cases zy : y.isZero
    · simp
    · have differ : x ≠ y := fun same => by rw [same, zy] at zx; cases zx
      simp [apart_zero zx, differ]
    · have differ : x ≠ y := fun same => by rw [same, zy] at zx; cases zx
      simp [(apart_zero zy).symm, differ]
    · simp
  · cases x.isZero <;> simp [apart, apart_nan nx]
  · cases y.isZero <;> simp [apart.symm, (apart_nan ny).symm]
  · simp

end Binary64

namespace Formula

/-! ## Erasure -/

mutual

def erase : Formula → Formula
  | quantified kind name domain body => quantified kind name (eraseOption domain) (erase body)
  | connective kind left right => connective kind (eraseOption left) (erase right)
  | predicate name args => predicate name (eraseList args)
  | var name bound => var name bound
  | proposition name _ => proposition name none
  | equation left right => equation (erase left) (erase right)
  | inequality kind left right => inequality kind (erase left) (erase right)
  | function name args => function name (eraseList args)
  | premise => premise
  | conclusion => conclusion
  | inference rule premises => inference rule (eraseList premises)
  | number value => number value.canonical
  | text value => text value

def eraseOption : Option Formula → Option Formula
  | none => none
  | some formula => some (erase formula)

def eraseList : List Formula → List Formula
  | [] => []
  | formula :: formulas => erase formula :: eraseList formulas

end

theorem kind_erase (f : Formula) : f.erase.kind = f.kind := by
  cases f <;> rfl

/-! ## Comparable formulas -/

def Comparable (f : Formula) : Prop :=
  ∀ sub, Subformula sub f →
    sub.kind ≠ .quantifier ∧ sub.kind ≠ .inequality ∧ sub.isMarker = false

theorem comparable_iff {f : Formula} :
    f.Comparable ↔ (f.kind ≠ .quantifier ∧ f.kind ≠ .inequality ∧ f.isMarker = false) ∧
      ∀ part ∈ f.children, part.Comparable :=
  forall_subformula

section

variable {name : String} {args : List Formula} {left right : Formula}

theorem comparable_iff_parts {f : Formula}
    (root : f.kind ≠ .quantifier ∧ f.kind ≠ .inequality ∧ f.isMarker = false) :
    f.Comparable ↔ ∀ part ∈ f.children, part.Comparable :=
  comparable_iff.trans (and_iff_right root)

theorem comparable_of_leaf {f : Formula} (leaf : f.children = [])
    (root : f.kind ≠ .quantifier ∧ f.kind ≠ .inequality ∧ f.isMarker = false) : f.Comparable := by
  rw [comparable_iff_parts root, leaf]
  exact List.forall_mem_nil _

@[simp]
theorem comparable_proposition {truth : Option Bool} : (proposition name truth).Comparable :=
  comparable_of_leaf rfl ⟨nofun, nofun, rfl⟩

@[simp]
theorem comparable_var {bound : Bool} : (var name bound).Comparable :=
  comparable_of_leaf rfl ⟨nofun, nofun, rfl⟩

@[simp]
theorem comparable_number {value : Binary64} : (number value).Comparable :=
  comparable_of_leaf rfl ⟨nofun, nofun, rfl⟩

@[simp]
theorem comparable_text {value : String} : (text value).Comparable :=
  comparable_of_leaf rfl ⟨nofun, nofun, rfl⟩

@[simp]
theorem comparable_predicate : (predicate name args).Comparable ↔ ∀ a ∈ args, a.Comparable :=
  comparable_iff_parts ⟨nofun, nofun, rfl⟩

@[simp]
theorem comparable_function : (function name args).Comparable ↔ ∀ a ∈ args, a.Comparable :=
  comparable_iff_parts ⟨nofun, nofun, rfl⟩

@[simp]
theorem comparable_equation :
    (equation left right).Comparable ↔ left.Comparable ∧ right.Comparable := by
  have parts : (equation left right).Comparable ↔ ∀ part ∈ [left, right], part.Comparable :=
    comparable_iff_parts ⟨nofun, nofun, rfl⟩
  simpa using parts

@[simp]
theorem comparable_connective {kind : Connective} {left : Option Formula} :
    (connective kind left right).Comparable ↔
      (∀ f ∈ left, f.Comparable) ∧ right.Comparable := by
  have parts : (connective kind left right).Comparable ↔
      ∀ part ∈ left.toList ++ [right], part.Comparable :=
    comparable_iff_parts ⟨nofun, nofun, rfl⟩
  simpa [or_imp, forall_and] using parts

end

abbrev Compares (a : Formula) : Prop :=
  ∀ b, equivalent a b = true ↔ a.Comparable ∧ b.Comparable ∧ a.erase = b.erase

theorem equivalentOption_iff {a b : Option Formula} (parts : ∀ x ∈ a, Compares x) :
    equivalentOption a b = true ↔
      (∀ x ∈ a, x.Comparable) ∧ (∀ y ∈ b, y.Comparable) ∧ eraseOption a = eraseOption b := by
  cases a with
  | none => cases b <;> simp [equivalentOption, eraseOption]
  | some x =>
      cases b with
      | none => simp [equivalentOption, eraseOption]
      | some y => simp [equivalentOption, eraseOption, parts x rfl y]

theorem equivalentList_iff {as : List Formula} (parts : ∀ x ∈ as, Compares x)
    (bs : List Formula) : equivalentList as bs = true ↔
      (∀ x ∈ as, x.Comparable) ∧ (∀ y ∈ bs, y.Comparable) ∧ eraseList as = eraseList bs := by
  induction as generalizing bs with
  | nil => cases bs <;> simp [equivalentList, eraseList]
  | cons a as ih =>
      cases bs with
      | nil => simp [equivalentList, eraseList]
      | cons b bs =>
          have first := parts a List.mem_cons_self b
          have rest := ih (fun x mem => parts x (List.mem_cons_of_mem a mem)) bs
          rw [equivalentList, Bool.and_eq_true, first, rest]
          simp only [List.forall_mem_cons, eraseList, List.cons.injEq]
          grind

/-! ## The characterization -/

theorem equivalent_iff_of_kind_ne {a b : Formula} (differ : a.kind ≠ b.kind) :
    equivalent a b = true ↔ a.Comparable ∧ b.Comparable ∧ a.erase = b.erase := by
  constructor
  · intro h
    exact absurd (kind_eq_of_equivalent h) differ
  · rintro ⟨-, -, same⟩
    have kinds : a.erase.kind = b.erase.kind := congrArg kind same
    rw [kind_erase, kind_erase] at kinds
    exact absurd kinds differ

theorem equivalent_iff_of_incomparable {a b : Formula}
    (root : ¬(a.kind ≠ .quantifier ∧ a.kind ≠ .inequality ∧ a.isMarker = false)) :
    equivalent a b = true ↔ a.Comparable ∧ b.Comparable ∧ a.erase = b.erase := by
  constructor
  · intro h
    exact absurd (comparable_of_equivalent h) root
  · rintro ⟨comparable, -⟩
    exact absurd (comparable_iff.mp comparable).1 root

theorem equivalent_iff (a b : Formula) :
    equivalent a b = true ↔ a.Comparable ∧ b.Comparable ∧ a.erase = b.erase := by
  induction a using inductionOnParts generalizing b with
  | step a parts =>
      -- With sorts apart settled first, each case below meets only its own constructor in `b`.
      by_cases same : a.kind = b.kind
      case neg => exact equivalent_iff_of_kind_ne same
      cases a with
      | quantified | inequality | premise | conclusion | inference =>
          exact equivalent_iff_of_incomparable (by simp [kind, isMarker])
      | proposition | var | number | text =>
          cases b <;> simp only [kind, reduceCtorEq] at same
          simp [equivalent, erase, Binary64.canonical_eq_iff]
      | predicate name args | function name args =>
          cases b <;> simp only [kind, reduceCtorEq] at same
          rename_i name' args'
          have each : ∀ x ∈ args, Compares x := parts
          have arguments := equivalentList_iff each args'
          simp only [equivalent, Bool.and_eq_true, beq_iff_eq, arguments, comparable_predicate,
            comparable_function, erase, predicate.injEq, function.injEq]
          grind
      | equation left right =>
          cases b <;> simp only [kind, reduceCtorEq] at same
          rename_i left' right'
          have first := parts left (by simp [children]) left'
          have second := parts right (by simp [children]) right'
          simp only [equivalent, Bool.and_eq_true, first, second, comparable_equation, erase,
            equation.injEq]
          grind
      | connective kind left right =>
          cases b <;> simp only [Formula.kind, reduceCtorEq] at same
          rename_i kind' left' right'
          have first : equivalentOption left left' = true ↔ _ := equivalentOption_iff fun x mem =>
            parts x (by simp [children, Option.mem_def.mp mem])
          have second := parts right (by simp [children]) right'
          simp only [equivalent, Bool.and_eq_true, beq_iff_eq, first, second,
            comparable_connective, erase, connective.injEq]
          grind

/-! ## The laws of equivalence -/

theorem equivalent_comm (a b : Formula) : equivalent a b = equivalent b a := by
  rw [Bool.eq_iff_iff, equivalent_iff, equivalent_iff]
  constructor <;> rintro ⟨ha, hb, same⟩ <;> exact ⟨hb, ha, same.symm⟩

theorem equivalent_trans {a b c : Formula} (first : equivalent a b = true)
    (second : equivalent b c = true) : equivalent a c = true := by
  rw [equivalent_iff] at first second ⊢
  obtain ⟨ha, -, first⟩ := first
  obtain ⟨-, hc, second⟩ := second
  exact ⟨ha, hc, first.trans second⟩

theorem equivalent_iff_erase_eq :
    (∀ a b : Formula,
      equivalent a b = true ↔ a.Comparable ∧ b.Comparable ∧ a.erase = b.erase) ∧
    (∀ x y : Binary64, (number x).erase = (number y).erase ↔
      x.agrees y = true ∨ x.isNaN = true ∧ y.isNaN = true) ∧
    (∀ a b : Formula, equivalent a b = equivalent b a) ∧
    (∀ a b c : Formula, equivalent a b = true → equivalent b c = true →
      equivalent a c = true) ∧
    ∀ a : Formula, equivalent a a = true ↔ a.Comparable := by
  refine ⟨equivalent_iff, ?_, equivalent_comm, fun a b c => equivalent_trans, ?_⟩
  · intro x y
    simp [erase, Binary64.canonical_eq_iff, Binary64.agreesOrNaN]
  · intro a
    rw [equivalent_iff]
    exact ⟨And.left, fun comparable => ⟨comparable, comparable, rfl⟩⟩

end Formula

end Proofbook
