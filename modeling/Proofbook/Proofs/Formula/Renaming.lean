import Mathlib.Data.Set.Defs
import Proofbook.Proofs.Formula.Path

namespace Proofbook.Formula

mutual

def rename (change : String → String) : Formula → Formula
  | quantified kind name domain body =>
    quantified kind (change name) (renameOption change domain) (rename change body)
  | connective kind left right =>
    connective kind (renameOption change left) (rename change right)
  | predicate name args => predicate name (renameList change args)
  | var name bound => var (change name) bound
  | proposition name truth => proposition (change name) truth
  | equation left right => equation (rename change left) (rename change right)
  | inequality kind left right => inequality kind (rename change left) (rename change right)
  | function name args => function name (renameList change args)
  | premise => premise
  | conclusion => conclusion
  | inference rule premises => inference rule (renameList change premises)
  | number value => number value
  | text value => text value

def renameOption (change : String → String) : Option Formula → Option Formula
  | none => none
  | some formula => some (rename change formula)

def renameList (change : String → String) : List Formula → List Formula
  | [] => []
  | formula :: formulas => rename change formula :: renameList change formulas

end

def ownName? : Formula → Option String
  | quantified _ name .. | var name _ | proposition name _ => some name
  | _ => none

def names (f : Formula) : Set String := {x | ∃ sub, Subformula sub f ∧ sub.ownName? = some x}

/--
A proposition of the name stands outside of the domains and bodies of all quantifiers over it.
-/
def Exposed (x : String) (f : Formula) : Prop :=
  ∃ path truth, f.at? path = some (proposition x truth) ∧ ∀ binder ∈ f.binders path, binder.name ≠ x

variable {f part : Formula} {i : Nat} {x : String}

theorem IsPart.mem_children (isPart : IsPart f i part) : part ∈ f.children :=
  List.mem_of_getElem? (isPart_iff.mp isPart)

theorem names_subset (mem : part ∈ f.children) : part.names ⊆ f.names := by
  rintro x ⟨sub, inside, own⟩
  exact ⟨sub, .part mem inside, own⟩

theorem name_of_binder? {binder : Binder} (entered : f.binder? i = some binder) :
    f.ownName? = some binder.name := by
  cases f with
  | quantified kind name domain body =>
      cases domain <;> cases i <;> cases entered <;> rfl
  | _ => cases entered

theorem mem_names_of_ownName? (own : f.ownName? = some x) : x ∈ f.names := ⟨f, .self f, own⟩

theorem renameList_eq_map (change : String → String) (fs : List Formula) :
    renameList change fs = fs.map (rename change) := by
  induction fs with
  | nil => rfl
  | cons f fs ih => exact congrArg (rename change f :: ·) ih

end Proofbook.Formula
