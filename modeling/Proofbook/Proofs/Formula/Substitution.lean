import Mathlib.Logic.Basic
import Proofbook.Formula.Substitution
import Proofbook.Proofs.Formula.Subformula

namespace Proofbook.Formula

/-! ## Changing the parts of a formula -/

def mapParts (change : Formula → Formula) : Formula → Formula
  | quantified kind name domain body => quantified kind name (domain.map change) (change body)
  | connective kind left right => connective kind (left.map change) (change right)
  | predicate name args => predicate name (args.map change)
  | equation left right => equation (change left) (change right)
  | inequality kind left right => inequality kind (change left) (change right)
  | function name args => function name (args.map change)
  | inference rule premises => inference rule (premises.map change)
  | leaf => leaf

section

variable {f : Formula} {g h : Formula → Formula}

theorem kind_mapParts (g : Formula → Formula) (f : Formula) : (f.mapParts g).kind = f.kind := by
  cases f <;> rfl

theorem isMarker_mapParts (g : Formula → Formula) (f : Formula) :
    (f.mapParts g).isMarker = f.isMarker := by
  cases f <;> rfl

theorem children_mapParts (g : Formula → Formula) (f : Formula) :
    (f.mapParts g).children = f.children.map g := by
  cases f with
  | quantified kind name domain body => cases domain <;> rfl
  | connective kind left right => cases left <;> rfl
  | _ => rfl

theorem mapParts_mapParts (g h : Formula → Formula) (f : Formula) :
    (f.mapParts g).mapParts h = f.mapParts fun part => h (g part) := by
  cases f with
  | quantified kind name domain body => cases domain <;> rfl
  | connective kind left right => cases left <;> rfl
  | predicate name args => exact congrArg (predicate name) List.map_map
  | function name args => exact congrArg (function name) List.map_map
  | inference rule premises => exact congrArg (inference rule) List.map_map
  | _ => rfl

theorem mapParts_congr (same : ∀ part ∈ f.children, g part = h part) :
    f.mapParts g = f.mapParts h := by
  cases f with
  | quantified kind name domain body =>
      have domains : domain.map g = domain.map h := Option.map_congr fun d mem =>
        same d (List.mem_append_left _ (Option.mem_toList.mpr mem))
      have inner : g body = h body := same body (List.mem_append_right _ List.mem_cons_self)
      exact congrArg₂ (quantified kind name) domains inner
  | connective kind left right =>
      have lefts : left.map g = left.map h := Option.map_congr fun f mem =>
        same f (List.mem_append_left _ (Option.mem_toList.mpr mem))
      have rights : g right = h right := same right (List.mem_append_right _ List.mem_cons_self)
      exact congrArg₂ (connective kind) lefts rights
  | predicate name args => exact congrArg (predicate name) (List.map_congr_left same)
  | function name args => exact congrArg (function name) (List.map_congr_left same)
  | inference rule premises => exact congrArg (inference rule) (List.map_congr_left same)
  | equation left right =>
      obtain ⟨first, second, -⟩ := List.forall_mem_cons.mp same |>.imp_right List.forall_mem_cons.mp
      exact congrArg₂ equation first second
  | inequality kind left right =>
      obtain ⟨first, second, -⟩ := List.forall_mem_cons.mp same |>.imp_right List.forall_mem_cons.mp
      exact congrArg₂ (inequality kind) first second
  | _ => rfl

theorem mapParts_eq_self (same : ∀ part ∈ f.children, g part = part) : f.mapParts g = f := by
  rw [mapParts_congr (h := id) same]
  cases f with
  | quantified kind name domain body => cases domain <;> rfl
  | connective kind left right => cases left <;> rfl
  | predicate name args => exact congrArg (predicate name) (List.map_id args)
  | function name args => exact congrArg (function name) (List.map_id args)
  | inference rule premises => exact congrArg (inference rule) (List.map_id premises)
  | _ => rfl

end

/-! ## Substitution -/

variable {f : Formula} (x : String) (r : Formula)

theorem substituteList_eq_map (fs : List Formula) :
    substituteList x r fs = fs.map (substitute x r) := by
  induction fs with
  | nil => rfl
  | cons f fs ih => exact congrArg (substitute x r f :: ·) ih

theorem substituteOption_eq_map (found : Option Formula) :
    substituteOption x r found = found.map (substitute x r) := by
  cases found <;> rfl

theorem substitute_var (name : String) (bound : Bool) :
    substitute x r (var name bound) = if name = x then r else var name bound := rfl

theorem substitute_quantified (kind : Quantifier) (name : String) (domain : Option Formula)
    (body : Formula) :
    substitute x r (quantified kind name domain body) =
      quantified kind name (domain.map (substitute x r))
        (if name = x then body else substitute x r body) := by
  cases domain <;> rfl

theorem substitute_eq_mapParts (notVar : f.kind ≠ .var) (notQuantified : f.kind ≠ .quantifier) :
    substitute x r f = f.mapParts (substitute x r) := by
  cases f with
  | var => exact absurd rfl notVar
  | quantified => exact absurd rfl notQuantified
  | connective kind left right => cases left <;> rfl
  | predicate name args => exact congrArg (predicate name) (substituteList_eq_map x r args)
  | function name args => exact congrArg (function name) (substituteList_eq_map x r args)
  | inference rule premises =>
      exact congrArg (inference rule) (substituteList_eq_map x r premises)
  | _ => rfl

theorem children_substitute (notVar : f.kind ≠ .var) (notQuantified : f.kind ≠ .quantifier) :
    (substitute x r f).children = f.children.map (substitute x r) := by
  rw [substitute_eq_mapParts x r notVar notQuantified, children_mapParts]

theorem child_substitute (notVar : f.kind ≠ .var) {part' : Formula}
    (mem : part' ∈ (substitute x r f).children) :
    ∃ part ∈ f.children, part' = part ∨ part' = substitute x r part := by
  by_cases notQuantified : f.kind ≠ .quantifier
  · rw [children_substitute x r notVar notQuantified] at mem
    obtain ⟨part, inside, rfl⟩ := List.mem_map.mp mem
    exact ⟨part, inside, .inr rfl⟩
  · cases f with
    | quantified kind name domain body =>
        rcases List.mem_append.mp mem with ranging | inner
        · rw [substituteOption_eq_map, Option.toList_map] at ranging
          obtain ⟨part, inside, rfl⟩ := List.mem_map.mp ranging
          exact ⟨part, List.mem_append_left _ inside, .inr rfl⟩
        · obtain rfl := List.mem_singleton.mp inner
          refine ⟨body, List.mem_append_right _ List.mem_cons_self, ?_⟩
          split
          · exact .inl rfl
          · exact .inr rfl
    | _ => exact absurd nofun notQuantified

/-- Induction with a case for what is replaced, one for what shields, and one for the rest. -/
@[elab_as_elim]
theorem inductionOnBinders {motive : Formula → Prop}
    (var : ∀ name bound, motive (var name bound))
    (quantified : ∀ kind name domain body, (∀ f ∈ domain, motive f) → motive body →
      motive (quantified kind name domain body))
    (other : ∀ f, f.kind ≠ .var → f.kind ≠ .quantifier → (∀ part ∈ f.children, motive part) →
      motive f) (f : Formula) : motive f := by
  induction f using inductionOnParts with
  | step f parts =>
      cases f with
      | var name bound => exact var name bound
      | quantified kind name domain body =>
          refine quantified kind name domain body (fun f mem => parts f ?_) (parts body ?_)
          · simp [children, Option.mem_def.mp mem]
          · simp [children]
      | _ => exact other _ (by simp [kind]) (by simp [kind]) parts

end Proofbook.Formula
