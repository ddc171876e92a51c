import Proofbook.Proofs.Formula.FreeNames

namespace Proofbook.Formula

variable {f : Formula} (x y : String) (r s : Formula)

/-! ## Two substitutions by the outermost construction -/

theorem substitute_substitute_quantified (kind : Quantifier) (name : String)
    (domain : Option Formula) (body : Formula) :
    substitute y s (substitute x r (quantified kind name domain body)) =
      quantified kind name (domain.map fun d => substitute y s (substitute x r d))
        (if name = y then if name = x then body else substitute x r body
          else substitute y s (if name = x then body else substitute x r body)) := by
  rw [substitute_quantified, substitute_quantified, Option.map_map]
  rfl

theorem substitute_substitute_eq_mapParts (notVar : f.kind ≠ .var)
    (notQuantified : f.kind ≠ .quantifier) :
    substitute y s (substitute x r f) =
      f.mapParts fun part => substitute y s (substitute x r part) := by
  have kind := kind_mapParts (substitute x r) f
  rw [substitute_eq_mapParts x r notVar notQuantified,
    substitute_eq_mapParts y s (kind ▸ notVar) (kind ▸ notQuantified), mapParts_mapParts]

/-! ## The same variable -/

theorem substitute_substitute_self (f : Formula) :
    substitute x s (substitute x r f) = substitute x (substitute x s r) f := by
  induction f using inductionOnBinders with
  | var name bound =>
      by_cases same : name = x
      · simp only [substitute_var, if_pos same]
      · simp only [substitute_var, if_neg same]
  | quantified kind name domain body ranging inner =>
      rw [substitute_substitute_quantified, substitute_quantified, Option.map_congr ranging]
      by_cases shielded : name = x
      · simp only [if_pos shielded]
      · simp only [if_neg shielded, inner]
  | other f notVar notQuantified parts =>
      rw [substitute_substitute_eq_mapParts x x r s notVar notQuantified,
        substitute_eq_mapParts x _ notVar notQuantified, mapParts_congr parts]

/-! ## Different variables -/

variable {x y r s}

/-- What the second substitution replaces in the first replacement is not shielded from it: there is
nothing, or the replacement does not come under a quantifier over that name. -/
def Unshielded (x y : String) (r f : Formula) : Prop := y ∉ r.freeNames ∨ ¬FreeUnder x y f

theorem Unshielded.part (unshielded : Unshielded x y r f) (notVar : f.kind ≠ .var)
    (notQuantified : f.kind ≠ .quantifier) {part : Formula} (mem : part ∈ f.children) :
    Unshielded x y r part := by
  refine unshielded.imp_right fun clear under => clear ?_
  exact (freeUnder_iff_part notVar notQuantified).mpr ⟨part, mem, under⟩

theorem substitute_exchange (differ : x ≠ y) (absent : x ∉ s.freeNames) (f : Formula)
    (unshielded : Unshielded x y r f) :
    substitute y s (substitute x r f) = substitute x (substitute y s r) (substitute y s f) := by
  induction f using inductionOnBinders with
  | var name bound =>
      by_cases first : name = x
      · subst first
        simp only [substitute_var, if_true, if_neg differ]
      · by_cases second : name = y
        · subst second
          simp only [substitute_var, if_true, if_neg first]
          rw [substitute_eq_self absent]
        · simp only [substitute_var, if_neg first, if_neg second]
  | quantified kind name domain body ranging inner =>
      have domains : ∀ d ∈ domain, Unshielded x y r d := fun d mem =>
        unshielded.imp_right fun clear under => clear (freeUnder_quantified.mpr (.inl ⟨d, mem, under⟩))
      rw [substitute_substitute_quantified, substitute_substitute_quantified,
        Option.map_congr fun d mem => ranging d mem (domains d mem)]
      by_cases first : name = x
      · subst first
        simp only [if_true, if_neg differ]
      · by_cases second : name = y
        · subst second
          -- The quantifier is over `y`, and the replacement comes under it.
          simp only [if_true, if_neg first]
          rcases unshielded with nothing | clear
          · rw [substitute_eq_self nothing]
          · have unused : x ∉ body.freeNames := fun free =>
              clear (freeUnder_quantified.mpr (.inr ⟨Ne.symm first, .inr ⟨rfl, free⟩⟩))
            rw [substitute_eq_self unused, substitute_eq_self unused]
        · have within : Unshielded x y r body := unshielded.imp_right fun clear under =>
            clear (freeUnder_quantified.mpr (.inr ⟨Ne.symm first, .inl under⟩))
          simp only [if_neg first, if_neg second, inner within]
  | other f notVar notQuantified parts =>
      rw [substitute_substitute_eq_mapParts x y r s notVar notQuantified,
        substitute_substitute_eq_mapParts y x s _ notVar notQuantified]
      exact mapParts_congr fun part mem =>
        parts part mem (unshielded.part notVar notQuantified mem)

theorem substitution_composes :
    (∀ (n r s : Formula) (x : String),
      substitute x s (substitute x r n) = substitute x (substitute x s r) n) ∧
    ∀ (n r s : Formula) (x y : String), x ≠ y → x ∉ s.freeNames →
      (y ∉ r.freeNames ∨ ¬FreeUnder x y n) →
      substitute y s (substitute x r n) = substitute x (substitute y s r) (substitute y s n) :=
  ⟨fun n r s x => substitute_substitute_self x r s n,
    fun n _ _ _ _ differ absent unshielded => substitute_exchange differ absent n unshielded⟩

theorem substitution_composes_domain :
    let n := quantified .universal "y" (some (var "x" false)) (var "y" true)
    let r := var "y" false
    let s := var "z" false
    "x" ≠ "y" ∧ "x" ∉ s.freeNames ∧ ("y" ∉ r.freeNames ∨ ¬FreeUnder "x" "y" n) ∧
      substitute "y" s (substitute "x" r n) =
        substitute "x" (substitute "y" s r) (substitute "y" s n) := by
  intro n r s
  have differ : "x" ≠ "y" := by decide
  have absent : "x" ∉ s.freeNames := by
    simp [s, mem_freeNames_var]
  have clear : ¬FreeUnder "x" "y" n := by
    simp [n, freeUnder_quantified, not_freeUnder_var, mem_freeNames_var]
  exact ⟨differ, absent, .inr clear,
    substitution_composes.2 n r s "x" "y" differ absent (.inr clear)⟩

end Proofbook.Formula
