import Mathlib.Data.Set.Insert
import Proofbook.Proofs.Formula.Substitution

namespace Proofbook.Formula

/-- The variable occurs in the formula, in the bodies of quantifiers over the names of the scope. -/
inductive Occurs (x : String) : List String → Formula → Prop where
  | var (bound : Bool) : Occurs x [] (var x bound)
  | domain {kind : Quantifier} {name : String} {domain body : Formula} {scope : List String} :
      Occurs x scope domain → Occurs x scope (quantified kind name (some domain) body)
  | body {kind : Quantifier} {name : String} {domain : Option Formula} {body : Formula}
      {scope : List String} :
      Occurs x scope body → Occurs x (name :: scope) (quantified kind name domain body)
  | part {f part : Formula} {scope : List String} (notQuantified : f.kind ≠ .quantifier) :
      part ∈ f.children → Occurs x scope part → Occurs x scope f

def freeNames (f : Formula) : Set String := {x | ∃ scope, Occurs x scope f ∧ x ∉ scope}

def FreeUnder (x y : String) (f : Formula) : Prop :=
  ∃ scope, Occurs x scope f ∧ x ∉ scope ∧ y ∈ scope

variable {x y z name : String} {f r : Formula} {scope : List String}

/-! ## Occurrences by the outermost construction -/

theorem occurs_var {bound : Bool} : Occurs x scope (var name bound) ↔ x = name ∧ scope = [] := by
  constructor
  · intro occurs
    cases occurs with
    | var => exact ⟨rfl, rfl⟩
    | part _ mem => cases mem
  · rintro ⟨rfl, rfl⟩
    exact .var bound

theorem occurs_quantified {kind : Quantifier} {domain : Option Formula} {body : Formula} :
    Occurs x scope (quantified kind name domain body) ↔
      (∃ d ∈ domain, Occurs x scope d) ∨ ∃ inner, scope = name :: inner ∧ Occurs x inner body := by
  constructor
  · intro occurs
    cases occurs with
    | domain inside => exact .inl ⟨_, rfl, inside⟩
    | body inside => exact .inr ⟨_, rfl, inside⟩
    | part notQuantified => exact absurd rfl notQuantified
  · rintro (⟨d, mem, inside⟩ | ⟨inner, rfl, inside⟩)
    · obtain rfl := Option.mem_def.mp mem
      exact .domain inside
    · exact .body inside

theorem occurs_iff_part (notVar : f.kind ≠ .var) (notQuantified : f.kind ≠ .quantifier) :
    Occurs x scope f ↔ ∃ part ∈ f.children, Occurs x scope part := by
  constructor
  · intro occurs
    cases occurs with
    | var => exact absurd rfl notVar
    | domain | body => exact absurd rfl notQuantified
    | part _ mem inside => exact ⟨_, mem, inside⟩
  · rintro ⟨part, mem, inside⟩
    exact .part notQuantified mem inside

theorem mem_freeNames_var {bound : Bool} : x ∈ (var name bound).freeNames ↔ x = name := by
  simp [freeNames, occurs_var]

theorem mem_freeNames_quantified {kind : Quantifier} {domain : Option Formula} {body : Formula} :
    x ∈ (quantified kind name domain body).freeNames ↔
      (∃ d ∈ domain, x ∈ d.freeNames) ∨ x ≠ name ∧ x ∈ body.freeNames := by
  simp only [freeNames, Set.mem_ofPred_eq, occurs_quantified]
  constructor
  · rintro ⟨scope, ⟨d, mem, inside⟩ | ⟨inner, rfl, inside⟩, free⟩
    · exact .inl ⟨d, mem, scope, inside, free⟩
    · rw [List.mem_cons, not_or] at free
      exact .inr ⟨free.1, inner, inside, free.2⟩
  · rintro (⟨d, mem, scope, inside, free⟩ | ⟨differ, inner, inside, free⟩)
    · exact ⟨scope, .inl ⟨d, mem, inside⟩, free⟩
    · exact ⟨name :: inner, .inr ⟨inner, rfl, inside⟩, by simp [differ, free]⟩

theorem mem_freeNames_iff_part (notVar : f.kind ≠ .var) (notQuantified : f.kind ≠ .quantifier) :
    x ∈ f.freeNames ↔ ∃ part ∈ f.children, x ∈ part.freeNames := by
  simp only [freeNames, Set.mem_ofPred_eq, occurs_iff_part notVar notQuantified]
  grind

theorem not_freeUnder_var {bound : Bool} : ¬FreeUnder x y (var name bound) := by
  rintro ⟨scope, occurs, -, under⟩
  obtain ⟨-, rfl⟩ := occurs_var.mp occurs
  cases under

theorem freeUnder_quantified {kind : Quantifier} {domain : Option Formula} {body : Formula} :
    FreeUnder x y (quantified kind name domain body) ↔
      (∃ d ∈ domain, FreeUnder x y d) ∨
        x ≠ name ∧ (FreeUnder x y body ∨ y = name ∧ x ∈ body.freeNames) := by
  simp only [FreeUnder, freeNames, Set.mem_ofPred_eq, occurs_quantified]
  constructor
  · rintro ⟨scope, ⟨d, mem, inside⟩ | ⟨inner, rfl, inside⟩, free, under⟩
    · exact .inl ⟨d, mem, scope, inside, free, under⟩
    · rw [List.mem_cons, not_or] at free
      rcases List.mem_cons.mp under with rfl | under
      · exact .inr ⟨free.1, .inr ⟨rfl, inner, inside, free.2⟩⟩
      · exact .inr ⟨free.1, .inl ⟨inner, inside, free.2, under⟩⟩
  · rintro (⟨d, mem, scope, inside, free, under⟩ |
      ⟨differ, ⟨inner, inside, free, under⟩ | ⟨rfl, inner, inside, free⟩⟩)
    · exact ⟨scope, .inl ⟨d, mem, inside⟩, free, under⟩
    · exact ⟨name :: inner, .inr ⟨inner, rfl, inside⟩, by simp [differ, free], by simp [under]⟩
    · exact ⟨y :: inner, .inr ⟨inner, rfl, inside⟩, by simp [differ, free], by simp⟩

theorem freeUnder_iff_part (notVar : f.kind ≠ .var) (notQuantified : f.kind ≠ .quantifier) :
    FreeUnder x y f ↔ ∃ part ∈ f.children, FreeUnder x y part := by
  simp only [FreeUnder, occurs_iff_part notVar notQuantified]
  grind

/-! ## Occurrences behind a substitution -/

/-- A variable that occurs in the replacement comes to occur in its copy at a free occurrence of
`x`, in the scope of that occurrence and its own behind it. -/
def Inserted (x : String) (r : Formula) (z : String) (scope : List String) (f : Formula) : Prop :=
  ∃ outer inner, scope = outer ++ inner ∧ (Occurs x outer f ∧ x ∉ outer) ∧ Occurs z inner r

theorem inserted_var {bound : Bool} :
    Inserted x r z scope (var name bound) ↔ x = name ∧ Occurs z scope r := by
  simp only [Inserted, occurs_var]
  constructor
  · rintro ⟨_, inner, rfl, ⟨⟨rfl, rfl⟩, -⟩, inside⟩
    exact ⟨rfl, inside⟩
  · rintro ⟨rfl, inside⟩
    exact ⟨[], scope, rfl, ⟨⟨rfl, rfl⟩, List.not_mem_nil⟩, inside⟩

theorem inserted_quantified {kind : Quantifier} {domain : Option Formula} {body : Formula} :
    Inserted x r z scope (quantified kind name domain body) ↔
      (∃ d ∈ domain, Inserted x r z scope d) ∨
        x ≠ name ∧ ∃ inner, scope = name :: inner ∧ Inserted x r z inner body := by
  simp only [Inserted, occurs_quantified]
  constructor
  · rintro ⟨outer, inner, rfl, ⟨⟨d, mem, occurs⟩ | ⟨outer, rfl, occurs⟩, free⟩, inside⟩
    · exact .inl ⟨d, mem, outer, inner, rfl, ⟨occurs, free⟩, inside⟩
    · rw [List.mem_cons, not_or] at free
      exact .inr ⟨free.1, outer ++ inner, rfl, outer, inner, rfl, ⟨occurs, free.2⟩, inside⟩
  · rintro (⟨d, mem, outer, inner, rfl, ⟨occurs, free⟩, inside⟩ |
      ⟨differ, _, rfl, outer, inner, rfl, ⟨occurs, free⟩, inside⟩)
    · exact ⟨outer, inner, rfl, ⟨.inl ⟨d, mem, occurs⟩, free⟩, inside⟩
    · refine ⟨name :: outer, inner, rfl, ⟨.inr ⟨outer, rfl, occurs⟩, ?_⟩, inside⟩
      simp [differ, free]

theorem inserted_iff_part (notVar : f.kind ≠ .var) (notQuantified : f.kind ≠ .quantifier) :
    Inserted x r z scope f ↔ ∃ part ∈ f.children, Inserted x r z scope part := by
  simp only [Inserted, occurs_iff_part notVar notQuantified]
  grind

theorem occurs_substitute (f : Formula) :
    Occurs z scope (substitute x r f) ↔
      Occurs z scope f ∧ (z ≠ x ∨ x ∈ scope) ∨ Inserted x r z scope f := by
  induction f using inductionOnBinders generalizing scope with
  | var name bound =>
      rw [inserted_var, substitute_var]
      by_cases same : name = x
      · subst same
        simp only [if_true, occurs_var]
        grind
      · simp only [if_neg same, occurs_var]
        grind
  | quantified kind name domain body ranging inner =>
      have domains : (∃ d ∈ domain.map (substitute x r), Occurs z scope d) ↔
          ∃ d ∈ domain, Occurs z scope d ∧ (z ≠ x ∨ x ∈ scope) ∨ Inserted x r z scope d := by
        cases domain with
        | none => simp
        | some d => simp [ranging d rfl]
      rw [substitute_quantified, occurs_quantified, occurs_quantified, inserted_quantified, domains]
      by_cases shielded : name = x
      · subst shielded
        simp only [if_true]
        grind
      · simp only [if_neg shielded, inner]
        grind
  | other f notVar notQuantified parts =>
      have kind := kind_mapParts (substitute x r) f
      rw [← substitute_eq_mapParts x r notVar notQuantified] at kind
      rw [occurs_iff_part (kind ▸ notVar) (kind ▸ notQuantified),
        children_substitute x r notVar notQuantified, occurs_iff_part notVar notQuantified,
        inserted_iff_part notVar notQuantified]
      simp only [List.mem_map]
      grind

/-! ## Free names behind a substitution -/

theorem substitute_eq_self (absent : x ∉ f.freeNames) (r : Formula) : substitute x r f = f := by
  induction f using inductionOnBinders with
  | var name bound =>
      rw [mem_freeNames_var] at absent
      rw [substitute_var, if_neg (Ne.symm absent)]
  | quantified kind name domain body ranging inner =>
      rw [mem_freeNames_quantified, not_or, not_and] at absent
      obtain ⟨outside, shielded⟩ := absent
      have domains : domain.map (substitute x r) = domain := by
        cases domain with
        | none => rfl
        | some d => rw [Option.map_some, ranging d rfl fun free => outside ⟨d, rfl, free⟩]
      rw [substitute_quantified, domains]
      split
      · rfl
      · rw [inner (shielded (Ne.symm ‹_›))]
  | other f notVar notQuantified parts =>
      rw [substitute_eq_mapParts x r notVar notQuantified]
      apply mapParts_eq_self
      intro part mem
      apply parts part mem
      exact fun free => absent ((mem_freeNames_iff_part notVar notQuantified).mpr ⟨part, mem, free⟩)

theorem mem_freeNames_substitute :
    z ∈ (substitute x r f).freeNames ↔
      z ∈ f.freeNames \ {x} ∨ ∃ scope, Inserted x r z scope f ∧ z ∉ scope := by
  simp only [freeNames, Set.mem_sdiff, Set.mem_ofPred_eq, Set.mem_singleton_iff, occurs_substitute]
  constructor
  · rintro ⟨scope, ⟨occurs, kept⟩ | inserted, free⟩
    · refine .inl ⟨⟨scope, occurs, free⟩, ?_⟩
      rintro rfl
      exact kept.elim (fun differ => differ rfl) free
    · exact .inr ⟨scope, inserted, free⟩
  · rintro (⟨⟨scope, occurs, free⟩, differ⟩ | ⟨scope, inserted, free⟩)
    · exact ⟨scope, .inl ⟨occurs, .inl differ⟩, free⟩
    · exact ⟨scope, .inr inserted, free⟩

theorem freeNames_substitute_subset :
    (substitute x r f).freeNames ⊆ f.freeNames \ {x} ∪ r.freeNames := by
  intro z mem
  rcases mem_freeNames_substitute.mp mem with kept | ⟨_, ⟨outer, inner, rfl, -, occurs⟩, free⟩
  · exact .inl kept
  · exact .inr ⟨inner, occurs, fun mem => free (List.mem_append_right outer mem)⟩

theorem mem_freeNames_of_replacement (there : x ∈ f.freeNames) (free : z ∈ r.freeNames)
    (clear : ¬FreeUnder x z f) : z ∈ (substitute x r f).freeNames := by
  obtain ⟨outer, occurs, unbound⟩ := there
  obtain ⟨inner, inside, unbound'⟩ := free
  apply mem_freeNames_substitute.mpr
  refine .inr ⟨outer ++ inner, ⟨outer, inner, rfl, ⟨occurs, unbound⟩, inside⟩, ?_⟩
  rw [List.mem_append, not_or]
  exact ⟨fun mem => clear ⟨outer, occurs, unbound, mem⟩, unbound'⟩

theorem freeNames_of_substitution (n r : Formula) (x : String) :
    (x ∉ n.freeNames → substitute x r n = n) ∧
    n.freeNames \ {x} ⊆ (substitute x r n).freeNames ∧
    (substitute x r n).freeNames ⊆ n.freeNames \ {x} ∪ r.freeNames ∧
    (x ∉ r.freeNames → x ∉ (substitute x r n).freeNames) ∧
    (x ∈ n.freeNames → (∀ y ∈ r.freeNames, ¬FreeUnder x y n) →
      (substitute x r n).freeNames = n.freeNames \ {x} ∪ r.freeNames) := by
  have keeps : n.freeNames \ {x} ⊆ (substitute x r n).freeNames :=
    fun z kept => mem_freeNames_substitute.mpr (.inl kept)
  refine ⟨fun absent => substitute_eq_self absent r, keeps, freeNames_substitute_subset, ?_, ?_⟩
  · intro absent mem
    rcases freeNames_substitute_subset mem with ⟨-, differ⟩ | free
    · exact differ rfl
    · exact absent free
  · intro there clear
    apply freeNames_substitute_subset.antisymm
    apply Set.union_subset keeps
    exact fun z free => mem_freeNames_of_replacement there free (clear z free)

theorem freeNames_of_substitution_domain :
    let n := quantified .universal "y" (some (var "x" false)) (var "y" true)
    let r := var "y" false
    "x" ∈ n.freeNames ∧ (∀ y ∈ r.freeNames, ¬FreeUnder "x" y n) ∧
      (substitute "x" r n).freeNames = n.freeNames \ {"x"} ∪ r.freeNames := by
  intro n r
  have there : "x" ∈ n.freeNames := by
    simp [n, mem_freeNames_quantified, mem_freeNames_var]
  have clear : ∀ y ∈ r.freeNames, ¬FreeUnder "x" y n := by
    simp [n, freeUnder_quantified, not_freeUnder_var, mem_freeNames_var]
  exact ⟨there, clear, (freeNames_of_substitution n r "x").2.2.2.2 there clear⟩

end Proofbook.Formula
