import Mathlib.Data.List.Forall2
import Mathlib.Data.Prod.Lex
import Mathlib.Data.Sym.Sym2
import Proofbook.Proofs.Registry.Consistency

namespace Proofbook

namespace Formula

theorem pairwise_zipIdx (statements : List Formula) :
    statements.zipIdx.Pairwise fun first second => first.2 < second.2 := by
  rw [← List.pairwise_map (f := Prod.snd), List.zipIdx_map_snd]
  exact List.pairwise_lt_range'

theorem pairwise_contradictions (statements : List Formula) :
    (contradictions statements).Pairwise (Prod.Lex (· < ·) (· < ·)) := by
  have ascending := pairwise_zipIdx statements
  -- Every pair that is found from a position has that position for its first one.
  have found {a b : Formula} {i j : Nat} {pair : Nat × Nat}
      (there : (if contradicts a b then some (i, j) else none) = some pair) : (i, j) = pair :=
    Option.some.inj (Option.ite_none_right_eq_some.mp there).2
  unfold contradictions
  rw [List.pairwise_flatMap]
  constructor
  · rintro ⟨a, i⟩ -
    rw [List.pairwise_filterMap]
    apply (ascending.sublist (List.drop_sublist _ _)).imp
    rintro ⟨b, j⟩ ⟨c, k⟩ less pair there pair' there'
    obtain rfl := found there
    obtain rfl := found there'
    exact .right _ less
  · apply ascending.imp
    rintro ⟨a, i⟩ ⟨b, j⟩ less pair mem pair' mem'
    obtain ⟨⟨c, k⟩, -, there⟩ := List.mem_filterMap.mp mem
    obtain ⟨⟨d, l⟩, -, there'⟩ := List.mem_filterMap.mp mem'
    obtain rfl := found there
    obtain rfl := found there'
    exact .left _ _ less

end Formula

namespace Registry

variable {r r' : Registry} {positions : List (Nat × Nat)} {name : String}

structure Conflicts (r : Registry) (positions : List (Nat × Nat)) : Prop where
  ordered : positions.Pairwise (Prod.Lex (· < ·) (· < ·))
  mem_iff : ∀ i j, (i, j) ∈ positions ↔
    i < j ∧ ∃ a b, r.axioms.items[i]? = some a ∧ r.axioms.items[j]? = some b ∧
      Formula.contradicts a.statement b.statement = true

theorem conflicts_contradictions (r : Registry) : r.Conflicts r.contradictions where
  ordered := Formula.pairwise_contradictions _
  mem_iff _ _ := mem_contradictions

def flagged (r : Registry) (positions : List (Nat × Nat)) : Registry :=
  { r with
    axioms := { r.axioms with
      items := r.axioms.items.mapIdx fun i a =>
        { a with isConsistent := decide (∀ pair ∈ positions, i ≠ pair.1 ∧ i ≠ pair.2) } }
    isConsistent := positions.isEmpty }

theorem isSpared_eq_decide (pairs : List (Nat × Nat)) (i : Nat) :
    isSpared pairs i = decide (∀ pair ∈ pairs, i ≠ pair.1 ∧ i ≠ pair.2) := by
  rw [Bool.eq_iff_iff, decide_eq_true_iff, isSpared, Bool.not_eq_true', List.any_eq_false]
  refine forall₂_congr fun pair _ => ?_
  simp only [Bool.or_eq_true, beq_iff_eq]
  omega

theorem getElem?_flagged (r : Registry) (pairs : List (Nat × Nat)) (i : Nat) :
    (r.flagged pairs).axioms.items[i]? =
      r.axioms.items[i]?.map fun a => { a with isConsistent := isSpared pairs i } := by
  rw [flagged, List.getElem?_mapIdx, isSpared_eq_decide]

theorem accuseAll_eq_flagged (r : Registry) (pairs : List (Nat × Nat)) :
    accuseAll r.axioms.items pairs = (r.flagged pairs).axioms.items := by
  apply List.ext_getElem?
  intro i
  rw [getElem?_accuseAll, getElem?_flagged]

theorem map_flagged {β : Type} {f : Axiom → β}
    (unseen : ∀ a isConsistent, f { a with isConsistent } = f a) (r : Registry)
    (pairs : List (Nat × Nat)) :
    (r.flagged pairs).axioms.items.map f = r.axioms.items.map f := by
  rw [← accuseAll_eq_flagged]
  exact map_accuseAll unseen _ _

theorem contradictions_flagged (r : Registry) (pairs : List (Nat × Nat)) :
    (r.flagged pairs).contradictions = r.contradictions :=
  contradictions_congr (map_flagged (fun _ _ => rfl) r pairs)

theorem flagged_flagged (r : Registry) (pairs pairs' : List (Nat × Nat)) :
    (r.flagged pairs).flagged pairs' = r.flagged pairs' := by
  unfold flagged
  rw [List.mapIdx_mapIdx]
  rfl

/-! ## Pairs by name -/

def conflictNames (r : Registry) : List (String × String) :=
  namePairs r.axioms.items r.contradictions

def namesAt (axioms : List Axiom) (pair : Nat × Nat) : Option (String × String) :=
  (axioms.map Axiom.name)[pair.1]?.bind fun first =>
    (axioms.map Axiom.name)[pair.2]?.map fun second => (first, second)

theorem namePairs_eq (axioms : List Axiom) (pairs : List (Nat × Nat)) :
    namePairs axioms pairs = pairs.filterMap (namesAt axioms) := by
  unfold namePairs
  apply List.filterMap_congr
  rintro ⟨i, j⟩ -
  dsimp only [namesAt]
  rw [List.getElem?_map, List.getElem?_map]
  cases axioms[i]? <;> cases axioms[j]? <;> rfl

theorem namePairs_congr {axioms axioms' : List Axiom}
    (same : axioms'.map Axiom.name = axioms.map Axiom.name) (pairs : List (Nat × Nat)) :
    namePairs axioms' pairs = namePairs axioms pairs := by
  have namesAt_eq : namesAt axioms' = namesAt axioms := by
    unfold namesAt
    rw [same]
  rw [namePairs_eq, namePairs_eq, namesAt_eq]

theorem conflictNames_flagged (r : Registry) (pairs : List (Nat × Nat)) :
    (r.flagged pairs).conflictNames = r.conflictNames := by
  unfold conflictNames
  rw [contradictions_flagged]
  exact namePairs_congr (map_flagged (fun _ _ => rfl) r pairs) _

def Names (r : Registry) (pair : Nat × Nat) (names : String × String) : Prop :=
  ∃ a b, r.axioms.items[pair.1]? = some a ∧ r.axioms.items[pair.2]? = some b ∧
    names = (a.name, b.name)

theorem namesAt_eq_some {pair : Nat × Nat} {names : String × String} :
    namesAt r.axioms.items pair = some names ↔ r.Names pair names := by
  unfold namesAt Names
  rw [List.getElem?_map, List.getElem?_map]
  cases r.axioms.items[pair.1]? <;> cases r.axioms.items[pair.2]? <;> simp [eq_comm]

theorem forall₂_conflictNames (r : Registry) :
    List.Forall₂ r.Names r.contradictions r.conflictNames := by
  have named : ∀ pair ∈ r.contradictions, ∃ names, r.Names pair names := by
    rintro ⟨i, j⟩ mem
    obtain ⟨-, a, b, first, second, -⟩ := mem_contradictions.mp mem
    exact ⟨_, a, b, first, second, rfl⟩
  unfold conflictNames
  rw [namePairs_eq]
  generalize r.contradictions = pairs at named
  induction pairs with
  | nil => exact .nil
  | cons pair pairs ih =>
      obtain ⟨⟨names, here⟩, rest⟩ := List.forall_mem_cons.mp named
      rw [List.filterMap_cons_some (namesAt_eq_some.mpr here)]
      exact .cons here (ih rest)

theorem checkConsistency_eq (r : Registry) :
    checkConsistency r = .ok r.conflictNames (r.flagged r.contradictions) := by
  apply checkConsistency_ok.mpr
  rw [accuseAll_eq_flagged]
  exact ⟨(namePairs_congr (map_flagged (fun _ _ => rfl) r _) _).symm, rfl⟩

theorem checkConsistency_flagged (r : Registry) (pairs : List (Nat × Nat)) :
    checkConsistency (r.flagged pairs) = .ok r.conflictNames (r.flagged r.contradictions) := by
  rw [checkConsistency_eq, contradictions_flagged, flagged_flagged, conflictNames_flagged]

/-! ## A single axiom -/

theorem get?_flagged {a : Axiom} :
    (r.flagged positions).axioms.get? name = some a ↔
      ∃ i b, r.axioms.position? name = some i ∧ r.axioms.items[i]? = some b ∧
        a = { b with isConsistent := isSpared positions i } := by
  have located : (r.flagged positions).axioms.position? name = r.axioms.position? name := rfl
  rw [Store.get?, located, Option.bind_eq_some_iff]
  simp only [getElem?_flagged, Option.map_eq_some_iff]
  grind

theorem validateAxiom_eq {a : Axiom}
    (flag : (r.flagged r.contradictions).axioms.get? name = some a) :
    validateAxiom name r = .ok a.isConsistent { r with
      axioms := r.axioms.modify name fun b => { b with isConsistent := a.isConsistent } } := by
  obtain ⟨i, b, found, -, rfl⟩ := get?_flagged.mp flag
  refine validateAxiom_ok.mpr ⟨i, found, rfl, ?_⟩
  rw [Store.modify, found]

theorem modify_flagged {a : Axiom}
    (flag : (r.flagged positions).axioms.get? name = some a) :
    ((r.flagged positions).axioms.modify name fun b => { b with isConsistent := a.isConsistent }) =
      (r.flagged positions).axioms := by
  obtain ⟨i, b, found, there, rfl⟩ := get?_flagged.mp flag
  have located : (r.flagged positions).axioms.position? name = some i := found
  have same : ((r.flagged positions).axioms.items.modify i fun b =>
      { b with isConsistent := isSpared positions i }) = (r.flagged positions).axioms.items := by
    apply List.ext_getElem?
    intro j
    rw [List.getElem?_modify, getElem?_flagged]
    cases r.axioms.items[j]? with
    | none => rfl
    | some c => by_cases here : i = j <;> simp [here]
  simp only [Store.modify, located, Store.modifyAt, same]

theorem validateAxiom_flagged {a : Axiom}
    (flag : (r.flagged r.contradictions).axioms.get? name = some a) :
    validateAxiom name (r.flagged r.contradictions) =
      .ok a.isConsistent (r.flagged r.contradictions) := by
  have again : ((r.flagged r.contradictions).flagged
      (r.flagged r.contradictions).contradictions).axioms.get? name = some a := by
    rw [flagged_flagged, contradictions_flagged]
    exact flag
  rw [validateAxiom_eq again, modify_flagged flag]

/-! ## Axioms in any order -/

def namedStatements (r : Registry) : List (String × Formula) :=
  r.axioms.items.map fun a => (a.name, a.statement)

/-- The pairs that a scan tells, whichever axiom of a pair comes first. -/
def unorderedNames (pairs : List (String × String)) : List (Sym2 String) :=
  pairs.map fun names => s(names.1, names.2)

theorem mem_namedStatements {statement : Formula} :
    (name, statement) ∈ r.namedStatements ↔
      ∃ (i : Nat) (a : Axiom), r.axioms.items[i]? = some a ∧ a.name = name ∧
        a.statement = statement := by
  rw [namedStatements, List.mem_iff_getElem?]
  simp only [List.getElem?_map, Option.map_eq_some_iff, Prod.mk.injEq]

/-- No axiom contradicts itself, so of two that contradict each other one comes first. -/
theorem mem_contradictions_either {i j : Nat} {a b : Axiom}
    (first : r.axioms.items[i]? = some a) (second : r.axioms.items[j]? = some b) :
    (i, j) ∈ r.contradictions ∨ (j, i) ∈ r.contradictions ↔
      Formula.contradicts a.statement b.statement = true := by
  constructor
  · rintro (mem | mem) <;> obtain ⟨-, a', b', there, there', opposed⟩ := mem_contradictions.mp mem
    · cases first.symm.trans there
      cases second.symm.trans there'
      exact opposed
    · cases second.symm.trans there
      cases first.symm.trans there'
      rwa [Formula.contradicts_comm]
  · intro opposed
    rcases Nat.lt_trichotomy i j with less | rfl | greater
    · exact .inl (mem_contradictions.mpr ⟨less, a, b, first, second, opposed⟩)
    · cases first.symm.trans second
      rw [Formula.not_contradicts_self] at opposed
      cases opposed
    · rw [Formula.contradicts_comm] at opposed
      exact .inr (mem_contradictions.mpr ⟨greater, b, a, second, first, opposed⟩)

theorem mem_conflictNames {names : String × String} :
    names ∈ r.conflictNames ↔ ∃ pair ∈ r.contradictions, r.Names pair names := by
  rw [conflictNames, namePairs_eq, List.mem_filterMap]
  simp only [namesAt_eq_some]

theorem mem_unorderedNames {m n : String} :
    s(m, n) ∈ unorderedNames r.conflictNames ↔
      ∃ f g, (m, f) ∈ r.namedStatements ∧ (n, g) ∈ r.namedStatements ∧
        Formula.contradicts f g = true := by
  simp only [mem_namedStatements]
  constructor
  · intro mem
    obtain ⟨names, told, same⟩ := List.mem_map.mp mem
    obtain ⟨⟨i, j⟩, opposed, a, b, first, second, rfl⟩ := mem_conflictNames.mp told
    rcases Sym2.eq_iff.mp same with ⟨rfl, rfl⟩ | ⟨rfl, rfl⟩
    · exact ⟨_, _, ⟨i, a, first, rfl, rfl⟩, ⟨j, b, second, rfl, rfl⟩,
        (mem_contradictions_either first second).mp (.inl opposed)⟩
    · exact ⟨_, _, ⟨j, b, second, rfl, rfl⟩, ⟨i, a, first, rfl, rfl⟩,
        (mem_contradictions_either second first).mp (.inr opposed)⟩
  · rintro ⟨_, _, ⟨i, a, first, rfl, rfl⟩, ⟨j, b, second, rfl, rfl⟩, opposed⟩
    apply List.mem_map.mpr
    rcases (mem_contradictions_either first second).mpr opposed with mem | mem
    · exact ⟨_, mem_conflictNames.mpr ⟨_, mem, a, b, first, second, rfl⟩, rfl⟩
    · exact ⟨_, mem_conflictNames.mpr ⟨_, mem, b, a, second, first, rfl⟩, Sym2.eq_swap⟩

theorem nodup_unorderedNames (coherent : r.axioms.Coherent Axiom.name) :
    (unorderedNames r.conflictNames).Nodup := by
  rw [unorderedNames, conflictNames, namePairs_eq, List.Nodup, List.pairwise_map,
    List.pairwise_filterMap]
  refine (Formula.pairwise_contradictions _).imp_of_mem ?_
  rintro ⟨i, j⟩ ⟨k, l⟩ mem mem' before names told names' told' same
  obtain ⟨a, b, first, second, rfl⟩ := namesAt_eq_some.mp told
  obtain ⟨c, d, third, fourth, rfl⟩ := namesAt_eq_some.mp told'
  have less : i < j := (mem_contradictions.mp mem).1
  have less' : k < l := (mem_contradictions.mp mem').1
  -- Equal names stand at equal positions.
  rcases Sym2.eq_iff.mp same with ⟨same, same'⟩ | ⟨same, same'⟩
  · obtain rfl := coherent.eq_of_key_eq first third same
    obtain rfl := coherent.eq_of_key_eq second fourth same'
    rcases Prod.lex_def.mp before with lt | ⟨-, lt⟩ <;> exact Nat.lt_irrefl _ lt
  · obtain rfl := coherent.eq_of_key_eq first fourth same
    obtain rfl := coherent.eq_of_key_eq second third same'
    exact Nat.lt_asymm less less'

theorem isSpared_iff {i : Nat} {a : Axiom} (there : r.axioms.items[i]? = some a) :
    isSpared r.contradictions i = true ↔
      ∀ n g, (n, g) ∈ r.namedStatements → Formula.contradicts a.statement g = false := by
  simp only [mem_namedStatements]
  constructor
  · rintro spared _ _ ⟨j, b, second, rfl, rfl⟩
    rw [← Bool.not_eq_true]
    intro opposed
    have unspared := isSpared_eq_false.mpr ⟨j, (mem_contradictions_either there second).mpr opposed⟩
    rw [spared] at unspared
    cases unspared
  · intro alone
    rw [← Bool.not_eq_false, isSpared_eq_false]
    rintro ⟨j, opposed⟩
    have other : ∃ b, r.axioms.items[j]? = some b := by
      rcases opposed with mem | mem <;>
        obtain ⟨-, a', b', first, second, -⟩ := mem_contradictions.mp mem
      · exact ⟨b', second⟩
      · exact ⟨a', first⟩
    obtain ⟨b, second⟩ := other
    have none := alone b.name b.statement ⟨j, b, second, rfl, rfl⟩
    rw [(mem_contradictions_either there second).mp opposed] at none
    cases none

def scannedFlag (r : Registry) (name : String) : Option Bool :=
  ((r.flagged r.contradictions).axioms.get? name).map Axiom.isConsistent

theorem scannedFlag_eq_some (coherent : r.axioms.Coherent Axiom.name) {flag : Bool} :
    r.scannedFlag name = some flag ↔
      ∃ f, (name, f) ∈ r.namedStatements ∧
        (flag = true ↔ ∀ n g, (n, g) ∈ r.namedStatements → Formula.contradicts f g = false) := by
  rw [scannedFlag, Option.map_eq_some_iff]
  constructor
  · rintro ⟨a, found, rfl⟩
    obtain ⟨i, b, located, there, rfl⟩ := get?_flagged.mp found
    have named := (coherent name i).mp located
    rw [List.getElem?_map, there] at named
    exact ⟨b.statement, mem_namedStatements.mpr ⟨i, b, there, Option.some.inj named, rfl⟩,
      isSpared_iff there⟩
  · rintro ⟨f, mem, flagged⟩
    obtain ⟨i, b, there, rfl, rfl⟩ := mem_namedStatements.mp mem
    have located := (coherent b.name i).mpr (by rw [List.getElem?_map, there]; rfl)
    refine ⟨_, get?_flagged.mpr ⟨i, b, located, there, rfl⟩, ?_⟩
    rw [Bool.eq_iff_iff, flagged]
    exact isSpared_iff there

theorem unorderedNames_perm (coherent : r.axioms.Coherent Axiom.name)
    (coherent' : r'.axioms.Coherent Axiom.name)
    (same : r'.namedStatements.Perm r.namedStatements) :
    (unorderedNames r'.conflictNames).Perm (unorderedNames r.conflictNames) := by
  refine (List.perm_ext_iff_of_nodup (nodup_unorderedNames coherent')
    (nodup_unorderedNames coherent)).mpr fun pair => ?_
  induction pair with
  | h m n => simp only [mem_unorderedNames, same.mem_iff]

theorem scannedFlag_of_perm (coherent : r.axioms.Coherent Axiom.name)
    (coherent' : r'.axioms.Coherent Axiom.name)
    (same : r'.namedStatements.Perm r.namedStatements) (name : String) :
    r'.scannedFlag name = r.scannedFlag name := by
  apply Option.ext
  intro flag
  simp only [scannedFlag_eq_some coherent', scannedFlag_eq_some coherent, same.mem_iff]

end Registry

end Proofbook
