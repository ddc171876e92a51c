import Proofbook.Proofs.Formula.Contradiction
import Proofbook.Proofs.Registry.Performance

namespace Proofbook

open Registry

def Request.isAmending : Request → Bool
  | addAxiom .. | validateAxiom _ | checkConsistency | reset _ => true
  | _ => false

/-! ## Contradicting pairs -/

namespace Formula

theorem mem_contradictions {statements : List Formula} {i j : Nat} :
    (i, j) ∈ contradictions statements ↔
      i < j ∧ ∃ a b, statements[i]? = some a ∧ statements[j]? = some b ∧
        contradicts a b = true := by
  unfold contradictions
  constructor
  · intro mem
    obtain ⟨⟨a, i'⟩, first, mem⟩ := List.mem_flatMap.mp mem
    obtain ⟨⟨b, j'⟩, second, found⟩ := List.mem_filterMap.mp mem
    have opposed : contradicts a b = true ∧ (i', j') = (i, j) := by simpa using found
    obtain ⟨opposed, same⟩ := opposed
    cases same
    obtain ⟨k, there⟩ := List.mem_iff_getElem?.mp second
    rw [List.getElem?_drop, List.getElem?_zipIdx, Option.map_eq_some_iff] at there
    obtain ⟨b', at_, paired⟩ := there
    cases paired
    rw [Nat.zero_add]
    exact ⟨by omega, a, b, List.mem_zipIdx_iff_getElem?.mp first, at_, opposed⟩
  · rintro ⟨less, a, b, first, second, opposed⟩
    refine List.mem_flatMap.mpr ⟨(a, i), List.mem_zipIdx_iff_getElem?.mpr first, ?_⟩
    refine List.mem_filterMap.mpr ⟨(b, j), ?_, if_pos opposed⟩
    apply List.mem_of_getElem?
    rw [List.getElem?_drop, List.getElem?_zipIdx, Nat.add_sub_cancel' less, second, Nat.zero_add]
    rfl

end Formula

namespace Registry

variable {r r' : Registry} {pairs : List (Nat × Nat)} {i j : Nat}

theorem mem_contradictions :
    (i, j) ∈ r.contradictions ↔
      i < j ∧ ∃ a b, r.axioms.items[i]? = some a ∧ r.axioms.items[j]? = some b ∧
        Formula.contradicts a.statement b.statement = true := by
  unfold contradictions
  rw [Formula.mem_contradictions]
  simp only [List.getElem?_map, Option.map_eq_some_iff]
  grind

theorem isSpared_eq_false :
    isSpared pairs i = false ↔ ∃ j, (i, j) ∈ pairs ∨ (j, i) ∈ pairs := by
  unfold isSpared
  simp only [Bool.not_eq_false', List.any_eq_true, Bool.or_eq_true, beq_iff_eq]
  constructor
  · rintro ⟨⟨a, b⟩, mem, rfl | rfl⟩
    · exact ⟨b, .inl mem⟩
    · exact ⟨a, .inr mem⟩
  · rintro ⟨j, mem | mem⟩
    · exact ⟨_, mem, .inl rfl⟩
    · exact ⟨_, mem, .inr rfl⟩

theorem getElem?_accusePair (axioms : List Axiom) (pair : Nat × Nat) (i : Nat) :
    (accusePair axioms pair)[i]? =
      axioms[i]?.map fun a => if isSpared [pair] i then a else a.accuse := by
  rw [accusePair, List.getElem?_modify, List.getElem?_modify]
  cases axioms[i]? with
  | none => rfl
  | some a =>
      by_cases first : pair.1 = i <;> by_cases second : pair.2 = i <;>
        simp [isSpared, first, second, Axiom.accuse]

theorem getElem?_accuseAll (axioms : List Axiom) (pairs : List (Nat × Nat)) (i : Nat) :
    (accuseAll axioms pairs)[i]? =
      axioms[i]?.map fun a => { a with isConsistent := isSpared pairs i } := by
  have accused (marked : List Axiom) :
      (pairs.foldl accusePair marked)[i]? =
        marked[i]?.map fun a => if isSpared pairs i then a else a.accuse := by
    induction pairs generalizing marked with
    | nil => simp [isSpared]
    | cons pair rest ih =>
        have both : isSpared (pair :: rest) i = (isSpared [pair] i && isSpared rest i) := by
          simp [isSpared]
        rw [List.foldl_cons, ih, getElem?_accusePair, both]
        cases marked[i]? with
        | none => rfl
        | some a => cases isSpared [pair] i <;> cases isSpared rest i <;> rfl
  rw [accuseAll, accused, List.getElem?_map]
  cases axioms[i]? with
  | none => rfl
  | some a => cases isSpared pairs i <;> rfl

theorem map_accuseAll {β : Type} {f : Axiom → β}
    (unseen : ∀ a isConsistent, f { a with isConsistent } = f a) (axioms : List Axiom)
    (pairs : List (Nat × Nat)) : (accuseAll axioms pairs).map f = axioms.map f := by
  apply List.ext_getElem?
  intro i
  rw [List.getElem?_map, getElem?_accuseAll, Option.map_map, List.getElem?_map]
  congr 1
  funext a
  exact unseen a _

theorem forall_accuseAll {holds : Axiom → Prop} {axioms : List Axiom}
    (all : ∀ a ∈ axioms, holds a)
    (keeps : ∀ a isConsistent, holds a → holds { a with isConsistent })
    (pairs : List (Nat × Nat)) : ∀ a ∈ accuseAll axioms pairs, holds a := by
  intro a mem
  obtain ⟨i, here⟩ := List.mem_iff_getElem?.mp mem
  rw [getElem?_accuseAll, Option.map_eq_some_iff] at here
  obtain ⟨b, was, rfl⟩ := here
  exact keeps b _ (all b (List.mem_of_getElem? was))

/-! ## What a request does to axioms -/

inductive Amends (r r' : Registry) : Request → Prop where
  | kept {request : Request} (other : request.isAmending = false)
      (axioms : r'.axioms = r.axioms) (flag : r'.isConsistent = r.isConsistent) :
      Amends r r' request
  | added {name : String} {statement : Formula} (free : r.axioms.contains name = false)
      (wellFormed : statement.wellFormed = true)
      (axioms : r'.axioms = r.axioms.insert name { name, statement })
      (flag : r'.isConsistent = r.isConsistent) : Amends r r' (.addAxiom name statement)
  | judged {name : String} {position : Nat} (found : r.axioms.position? name = some position)
      (axioms : r'.axioms = r.axioms.modifyAt position fun a =>
        { a with isConsistent := isSpared r.contradictions position })
      (flag : r'.isConsistent = r.isConsistent) : Amends r r' (.validateAxiom name)
  | scanned
      (axioms : r'.axioms = { r.axioms with items := accuseAll r.axioms.items r.contradictions })
      (flag : r'.isConsistent = r.contradictions.isEmpty) : Amends r r' .checkConsistency
  | reset (anew : r' = fresh) : Amends r r' (.reset true)

theorem amends_of_performs {config : Config} {time : Nat} {request : Request} {answer : Answer}
    (performs : Performs config time r request answer r') : Amends r r' request := by
  cases performs with
  | addAxiom free wellFormed => exact .added free wellFormed rfl rfl
  | validateAxiom found judged =>
      subst judged
      exact .judged found rfl rfl
  | checkConsistency => exact .scanned rfl rfl
  | reset => exact .reset rfl
  | addStep known opened | verifyProof known some verdict opened =>
      obtain ⟨-, axioms, flag, -⟩ := openProof_frame opened
      exact .kept rfl axioms flag
  | verifyTheorem | derive =>
      apply Amends.kept rfl
      · split <;> rfl
      · split <;> rfl
  | _ => exact .kept rfl rfl rfl

structure AxiomsSound (r : Registry) : Prop where
  coherent : r.axioms.Coherent Axiom.name
  wellFormed : ∀ a ∈ r.axioms.items, a.statement.wellFormed = true

theorem axiomsSound_fresh : fresh.AxiomsSound where
  coherent := by
    have empty : Store.empty.Coherent Axiom.name := Store.coherent_empty
    have first : (Store.empty.insert _ Axiom.excludedMiddle).Coherent Axiom.name :=
      empty.insert rfl
    exact first.insert (by decide)
  wellFormed := by decide

theorem AxiomsSound.amends {request : Request} (sound : r.AxiomsSound)
    (amends : Amends r r' request) : r'.AxiomsSound := by
  cases amends with
  | kept _ axioms => exact ⟨axioms ▸ sound.coherent, axioms ▸ sound.wellFormed⟩
  | added free wellFormed axioms =>
      refine ⟨?_, ?_⟩ <;> rw [axioms]
      · exact sound.coherent.insert free
      · exact Store.forall_insert sound.wellFormed wellFormed _
  | judged found axioms =>
      refine ⟨?_, ?_⟩ <;> rw [axioms]
      · apply sound.coherent.of_keys
        apply Store.map_modify_unseen
        exact fun _ => rfl
      · apply Store.forall_modifyAt sound.wellFormed
        exact fun _ old => old
  | scanned axioms =>
      refine ⟨?_, ?_⟩ <;> rw [axioms]
      · apply sound.coherent.of_keys
        exact map_accuseAll (fun _ _ => rfl) _ _
      · exact forall_accuseAll sound.wellFormed (fun _ _ old => old) _
  | reset anew => exact anew ▸ axiomsSound_fresh

/-! ## Flags with a warrant -/

theorem contradictions_congr
    (same : r'.axioms.items.map Axiom.statement = r.axioms.items.map Axiom.statement) :
    r'.contradictions = r.contradictions := by
  rw [contradictions, same, contradictions]

theorem getElem?_of_grown {rest : List Axiom} (grown : r'.axioms.items = r.axioms.items ++ rest)
    {a : Axiom} (there : r.axioms.items[i]? = some a) : r'.axioms.items[i]? = some a := by
  obtain ⟨inside, -⟩ := List.getElem?_eq_some_iff.mp there
  rw [grown, List.getElem?_append_left inside, there]

theorem contradictions_mono {rest : List Axiom}
    (grown : r'.axioms.items = r.axioms.items ++ rest) (mem : (i, j) ∈ r.contradictions) :
    (i, j) ∈ r'.contradictions := by
  rw [mem_contradictions] at mem ⊢
  obtain ⟨less, a, b, first, second, opposed⟩ := mem
  exact ⟨less, a, b, getElem?_of_grown grown first, getElem?_of_grown grown second, opposed⟩

theorem isSpared_of_not_isConnective {a : Axiom} (there : r.axioms.items[i]? = some a)
    (other : a.statement.isConnective = false) : isSpared r.contradictions i = true := by
  rw [← Bool.not_eq_false, isSpared_eq_false]
  rintro ⟨j, mem | mem⟩
  · obtain ⟨-, b, c, first, -, opposed⟩ := mem_contradictions.mp mem
    cases there.symm.trans first
    simp [Formula.contradicts, other] at opposed
  · obtain ⟨-, b, c, -, second, opposed⟩ := mem_contradictions.mp mem
    cases there.symm.trans second
    simp [Formula.contradicts, other] at opposed

def Accused (r : Registry) (position : Nat) : Prop :=
  ∃ a, r.axioms.items[position]? = some a ∧ a.isConsistent = false

/-- Every flag that tells of a contradiction has one that is still there. -/
structure Warranted (r : Registry) : Prop where
  seeded : Axiom.seeds <+: r.axioms.items
  accused : ∀ i, r.Accused i → isSpared r.contradictions i = false
  inconsistent : r.isConsistent = false →
    ∃ i j, (i, j) ∈ r.contradictions ∧ r.Accused i ∧ r.Accused j

theorem warranted_fresh : fresh.Warranted where
  seeded := List.prefix_rfl
  accused := by
    rintro i ⟨a, there, accused⟩
    have absolved : ∀ a ∈ fresh.axioms.items, a.isConsistent = true := by decide
    rw [absolved a (List.mem_of_getElem? there)] at accused
    cases accused
  inconsistent := nofun

theorem Accused.grown {rest : List Axiom} (accused : r.Accused i)
    (grown : r'.axioms.items = r.axioms.items ++ rest) : r'.Accused i := by
  obtain ⟨a, there, flag⟩ := accused
  exact ⟨a, getElem?_of_grown grown there, flag⟩

theorem Warranted.added (warranted : r.Warranted) {name : String} {new : Axiom}
    (absolved : new.isConsistent = true) (axioms : r'.axioms = r.axioms.insert name new)
    (flag : r'.isConsistent = r.isConsistent) : r'.Warranted := by
  have grown : r'.axioms.items = r.axioms.items ++ [new] := by
    rw [axioms]
    rfl
  refine ⟨?_, ?_, ?_⟩
  · rw [grown]
    exact warranted.seeded.trans (List.prefix_append _ _)
  · rintro i ⟨a, there, accused⟩
    -- The new axiom is not accused, so the accused one was there before.
    have old : r.axioms.items[i]? = some a := by
      rw [grown, List.getElem?_append] at there
      split at there
      · exact there
      · obtain rfl := List.mem_singleton.mp (List.mem_of_getElem? there)
        rw [absolved] at accused
        cases accused
    obtain ⟨j, opposed⟩ := isSpared_eq_false.mp (warranted.accused i ⟨a, old, accused⟩)
    apply isSpared_eq_false.mpr
    exact ⟨j, opposed.imp (contradictions_mono grown) (contradictions_mono grown)⟩
  · intro inconsistent
    rw [flag] at inconsistent
    obtain ⟨i, j, opposed, first, second⟩ := warranted.inconsistent inconsistent
    exact ⟨i, j, contradictions_mono grown opposed, first.grown grown, second.grown grown⟩

/-! ## Setting flags anew -/

def Reflags (anew : Nat → Bool) (r r' : Registry) : Prop :=
  ∀ i, r'.axioms.items[i]? = r.axioms.items[i]?.map fun a =>
    if anew i then { a with isConsistent := isSpared r.contradictions i } else a

namespace Reflags

variable {anew : Nat → Bool}

theorem contradictions_eq (reflags : Reflags anew r r') :
    r'.contradictions = r.contradictions := by
  apply contradictions_congr
  apply List.ext_getElem?
  intro i
  rw [List.getElem?_map, List.getElem?_map, reflags, Option.map_map]
  congr 1
  funext a
  dsimp only [Function.comp_apply]
  split <;> rfl

theorem seeded (reflags : Reflags anew r r') (seeded : Axiom.seeds <+: r.axioms.items) :
    Axiom.seeds <+: r'.axioms.items := by
  rw [List.prefix_iff_getElem?] at seeded ⊢
  intro i inside
  have there := seeded i inside
  have seed : Axiom.seeds[i] ∈ Axiom.seeds := List.getElem_mem inside
  have absolved : ∀ a ∈ Axiom.seeds, a.isConsistent = true := by decide
  -- No pair has one of the axioms of the start, so a flag of theirs that is set anew stays true.
  have other : ∀ a ∈ Axiom.seeds, a.statement.isConnective = false := by decide
  rw [reflags, there, Option.map_some, isSpared_of_not_isConnective there (other _ seed)]
  split
  · rw [← absolved _ seed]
  · rfl

theorem accused_iff (reflags : Reflags anew r r') :
    r'.Accused i ↔
      if anew i then (∃ a, r.axioms.items[i]? = some a) ∧ isSpared r.contradictions i = false
      else r.Accused i := by
  unfold Accused
  rw [reflags]
  cases r.axioms.items[i]? with
  | none => simp
  | some a => cases anew i <;> simp

theorem accuses (reflags : Reflags anew r r') {a : Axiom}
    (there : r.axioms.items[i]? = some a) (opposed : isSpared r.contradictions i = false)
    (accused : anew i = true ∨ r.Accused i) : r'.Accused i := by
  apply reflags.accused_iff.mpr
  split
  · exact ⟨⟨a, there⟩, opposed⟩
  · exact accused.resolve_left ‹_›

end Reflags

theorem Warranted.reflagged (warranted : r.Warranted) {anew : Nat → Bool}
    (reflags : Reflags anew r r')
    (flag : r'.isConsistent = false → r.isConsistent = false ∨
      ∃ i j, (i, j) ∈ r.contradictions ∧ anew i = true ∧ anew j = true) : r'.Warranted := by
  refine ⟨reflags.seeded warranted.seeded, ?_, ?_⟩ <;> rw [reflags.contradictions_eq]
  · intro i accused
    have before := reflags.accused_iff.mp accused
    split at before
    · exact before.2
    · exact warranted.accused i before
  · intro inconsistent
    -- Each axiom of the pair was accused before or has its flag set anew, to what the pair gives.
    have accused : ∃ i j, (i, j) ∈ r.contradictions ∧
        (anew i = true ∨ r.Accused i) ∧ (anew j = true ∨ r.Accused j) := by
      rcases flag inconsistent with before | ⟨i, j, opposed, first, second⟩
      · obtain ⟨i, j, opposed, first, second⟩ := warranted.inconsistent before
        exact ⟨i, j, opposed, .inr first, .inr second⟩
      · exact ⟨i, j, opposed, .inl first, .inl second⟩
    obtain ⟨i, j, opposed, first, second⟩ := accused
    obtain ⟨-, a, b, there, there', -⟩ := mem_contradictions.mp opposed
    refine ⟨i, j, opposed, ?_, ?_⟩
    · exact reflags.accuses there (isSpared_eq_false.mpr ⟨j, .inl opposed⟩) first
    · exact reflags.accuses there' (isSpared_eq_false.mpr ⟨i, .inr opposed⟩) second

theorem Warranted.amends {request : Request} (warranted : r.Warranted)
    (amends : Amends r r' request) : r'.Warranted := by
  cases amends with
  | kept _ axioms flag =>
      have reflags : Reflags (fun _ => false) r r' := by
        intro i
        simp [axioms]
      exact warranted.reflagged reflags fun inconsistent => .inl (flag ▸ inconsistent)
  | added free wellFormed axioms flag => exact warranted.added rfl axioms flag
  | @judged name position found axioms flag =>
      have reflags : Reflags (fun i => position == i) r r' := by
        intro i
        rw [axioms, Store.modifyAt, List.getElem?_modify]
        cases r.axioms.items[i]? with
        | none => rfl
        | some a => by_cases here : position = i <;> simp [here]
      exact warranted.reflagged reflags fun inconsistent => .inl (flag ▸ inconsistent)
  | scanned axioms flag =>
      have reflags : Reflags (fun _ => true) r r' := by
        intro i
        rw [axioms, getElem?_accuseAll]
        simp
      apply warranted.reflagged reflags
      intro inconsistent
      rw [flag, List.isEmpty_eq_false_iff_exists_mem] at inconsistent
      obtain ⟨⟨i, j⟩, opposed⟩ := inconsistent
      exact .inr ⟨i, j, opposed, rfl, rfl⟩
  | reset anew => exact anew ▸ warranted_fresh

end Registry

end Proofbook
