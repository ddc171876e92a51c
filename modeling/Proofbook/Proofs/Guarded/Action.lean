import Proofbook.Proofs.Guarded.Basic
import Proofbook.Proofs.Registry.Consistency
import Proofbook.Proofs.Registry.Effect

/-!
An access by name goes to the position that the index gives, whether an item is there or not, and a
consistency scan sets the flags at the positions that it has found. Since the stores of a sound
registry are coherent, there is an item at every such position.
-/

namespace Proofbook

open Checked

/-! ## Access by name -/

namespace Store

variable {α : Type} {key : α → String} {store : Store α} {name : String}

def fetch (store : Store α) (name : String) : Checked (Option α) :=
  match store.position? name with
  | some position => some <$> item store.items position
  | none => .ok none

def need (store : Store α) (name : String) (missing : Error) : Checked α := do
  match ← store.fetch name with
  | some found => .ok found
  | none => fail missing

def alter (store : Store α) (name : String) (change : α → α) : Checked (Store α) :=
  match store.position? name with
  | some position => return { store with items := ← changeItem store.items position change }
  | none => .ok store

theorem Coherent.getElem?_of_position? (coherent : Coherent key store) {position : Nat}
    (found : store.position? name = some position) : ∃ a, store.items[position]? = some a := by
  have keyed := (coherent name position).mp found
  rw [List.getElem?_map] at keyed
  obtain ⟨a, there, -⟩ := Option.map_eq_some_iff.mp keyed
  exact ⟨a, there⟩

theorem Coherent.lt_of_position? (coherent : Coherent key store) {position : Nat}
    (found : store.position? name = some position) : position < store.items.length := by
  obtain ⟨a, there⟩ := coherent.getElem?_of_position? found
  exact (List.getElem?_eq_some_iff.mp there).1

theorem Coherent.fetch_eq (coherent : Coherent key store) (name : String) :
    store.fetch name = .ok (store.get? name) := by
  unfold fetch
  cases found : store.position? name with
  | none =>
      rw [get?, found]
      rfl
  | some position =>
      obtain ⟨a, there⟩ := coherent.getElem?_of_position? found
      rw [get?_of_position? found, there]
      dsimp only
      rw [item_of_getElem? there]
      rfl

-- An index that is out of date leads into a trap.
example : (⟨[], [("A", 0)]⟩ : Store Axiom).fetch "A" = Checked.trap (.position 0 0) := rfl

theorem Coherent.alter_eq (coherent : Coherent key store) (name : String) (change : α → α) :
    store.alter name change = .ok (store.modify name change) := by
  unfold alter Store.modify
  cases found : store.position? name with
  | none => rfl
  | some position =>
      dsimp only
      rw [changeItem_of_lt (coherent.lt_of_position? found)]
      rfl

end Store

namespace Guarded

def findTheorem (r : Registry) (name : String) : Checked Theorem :=
  r.theorems.need name (.theoremNotFound name)

def findAxiom (r : Registry) (name : String) : Checked Axiom :=
  r.axioms.need name (.axiomNotFound name)

def findProof (r : Registry) (goal : String) : Checked Proof :=
  r.proofs.need goal (.proofNotFound goal)

def completeProof (r : Registry) (goal : String) : Checked Proof := do
  let proof ← findProof r goal
  if proof.isComplete then .ok proof else fail (.proofIncomplete goal)

def changeTheorem (name : String) (change : Theorem → Theorem) : Guarded PUnit := do
  let r ← get
  set { r with theorems := ← lift (r.theorems.alter name change) }

def changeProof (goal : String) (change : Proof → Proof) : Guarded PUnit := do
  let r ← get
  set { r with proofs := ← lift (r.proofs.alter goal change) }

def changeAxiomAt (position : Nat) (change : Axiom → Axiom) : Guarded PUnit := do
  let r ← get
  let items ← lift (changeItem r.axioms.items position change)
  set { r with axioms := { r.axioms with items } }

/-! ## Contradictions -/

def accusePair (axioms : List Axiom) (pair : Nat × Nat) : Checked (List Axiom) := do
  changeItem (← changeItem axioms pair.1 Axiom.accuse) pair.2 Axiom.accuse

def accuseAll (axioms : List Axiom) (pairs : List (Nat × Nat)) : Checked (List Axiom) :=
  pairs.foldlM accusePair (axioms.map Axiom.absolve)

def namePair (axioms : List Axiom) (pair : Nat × Nat) : Checked (String × String) := do
  return ((← item axioms pair.1).name, (← item axioms pair.2).name)

/-! ## Actions -/

def verifyTheorem (name : String) : Guarded Bool := do
  let t ← ask (findTheorem · name)
  if !(t.statement.wellFormed && t.hypotheses.all Formula.wellFormed) then return false
  else
    if t.proof.any Proof.isValid || t.isEntailed then changeTheorem name Theorem.markProven
    return true

def validateAxiom (name : String) : Guarded Bool := do
  let position ← ask fun r => ofExcept (r.locateAxiom name)
  let isConsistent := Registry.isSpared (← get).contradictions position
  changeAxiomAt position fun a => { a with isConsistent }
  return isConsistent

def checkConsistency : Guarded (List (String × String)) := do
  let r ← get
  let pairs := r.contradictions
  let axioms ← lift (accuseAll r.axioms.items pairs)
  set { r with axioms := { r.axioms with items := axioms }, isConsistent := pairs.isEmpty }
  lift (pairs.mapM (namePair axioms))

def openProof (goal : String) : Guarded Proof := do
  if !(← get).proofs.contains goal then
    modify fun r => { r with proofs := r.proofs.insert goal (.empty goal) }
  ask (findProof · goal)

def addStep (goal : String) (step : Step) : Guarded Bool := do
  let _ ← ask (findTheorem · goal)
  let proof ← openProof goal
  changeProof goal (·.push step)
  return proof.steps.isEmpty || step.formula.isMarker || step.formula.wellFormed

def conclude (proof : Proof) (steps justifications : List Formula) (valid : Bool) (time : Nat) :
    Checked Proof :=
  if steps.length = justifications.length then
    .ok (proof.conclude steps justifications valid time)
  else Checked.trap (.unpaired steps.length justifications.length)

def commit (goal : String) (steps justifications : List Formula) (valid : Bool) (time : Nat) :
    Guarded Unit := do
  let _ ← ask (findTheorem · goal)
  let proof ← openProof goal
  let concluded ← lift (conclude proof steps justifications valid time)
  changeProof goal fun _ => concluded
  if valid then changeTheorem goal (·.prove concluded)
  modify fun r =>
    { r with statistics := r.statistics.addVerification steps.length valid time }

def verifyProof (limit : Option Nat) (time : Nat) (goal : String)
    (steps justifications : List Formula) : Guarded Bool := do
  let _ ← ask (findTheorem · goal)
  if steps.isEmpty then throw (.fault (.emptyProof goal))
  else
    let valid ← lift (ofExcept (Registry.checkWithin limit time goal steps))
    commit goal steps justifications valid time
    return valid

/-! ## Every position is one of an item -/

variable {r : Registry} {name goal : String}

theorem follows_findTheorem (coherent : r.theorems.Coherent Theorem.name) (name : String) :
    (findTheorem r name).Follows (r.findTheorem name) := by
  rw [findTheorem, Registry.findTheorem, Store.need, coherent.fetch_eq]
  cases r.theorems.get? name <;> rfl

theorem follows_findAxiom (coherent : r.axioms.Coherent Axiom.name) (name : String) :
    (findAxiom r name).Follows (r.findAxiom name) := by
  rw [findAxiom, Registry.findAxiom, Store.need, coherent.fetch_eq]
  cases r.axioms.get? name <;> rfl

theorem follows_findProof (coherent : r.proofs.Coherent Proof.goal) (goal : String) :
    (findProof r goal).Follows (r.findProof goal) := by
  rw [findProof, Registry.findProof, Store.need, coherent.fetch_eq]
  cases r.proofs.get? goal <;> rfl

theorem follows_completeProof (coherent : r.proofs.Coherent Proof.goal) (goal : String) :
    (completeProof r goal).Follows (r.completeProof goal) :=
  (follows_findProof coherent goal).bind fun _ _ =>
    .ite (fun _ => follows_ok _) fun _ => follows_fail _

theorem follows_changeTheorem (coherent : r.theorems.Coherent Theorem.name) (name : String)
    (change : Theorem → Theorem) :
    Follows (changeTheorem name change)
      (modify fun r => { r with theorems := r.theorems.modify name change }) r :=
  follows_get_bind (.lift_bind (coherent.alter_eq name change) (follows_set _))

theorem follows_changeProof (coherent : r.proofs.Coherent Proof.goal) (goal : String)
    (change : Proof → Proof) :
    Follows (changeProof goal change)
      (modify fun r => { r with proofs := r.proofs.modify goal change }) r :=
  follows_get_bind (.lift_bind (coherent.alter_eq goal change) (follows_set _))

theorem follows_changeAxiomAt {position : Nat} (inside : position < r.axioms.items.length)
    (change : Axiom → Axiom) :
    Follows (changeAxiomAt position change)
      (modify fun r => { r with axioms := r.axioms.modifyAt position change }) r :=
  follows_get_bind (.lift_bind (changeItem_of_lt inside change) (follows_set _))

theorem follows_verifyTheorem (coherent : r.theorems.Coherent Theorem.name) (name : String) :
    Follows (verifyTheorem name) (Registry.verifyTheorem name) r := by
  refine (follows_ask (follows_findTheorem coherent name)).bind fun t mid asked => ?_
  obtain ⟨-, rfl⟩ := Action.ask_ok.mp asked
  refine .ite (fun _ => follows_pure _) fun _ => .ite (fun _ => ?_) fun _ => follows_pure _
  exact (follows_changeTheorem coherent name _).bind fun _ _ _ => follows_pure _

theorem follows_openProof (coherent : r.proofs.Coherent Proof.goal) (goal : String) :
    Follows (openProof goal) (Registry.openProof goal) r := by
  refine follows_get_bind (.ite (fun absent => ?_) fun _ => ?_)
  · have free : r.proofs.contains goal = false := by simpa using absent
    refine (follows_modify _).bind fun _ mid made => follows_ask (follows_findProof ?_ goal)
    rw [Action.modify_ok.mp made]
    exact coherent.insert free
  · exact follows_ask (follows_findProof coherent goal)

theorem follows_addStep (sound : r.Sound) (goal : String) (step : Step) :
    Follows (addStep goal step) (Registry.addStep goal step) r := by
  refine (follows_ask (follows_findTheorem sound.theorems goal)).bind fun t mid asked => ?_
  obtain ⟨-, rfl⟩ := Action.ask_ok.mp asked
  refine (follows_openProof sound.proofs goal).bind fun proof mid opened => ?_
  refine (follows_changeProof (sound.openProof opened).2 goal _).bind fun _ _ _ => ?_
  exact follows_pure _

theorem follows_commit (sound : r.Sound) (goal : String) {steps justifications : List Formula}
    (paired : steps.length = justifications.length) (valid : Bool) (time : Nat) :
    Follows (commit goal steps justifications valid time)
      (Registry.commit goal steps justifications valid time) r := by
  refine (follows_ask (follows_findTheorem sound.theorems goal)).bind fun t mid asked => ?_
  obtain ⟨-, rfl⟩ := Action.ask_ok.mp asked
  refine (follows_openProof sound.proofs goal).bind fun proof mid opened => ?_
  have theorems : mid.theorems.Coherent Theorem.name := by
    rw [(Registry.openProof_frame opened).1]
    exact sound.theorems
  refine .lift_bind (if_pos paired) ?_
  refine (follows_changeProof (sound.openProof opened).2 goal _).bind fun _ after changed => ?_
  obtain rfl := Action.modify_ok.mp changed
  refine .ite (fun _ => ?_) fun _ => follows_modify _
  refine Follows.bind (follows_changeTheorem ?_ goal _) fun _ _ _ => follows_modify _
  exact theorems

theorem follows_verifyProof (sound : r.Sound) (limit : Option Nat) (time : Nat) (goal : String)
    {steps justifications : List Formula} (paired : steps.length = justifications.length) :
    Follows (verifyProof limit time goal steps justifications)
      (Registry.verifyProof limit time goal steps justifications) r := by
  refine (follows_ask (follows_findTheorem sound.theorems goal)).bind fun t mid asked => ?_
  obtain ⟨-, rfl⟩ := Action.ask_ok.mp asked
  refine .ite (fun _ => follows_throw _) fun _ => ?_
  refine (follows_lift (follows_ofExcept _)).bind fun valid mid checked => ?_
  obtain ⟨-, rfl⟩ := Action.lift_ok.mp checked
  exact (follows_commit sound goal paired valid time).bind fun _ _ _ => follows_pure _

theorem follows_validateAxiom (coherent : r.axioms.Coherent Axiom.name) (name : String) :
    Follows (validateAxiom name) (Registry.validateAxiom name) r := by
  refine (follows_ask (follows_ofExcept (r.locateAxiom name))).bind fun position mid asked => ?_
  obtain ⟨located, rfl⟩ := Action.ask_ok.mp asked
  have inside := coherent.lt_of_position? (Registry.locateAxiom_ok.mp located)
  refine follows_get_bind ?_
  exact (follows_changeAxiomAt inside _).bind fun _ _ _ => follows_pure _

def Inside (axioms : List Axiom) (pair : Nat × Nat) : Prop :=
  pair.1 < axioms.length ∧ pair.2 < axioms.length

theorem inside_of_mem_contradictions {pair : Nat × Nat} (mem : pair ∈ r.contradictions) :
    Inside r.axioms.items pair := by
  obtain ⟨-, a, b, first, second, -⟩ := Registry.mem_contradictions.mp mem
  exact ⟨(List.getElem?_eq_some_iff.mp first).1, (List.getElem?_eq_some_iff.mp second).1⟩

theorem accusePair_eq {axioms : List Axiom} {pair : Nat × Nat} (inside : Inside axioms pair) :
    accusePair axioms pair = .ok (Registry.accusePair axioms pair) := by
  unfold accusePair
  rw [changeItem_of_lt inside.1]
  refine changeItem_of_lt ?_ _
  rw [List.length_modify]
  exact inside.2

theorem foldlM_accusePair {pairs : List (Nat × Nat)} {axioms : List Axiom}
    (inside : ∀ pair ∈ pairs, Inside axioms pair) :
    pairs.foldlM accusePair axioms = .ok (pairs.foldl Registry.accusePair axioms) := by
  induction pairs generalizing axioms with
  | nil => rfl
  | cons pair pairs ih =>
      obtain ⟨first, rest⟩ := List.forall_mem_cons.mp inside
      rw [List.foldlM_cons, accusePair_eq first]
      refine ih fun pair mem => ?_
      unfold Inside Registry.accusePair
      rw [List.length_modify, List.length_modify]
      exact rest pair mem

theorem accuseAll_eq {axioms : List Axiom} {pairs : List (Nat × Nat)}
    (inside : ∀ pair ∈ pairs, Inside axioms pair) :
    accuseAll axioms pairs = .ok (Registry.accuseAll axioms pairs) := by
  refine foldlM_accusePair fun pair mem => ?_
  unfold Inside
  rw [List.length_map]
  exact inside pair mem

theorem mapM_namePair {axioms : List Axiom} {pairs : List (Nat × Nat)}
    (inside : ∀ pair ∈ pairs, Inside axioms pair) :
    pairs.mapM (namePair axioms) = .ok (Registry.namePairs axioms pairs) := by
  induction pairs with
  | nil => rfl
  | cons pair pairs ih =>
      obtain ⟨⟨first, second⟩, rest⟩ := List.forall_mem_cons.mp inside
      have named : namePair axioms pair = .ok (axioms[pair.1].name, axioms[pair.2].name) := by
        unfold namePair
        rw [item_of_getElem? (List.getElem?_eq_getElem first),
          item_of_getElem? (List.getElem?_eq_getElem second)]
        rfl
      rw [List.mapM_cons, named, ih rest]
      simp only [Registry.namePairs, List.filterMap_cons, List.getElem?_eq_getElem first,
        List.getElem?_eq_getElem second]
      rfl

theorem length_accuseAll (axioms : List Axiom) (pairs : List (Nat × Nat)) :
    (Registry.accuseAll axioms pairs).length = axioms.length := by
  have same := Registry.map_accuseAll (f := fun _ => ()) (fun _ _ => rfl) axioms pairs
  simpa using congrArg List.length same

theorem follows_checkConsistency : Follows checkConsistency Registry.checkConsistency r := by
  have inside : ∀ pair ∈ r.contradictions, Inside r.axioms.items pair :=
    fun _ => inside_of_mem_contradictions
  have marked : ∀ pair ∈ r.contradictions,
      Inside (Registry.accuseAll r.axioms.items r.contradictions) pair := by
    unfold Inside
    rw [length_accuseAll]
    exact inside
  refine follows_get_bind (.lift_bind (accuseAll_eq inside) ?_)
  refine (follows_set _).bind fun _ _ _ => ?_
  rw [mapM_namePair marked]
  exact follows_pure _

end Guarded

end Proofbook
