import Proofbook.Proofs.Registry.Operation

/-!
How long checks took is the only thing in a registry that differs from one run to the next. With all
times erased, an operation does the same whatever its reading of the clock, unless it is abandoned
for taking too long.
-/

namespace Proofbook

/-! ## Erasing times -/

def Proof.untimed (proof : Proof) : Proof := { proof with time := 0 }

def Theorem.untimed (t : Theorem) : Theorem := { t with proof := t.proof.map Proof.untimed }

def Statistics.untimed (s : Statistics) : Statistics := { s with time := 0 }

namespace Store

variable {α β : Type}

def map (f : α → β) (store : Store α) : Store β := ⟨store.items.map f, store.index⟩

@[simp]
theorem position?_map (f : α → β) (store : Store α) (name : String) :
    (store.map f).position? name = store.position? name := rfl

@[simp]
theorem get?_map (f : α → β) (store : Store α) (name : String) :
    (store.map f).get? name = (store.get? name).map f := by
  rw [get?, get?, position?_map]
  cases store.position? name with
  | none => rfl
  | some position => exact List.getElem?_map

@[simp]
theorem map_insert (f : α → β) (store : Store α) (name : String) (item : α) :
    (store.insert name item).map f = (store.map f).insert name (f item) := by
  simp [map, insert]

theorem map_modify (f : α → β) (store : Store α) (name : String) {change : α → α}
    {change' : β → β} (commutes : ∀ a, f (change a) = change' (f a)) :
    (store.modify name change).map f = (store.map f).modify name change' := by
  unfold modify
  rw [position?_map]
  cases store.position? name with
  | none => rfl
  | some position =>
      simp only [map, modifyAt, map_modify_items commutes]

end Store

def Registry.untimed (r : Registry) : Registry :=
  { r with
    theorems := r.theorems.map Theorem.untimed
    proofs := r.proofs.map Proof.untimed
    statistics := r.statistics.untimed }

def Error.isTimeout : Error → Bool
  | timeout .. => true
  | _ => false

namespace Action

variable {α β γ δ : Type} {erase : α → β} {erase' : γ → δ}

/--
On a registry without times the second action does what the first one does, unless the first one
is abandoned.
-/
def Forgets (erase : α → β) (x : Action α) (y : Action β) : Prop :=
  ∀ r, match x r with
    | .ok a r' => y r.untimed = .ok (erase a) r'.untimed
    | .error fault r' => fault.isTimeout = true ∨ y r.untimed = .error fault r'.untimed

theorem Forgets.bind {x : Action α} {y : Action β} {f : α → Action γ} {g : β → Action δ}
    (first : Forgets erase x y) (rest : ∀ a, Forgets erase' (f a) (g (erase a))) :
    Forgets erase' (x >>= f) (y >>= g) := by
  intro r
  have head := first r
  cases ran : x r with
  | ok a mid =>
      rw [ran] at head
      have left : (x >>= f) r = f a mid := by simp [Bind.bind, EStateM.bind, ran]
      have right : (y >>= g) r.untimed = g (erase a) mid.untimed := by
        simp [Bind.bind, EStateM.bind, head]
      rw [left, right]
      exact rest a mid
  | error fault mid =>
      rw [ran] at head
      have left : (x >>= f) r = .error fault mid := by simp [Bind.bind, EStateM.bind, ran]
      rw [left]
      refine head.imp id fun same => ?_
      simp [Bind.bind, EStateM.bind, same]

theorem forgets_pure (a : α) : Forgets erase (pure a) (pure (erase a)) := fun _ => rfl

theorem forgets_throw (fault : Error) : Forgets erase (throw fault) (throw fault) :=
  fun _ => .inr rfl

theorem forgets_get : Forgets Registry.untimed get get := fun _ => rfl

theorem forgets_get_bind {f : Registry → Action γ} {g : Registry → Action δ}
    (rest : ∀ r, Forgets erase' (f r) (g r.untimed)) : Forgets erase' (get >>= f) (get >>= g) :=
  forgets_get.bind rest

theorem forgets_set (r : Registry) :
    Forgets id (set r : Action PUnit) (set r.untimed) := fun _ => rfl

theorem forgets_modify {change change' : Registry → Registry}
    (commutes : ∀ r, (change r).untimed = change' r.untimed) :
    Forgets id (modify change : Action PUnit) (modify change') := by
  intro r
  change EStateM.Result.ok _ (change' r.untimed) = .ok _ (change r).untimed
  rw [commutes]

theorem forgets_lift (e : Except Error α) : Forgets erase (lift e) (lift (e.map erase)) := by
  cases e with
  | ok a => exact forgets_pure a
  | error fault => exact forgets_throw fault

theorem forgets_lift_same (e : Except Error α) : Forgets id (lift e) (lift e) := by
  cases e with
  | ok a => exact forgets_pure a
  | error fault => exact forgets_throw fault

theorem forgets_ask {look : Registry → Except Error α} {look' : Registry → Except Error β}
    (commutes : ∀ r, look' r.untimed = (look r).map erase) :
    Forgets erase (ask look) (ask look') :=
  forgets_get_bind fun r => by
    rw [commutes]
    exact forgets_lift (look r)

theorem forgets_ask_same {look : Registry → Except Error α}
    (timeless : ∀ r, look r.untimed = look r) : Forgets id (ask look) (ask look) :=
  forgets_get_bind fun r => by
    rw [timeless]
    exact forgets_lift_same (look r)

theorem Forgets.ite {condition condition' : Prop} [Decidable condition] [Decidable condition']
    {x x' : Action α} {y y' : Action β} (same : condition ↔ condition')
    (hx : Forgets erase x y) (hx' : Forgets erase x' y') :
    Forgets erase (if condition then x else x') (if condition' then y else y') := by
  by_cases holds : condition
  · rw [if_pos holds, if_pos (same.mp holds)]
    exact hx
  · rw [if_neg holds, if_neg (mt same.mpr holds)]
    exact hx'

end Action

/-! ## Looking up -/

namespace Registry

open Proofbook.Action

theorem findTheorem_untimed (r : Registry) (name : String) :
    r.untimed.findTheorem name = (r.findTheorem name).map Theorem.untimed := by
  unfold findTheorem untimed
  rw [Store.get?_map]
  cases r.theorems.get? name <;> rfl

theorem findProof_untimed (r : Registry) (goal : String) :
    r.untimed.findProof goal = (r.findProof goal).map Proof.untimed := by
  unfold findProof untimed
  rw [Store.get?_map]
  cases r.proofs.get? goal <;> rfl

theorem completeProof_untimed (r : Registry) (goal : String) :
    r.untimed.completeProof goal = (r.completeProof goal).map Proof.untimed := by
  unfold completeProof
  rw [findProof_untimed]
  cases r.findProof goal with
  | error fault => rfl
  | ok proof =>
      change (if proof.isComplete = true then _ else _) =
        Except.map Proof.untimed (if proof.isComplete = true then _ else _)
      split <;> rfl

theorem any_isValid_untimed (proof : Option Proof) :
    (proof.map Proof.untimed).any Proof.isValid = proof.any Proof.isValid := by
  cases proof <;> rfl

/-! ## Operations -/

theorem forgets_defineTheorem (t : Theorem) :
    Forgets id (defineTheorem t) (defineTheorem t.untimed) := by
  refine forgets_get_bind fun r => .ite Iff.rfl (forgets_throw _) ?_
  refine .ite Iff.rfl (forgets_throw _) (forgets_modify fun r => ?_)
  simp [untimed, Theorem.untimed]

theorem forgets_verifyTheorem (name : String) :
    Forgets id (verifyTheorem name) (verifyTheorem name) := by
  refine (forgets_ask fun r => findTheorem_untimed r name).bind fun t => ?_
  refine .ite Iff.rfl (forgets_pure false) ?_
  have same : (t.untimed.proof.any Proof.isValid || t.untimed.isEntailed) = true ↔
      (t.proof.any Proof.isValid || t.isEntailed) = true := by
    rw [Theorem.untimed, any_isValid_untimed]
    rfl
  refine .ite same.symm ((forgets_modify fun r => ?_).bind fun _ => forgets_pure true)
    (forgets_pure true)
  have marked : (r.theorems.modify name Theorem.markProven).map Theorem.untimed =
      (r.theorems.map Theorem.untimed).modify name Theorem.markProven :=
    Store.map_modify _ _ _ fun _ => rfl
  simp [untimed, marked]

theorem forgets_addAxiom (a : Axiom) : Forgets id (addAxiom a) (addAxiom a) :=
  forgets_get_bind fun _ =>
    .ite Iff.rfl (forgets_throw _) (.ite Iff.rfl (forgets_throw _) (forgets_modify fun _ => rfl))

theorem forgets_validateAxiom (name : String) :
    Forgets id (validateAxiom name) (validateAxiom name) := by
  refine Forgets.bind (forgets_ask_same fun _ => rfl) fun position => forgets_get_bind fun r => ?_
  exact Forgets.bind (forgets_modify fun _ => rfl) fun _ => forgets_pure _

theorem forgets_checkConsistency : Forgets id checkConsistency checkConsistency :=
  forgets_get_bind fun _ => (forgets_set _).bind fun _ => forgets_pure _

theorem forgets_openProof (goal : String) :
    Forgets Proof.untimed (openProof goal) (openProof goal) := by
  refine forgets_get_bind fun r => .ite Iff.rfl ((forgets_modify fun r => ?_).bind fun _ => ?_) ?_
  · simp [untimed, Proof.untimed, Proof.empty]
  · exact forgets_ask fun r => findProof_untimed r goal
  · exact forgets_ask fun r => findProof_untimed r goal

theorem forgets_addStep (goal : String) (step : Step) :
    Forgets id (addStep goal step) (addStep goal step) := by
  refine (forgets_ask fun r => findTheorem_untimed r goal).bind fun _ => ?_
  refine (forgets_openProof goal).bind fun proof => ?_
  refine Forgets.bind (forgets_modify fun r => ?_) fun _ => forgets_pure _
  have pushed : (r.proofs.modify goal (·.push step)).map Proof.untimed =
      (r.proofs.map Proof.untimed).modify goal (·.push step) :=
    Store.map_modify _ _ _ fun _ => rfl
  simp [untimed, pushed]

theorem forgets_commit (goal : String) (steps justifications : List Formula) (valid : Bool)
    (time : Nat) :
    Forgets id (commit goal steps justifications valid time)
      (commit goal steps justifications valid 0) := by
  refine (forgets_ask fun r => findTheorem_untimed r goal).bind fun _ => ?_
  refine (forgets_openProof goal).bind fun proof => ?_
  refine Forgets.bind (forgets_modify fun r => ?_) fun _ => ?_
  · have concluded : (r.proofs.modify goal fun _ =>
          proof.conclude steps justifications valid time).map Proof.untimed =
        (r.proofs.map Proof.untimed).modify goal fun _ =>
          proof.untimed.conclude steps justifications valid 0 :=
      Store.map_modify _ _ _ fun _ => rfl
    simp [untimed, concluded]
  · have counted : Forgets id
        (modify fun r : Registry =>
          { r with statistics := r.statistics.addVerification steps.length valid time })
        (modify fun r : Registry =>
          { r with statistics := r.statistics.addVerification steps.length valid 0 }) :=
      forgets_modify fun r => rfl
    refine .ite Iff.rfl (Forgets.bind (forgets_modify fun r => ?_) fun _ => counted) counted
    have proved : (r.theorems.modify goal
          (·.prove (proof.conclude steps justifications valid time))).map Theorem.untimed =
        (r.theorems.map Theorem.untimed).modify goal
          (·.prove (proof.untimed.conclude steps justifications valid 0)) :=
      Store.map_modify _ _ _ fun _ => rfl
    simp [untimed, proved]

theorem forgets_checkWithin (limit : Option Nat) (time : Nat) (goal : String)
    (steps : List Formula) :
    Forgets id (lift (checkWithin limit time goal steps))
      (lift (checkWithin none 0 goal steps)) := by
  intro r
  cases limit with
  | none => rfl
  | some limit =>
      unfold checkWithin
      by_cases late : limit < time
      · simp only [late, if_true]
        exact .inl rfl
      · simp only [late, if_false]
        rfl

theorem forgets_verifyProof (limit : Option Nat) (time : Nat) (goal : String)
    (steps justifications : List Formula) :
    Forgets id (verifyProof limit time goal steps justifications)
      (verifyProof none 0 goal steps justifications) := by
  refine (forgets_ask fun r => findTheorem_untimed r goal).bind fun _ => ?_
  refine .ite Iff.rfl (forgets_throw _) ((forgets_checkWithin limit time goal steps).bind ?_)
  exact fun valid => (forgets_commit goal steps justifications valid time).bind fun _ =>
    forgets_pure valid

theorem forgets_countDerivation (derived : Option Formula) :
    Forgets id (countDerivation derived) (countDerivation derived) :=
  .ite Iff.rfl (forgets_modify fun _ => rfl) (forgets_pure ())

theorem forgets_reset (confirmed : Bool) : Forgets id (reset confirmed) (reset confirmed) :=
  .ite Iff.rfl (forgets_modify fun _ => rfl) (forgets_throw _)

end Registry

end Proofbook
