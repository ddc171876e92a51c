import Proofbook.Proofs.Registry.Consistency
import Proofbook.Proofs.Registry.Effect

namespace Proofbook

open Registry Proofbook.Action

inductive Compartment where
  | ofTheorem (name : String)
  | axioms
  | calculation
deriving DecidableEq

/-- Lists and summaries of a whole registry are in no compartment, and a reset is in every one. -/
def Request.compartment? : Request → Option Compartment
  | defineTheorem name .. | getTheorem name | verifyTheorem name | addStep name _
  | verifyProof name _ | describeProof name | exportProof name _ => some (.ofTheorem name)
  | addAxiom .. | listAxioms | validateAxiom _ | checkConsistency => some .axioms
  | entails .. | equivalent .. | derive .. | substitute .. | tabulate _ | checkUndecidable _ =>
    some .calculation
  | listTheorems | summarize | reset _ => none

namespace Compartment

def View : Compartment → Type
  | ofTheorem _ => (Bool × Option Theorem) × (Bool × Option Proof)
  | axioms => Store Axiom
  | calculation => Unit

def view : (c : Compartment) → Registry → c.View
  | ofTheorem name, r => (r.theorems.entry name, r.proofs.entry name)
  | axioms, r => r.axioms
  | calculation, _ => ()

end Compartment

/-! ## Actions that keep to a view -/

namespace Action

variable {V α β : Type} {view : Registry → V} {x y : Action α} {f : α → Action β}
  {r r' : Registry}

def seen (view : Registry → V) : EStateM.Result Error Registry α → EStateM.Result Error V α
  | .ok a r => .ok a (view r)
  | .error fault r => .error fault (view r)

/-- What is seen of the outcome depends on nothing but what is seen before. -/
def Confined (view : Registry → V) (x : Action α) : Prop :=
  ∀ r r', view r = view r' → seen view (x r) = seen view (x r')

theorem confined_pure (a : α) : Confined view (pure a) :=
  fun _ _ same => congrArg (EStateM.Result.ok a) same

theorem confined_throw (fault : Error) : Confined view (throw fault : Action α) :=
  fun _ _ same => congrArg (EStateM.Result.error fault) same

theorem confined_lift (e : Except Error α) : Confined view (lift e) := by
  cases e with
  | ok a => exact confined_pure a
  | error fault => exact confined_throw fault

theorem confined_modify {change : Registry → Registry}
    (keeps : ∀ r r', view r = view r' → view (change r) = view (change r')) :
    Confined view (modify change : Action PUnit) :=
  fun r r' same => congrArg (EStateM.Result.ok PUnit.unit) (keeps r r' same)

theorem seen_eq_ok {result : EStateM.Result Error Registry α} {a : α} {v : V} :
    seen view result = .ok a v ↔ ∃ after, result = .ok a after ∧ view after = v := by
  cases result <;> simp [seen]

theorem seen_eq_error {result : EStateM.Result Error Registry α} {fault : Error} {v : V} :
    seen view result = .error fault v ↔ ∃ after, result = .error fault after ∧ view after = v := by
  cases result <;> simp [seen]

theorem Confined.ok (confined : Confined view x) (same : view r = view r') {a : α}
    {after : Registry} (ran : x r = .ok a after) :
    ∃ after', x r' = .ok a after' ∧ view after' = view after := by
  have outcome := confined r r' same
  rw [ran] at outcome
  exact seen_eq_ok.mp outcome.symm

theorem Confined.error (confined : Confined view x) (same : view r = view r') {fault : Error}
    {after : Registry} (failed : x r = .error fault after) :
    ∃ after', x r' = .error fault after' ∧ view after' = view after := by
  have outcome := confined r r' same
  rw [failed] at outcome
  exact seen_eq_error.mp outcome.symm

theorem Confined.bind (first : Confined view x) (rest : ∀ a, Confined view (f a)) :
    Confined view (x >>= f) := by
  intro r r' same
  cases ran : x r with
  | ok a mid =>
      obtain ⟨mid', ran', left⟩ := first.ok same ran
      have tail := rest a mid mid' left.symm
      simpa [Bind.bind, EStateM.bind, ran, ran'] using tail
  | error fault mid =>
      obtain ⟨mid', ran', left⟩ := first.error same ran
      simp [Bind.bind, EStateM.bind, ran, ran', seen, left]

theorem confined_get_bind {f : Registry → Action β}
    (look : ∀ r r', view r = view r' → f r = f r') (rest : ∀ r, Confined view (f r)) :
    Confined view (get >>= f) := by
  intro r r' same
  change seen view (f r r) = seen view (f r' r')
  rw [← look r r' same]
  exact rest r r r' same

theorem confined_ask {look : Registry → Except Error α}
    (same : ∀ r r', view r = view r' → look r = look r') : Confined view (ask look) :=
  confined_get_bind (fun r r' seen => congrArg lift (same r r' seen)) fun r =>
    confined_lift (look r)

theorem Confined.ite {condition : Prop} [Decidable condition] (hx : Confined view x)
    (hy : Confined view y) : Confined view (if condition then x else y) := by
  split
  · exact hx
  · exact hy

end Action

/-! ## What each operation keeps to -/

namespace Registry

variable {name goal : String} {r r' : Registry}

theorem view_ofTheorem_eq_iff :
    (Compartment.ofTheorem name).view r = (Compartment.ofTheorem name).view r' ↔
      r.theorems.entry name = r'.theorems.entry name ∧
        r.proofs.entry name = r'.proofs.entry name := Prod.ext_iff

section OneTheorem

variable (same : (Compartment.ofTheorem name).view r = (Compartment.ofTheorem name).view r')

include same

theorem contains_of_view : r.theorems.contains name = r'.theorems.contains name :=
  congrArg Prod.fst (view_ofTheorem_eq_iff.mp same).1

theorem get?_of_view : r.theorems.get? name = r'.theorems.get? name :=
  congrArg Prod.snd (view_ofTheorem_eq_iff.mp same).1

theorem proofs_contains_of_view : r.proofs.contains name = r'.proofs.contains name :=
  congrArg Prod.fst (view_ofTheorem_eq_iff.mp same).2

theorem findTheorem_of_view : r.findTheorem name = r'.findTheorem name := by
  rw [findTheorem, findTheorem, get?_of_view same]

theorem findProof_of_view : r.findProof name = r'.findProof name := by
  have found : r.proofs.get? name = r'.proofs.get? name :=
    congrArg Prod.snd (view_ofTheorem_eq_iff.mp same).2
  rw [findProof, findProof, found]

theorem completeProof_of_view : r.completeProof name = r'.completeProof name := by
  rw [completeProof, completeProof, findProof_of_view same]

end OneTheorem

theorem confined_changeTheorem (name : String) (change : Theorem → Theorem) :
    Confined (Compartment.ofTheorem name).view
      (modify fun r : Registry => { r with theorems := r.theorems.modify name change }) := by
  apply confined_modify
  intro r r' same
  obtain ⟨theorems, proofs⟩ := view_ofTheorem_eq_iff.mp same
  refine view_ofTheorem_eq_iff.mpr ⟨?_, proofs⟩
  rw [Store.entry_modify_self, Store.entry_modify_self, theorems]

theorem confined_changeProof (goal : String) (change : Proof → Proof) :
    Confined (Compartment.ofTheorem goal).view
      (modify fun r : Registry => { r with proofs := r.proofs.modify goal change }) := by
  apply confined_modify
  intro r r' same
  obtain ⟨theorems, proofs⟩ := view_ofTheorem_eq_iff.mp same
  refine view_ofTheorem_eq_iff.mpr ⟨theorems, ?_⟩
  rw [Store.entry_modify_self, Store.entry_modify_self, proofs]

theorem confined_defineTheorem (t : Theorem) :
    Confined (Compartment.ofTheorem t.name).view (defineTheorem t) := by
  refine confined_get_bind ?_ fun r => .ite (confined_throw _) (.ite (confined_throw _) ?_)
  · intro r r' same
    simp only [contains_of_view same]
  · apply confined_modify
    intro r r' same
    refine view_ofTheorem_eq_iff.mpr ⟨?_, (view_ofTheorem_eq_iff.mp same).2⟩
    rw [Store.entry_insert_self, Store.entry_insert_self]

theorem confined_verifyTheorem (name : String) :
    Confined (Compartment.ofTheorem name).view (verifyTheorem name) := by
  refine (confined_ask fun r r' same => findTheorem_of_view same).bind fun t => ?_
  refine .ite (confined_pure _) (.ite ?_ (confined_pure _))
  exact (confined_changeTheorem name _).bind fun _ => confined_pure _

theorem confined_openProof (goal : String) :
    Confined (Compartment.ofTheorem goal).view (openProof goal) := by
  have found : Confined (Compartment.ofTheorem goal).view (ask (·.findProof goal)) :=
    confined_ask fun r r' same => findProof_of_view same
  refine confined_get_bind ?_ fun r => .ite (Confined.bind ?_ fun _ => found) found
  · intro r r' same
    simp only [proofs_contains_of_view same]
  · apply confined_modify
    intro r r' same
    refine view_ofTheorem_eq_iff.mpr ⟨(view_ofTheorem_eq_iff.mp same).1, ?_⟩
    rw [Store.entry_insert_self, Store.entry_insert_self]

theorem confined_addStep (goal : String) (step : Step) :
    Confined (Compartment.ofTheorem goal).view (addStep goal step) := by
  refine (confined_ask fun r r' same => findTheorem_of_view same).bind fun _ => ?_
  refine (confined_openProof goal).bind fun proof => ?_
  exact (confined_changeProof goal _).bind fun _ => confined_pure _

theorem confined_commit (goal : String) (steps justifications : List Formula) (valid : Bool)
    (time : Nat) :
    Confined (Compartment.ofTheorem goal).view (commit goal steps justifications valid time) := by
  have counted : Confined (Compartment.ofTheorem goal).view (modify fun r : Registry =>
      { r with statistics := r.statistics.addVerification steps.length valid time }) :=
    confined_modify fun r r' same => same
  refine (confined_ask fun r r' same => findTheorem_of_view same).bind fun _ => ?_
  refine (confined_openProof goal).bind fun proof => ?_
  refine (confined_changeProof goal _).bind fun _ => ?_
  exact .ite ((confined_changeTheorem goal _).bind fun _ => counted) counted

theorem confined_verifyProof (limit : Option Nat) (time : Nat) (goal : String)
    (steps justifications : List Formula) :
    Confined (Compartment.ofTheorem goal).view
      (verifyProof limit time goal steps justifications) := by
  refine (confined_ask fun r r' same => findTheorem_of_view same).bind fun _ => ?_
  refine .ite (confined_throw _) ((confined_lift _).bind fun valid => ?_)
  exact (confined_commit goal steps justifications valid time).bind fun _ => confined_pure valid

theorem confined_addAxiom (a : Axiom) : Confined Compartment.axioms.view (addAxiom a) := by
  refine confined_get_bind ?_ fun r => .ite (confined_throw _) (.ite (confined_throw _) ?_)
  · intro r r' (same : r.axioms = r'.axioms)
    simp only [same]
  · exact confined_modify fun r r' same => congrArg (·.insert a.name a.absolve) same

theorem confined_validateAxiom (name : String) :
    Confined Compartment.axioms.view (validateAxiom name) := by
  refine (confined_ask ?_).bind fun position => confined_get_bind ?_ fun r => ?_
  · intro r r' (same : r.axioms = r'.axioms)
    rw [locateAxiom, locateAxiom, same]
  · intro r r' (same : r.axioms = r'.axioms)
    simp only [contradictions, same]
  · refine Confined.bind (confined_modify ?_) fun _ => confined_pure _
    intro s s' (same : s.axioms = s'.axioms)
    change s.axioms.modifyAt position _ = s'.axioms.modifyAt position _
    rw [same]

theorem confined_checkConsistency : Confined Compartment.axioms.view checkConsistency := by
  -- What is written back contains the rest of the registry, so the rule for looks does not apply.
  intro r r' (same : r.axioms = r'.axioms)
  have found : r.contradictions = r'.contradictions := by rw [contradictions, contradictions, same]
  change EStateM.Result.ok (namePairs _ _) (Store.mk _ _) = EStateM.Result.ok (namePairs _ _) _
  rw [found, same]
  rfl

theorem confined_reset (c : Compartment) (confirmed : Bool) : Confined c.view (reset confirmed) :=
  -- A confirmed reset leaves the same registry behind, whatever was there before.
  .ite (confined_modify fun _ _ _ => rfl) (confined_throw _)

/-! ## Requests -/

variable {config : Config} {time : Nat} {request : Request} {answer : Answer} {c : Compartment}

theorem confined_perform (within : request.compartment? = some c) :
    Confined c.view (perform config time request) := by
  cases request with
  | defineTheorem name statement hypotheses goal =>
      cases within
      refine (confined_defineTheorem { name, statement, hypotheses, conclusion := goal }).bind
        fun _ => ?_
      exact (confined_ask fun r r' same => findTheorem_of_view same).bind fun _ => confined_pure _
  | getTheorem name =>
      cases within
      refine confined_get_bind ?_ fun _ => confined_pure _
      intro r r' same
      rw [get?_of_view same]
  | verifyTheorem name =>
      cases within
      exact (confined_verifyTheorem name).bind fun _ => confined_pure _
  | addStep goal step =>
      cases within
      exact (confined_addStep goal step).bind fun _ => confined_pure _
  | verifyProof goal steps =>
      cases within
      exact (confined_verifyProof _ _ goal _ _).bind fun _ => confined_pure _
  | describeProof goal =>
      cases within
      exact (confined_ask fun r r' same => findProof_of_view same).bind fun _ => confined_pure _
  | exportProof goal format =>
      cases within
      refine (confined_ask fun r r' same => completeProof_of_view same).bind fun proof => ?_
      exact (confined_lift _).bind fun _ => confined_pure _
  | addAxiom name statement =>
      cases within
      refine (confined_addAxiom _).bind fun _ => ?_
      refine (confined_ask ?_).bind fun _ => confined_pure _
      intro r r' (same : r.axioms = r'.axioms)
      rw [findAxiom, findAxiom, same]
  | listAxioms =>
      cases within
      refine confined_get_bind ?_ fun _ => confined_pure _
      intro r r' (same : r.axioms = r'.axioms)
      rw [same]
  | validateAxiom name =>
      cases within
      exact (confined_validateAxiom name).bind fun _ => confined_pure _
  | checkConsistency =>
      cases within
      exact confined_checkConsistency.bind fun _ => confined_pure _
  | derive rule first second =>
      cases within
      refine Confined.bind ?_ fun _ => confined_pure _
      exact .ite (confined_modify fun _ _ _ => rfl) (confined_pure _)
  | tabulate formula =>
      cases within
      exact (confined_lift _).bind fun _ => confined_pure _
  | entails | equivalent | substitute | checkUndecidable => exact confined_pure _
  | listTheorems | summarize | reset => cases within

theorem entry_of_openProof {proof : Proof} (sound : r.Sound) (ne : name ≠ goal)
    (opened : openProof goal r = .ok proof r') : r'.proofs.entry name = r.proofs.entry name := by
  rcases openProof_ok.mp opened with ⟨-, -, rfl⟩ | ⟨-, -, rfl⟩
  · rfl
  · exact sound.proofs.entry_insert_of_ne ne

theorem entries_of_foreign (sound : r.Sound) (effect : Effect time r r' request answer)
    (foreign : request.compartment? ≠ some (.ofTheorem name))
    (noReset : ∀ confirmed, request ≠ .reset confirmed) :
    r'.theorems.entry name = r.theorems.entry name ∧
      r'.proofs.entry name = r.proofs.entry name := by
  cases effect with
  | quiet _ theorems proofs => rw [theorems, proofs]; exact ⟨rfl, rfl⟩
  | @defined other statement hypotheses goal answer free wellFormed theorems proofs =>
      have ne : name ≠ other := fun same => foreign (by rw [same]; rfl)
      rw [theorems, proofs]
      exact ⟨sound.theorems.entry_insert_of_ne ne, rfl⟩
  | @verified other t found theorems proofs =>
      have ne : name ≠ other := fun same => foreign (by rw [same]; rfl)
      rw [theorems, proofs]
      refine ⟨?_, rfl⟩
      split
      · exact sound.theorems.entry_modify_of_ne ne
      · rfl
  | @extended goal step proof mid opened theorems proofs =>
      have ne : name ≠ goal := fun same => foreign (by rw [same]; rfl)
      rw [theorems, proofs, (sound.openProof opened).2.entry_modify_of_ne ne]
      exact ⟨rfl, entry_of_openProof sound ne opened⟩
  | @checked goal steps proof concluded mid valid opened verdict outcome theorems proofs =>
      have ne : name ≠ goal := fun same => foreign (by rw [same]; rfl)
      rw [theorems, proofs, (sound.openProof opened).2.entry_modify_of_ne ne]
      refine ⟨?_, entry_of_openProof sound ne opened⟩
      split
      · exact sound.theorems.entry_modify_of_ne ne
      · rfl
  | reset => exact absurd rfl (noReset _)

theorem view_of_foreign (sound : r.Sound)
    (performed : perform config time request r = .ok answer r')
    (foreign : request.compartment? ≠ some c)
    (noReset : ∀ confirmed, request ≠ .reset confirmed) : c.view r' = c.view r := by
  cases c with
  | ofTheorem name =>
      have effect := perform_effect performed
      exact view_ofTheorem_eq_iff.mpr (entries_of_foreign sound effect foreign noReset)
  | axioms =>
      cases amends_of_performs (performs_of_ok performed) with
      | kept _ axioms => exact axioms
      | added | judged | scanned => exact absurd rfl foreign
      | reset => exact absurd rfl (noReset _)
  | calculation => rfl

end Registry

end Proofbook
