import Proofbook.Proofs.Registry.Formulas
import Proofbook.Proofs.Session.Since
import Proofbook.Proofs.Session.Working
import Proofbook.Proofs.Text.FirstAppearance

namespace Proofbook

open Registry

/-! ## Names -/

namespace Request

def definedName? : Request → Option String
  | defineTheorem name .. => some name
  | _ => none

def addedName? : Request → Option String
  | addAxiom name _ => some name
  | _ => none

def workedName? : Request → Option String
  | addStep goal _ | verifyProof goal _ => some goal
  | _ => none

end Request

namespace Turn

def names (name? : Request → Option String) (turns : List Turn) : List String :=
  turns.filterMap fun turn => turn.success?.bind fun success => name? success.1

variable {name? : Request → Option String} {turns : List Turn} {turn : Turn}

theorem names_snoc_of_failed (failed : turn.success? = none) :
    names name? (turns ++ [turn]) = names name? turns := by
  simp [names, failed]

theorem names_snoc_of_success {request : Request} {answer : Answer}
    (success : turn.success? = some (request, answer)) :
    names name? (turns ++ [turn]) = names name? turns ++ (name? request).toList := by
  cases named : name? request <;> simp [names, success, named]

end Turn

/-! ## One request -/

section

variable {time : Nat} {r r' mid : Registry} {request : Request} {answer : Answer}

theorem append_unnamed {before after : List String} {name? : Option String}
    (unnamed : name? = none) (same : after = before) : after = before ++ name?.toList := by
  rw [unnamed, same]
  exact (List.append_nil _).symm

theorem Effect.theoremNames (effect : Effect time r r' request answer)
    (noReset : ∀ confirmed, request ≠ .reset confirmed) :
    r'.theorems.items.map Theorem.name =
      r.theorems.items.map Theorem.name ++ request.definedName?.toList := by
  cases effect with
  | quiet quiet theorems =>
      have other : request.definedName? = none := by cases request <;> first | rfl | cases quiet
      exact append_unnamed other (by rw [theorems])
  | defined free wellFormed theorems =>
      rw [theorems]
      exact List.map_append
  | verified found theorems =>
      apply append_unnamed rfl
      rw [theorems]
      apply Store.map_items_ite_modify
      exact fun _ => rfl
  | extended opened theorems => exact append_unnamed rfl (by rw [theorems])
  | checked opened verdict outcome theorems =>
      apply append_unnamed rfl
      rw [theorems]
      apply Store.map_items_ite_modify
      exact fun _ => rfl
  | reset => exact absurd rfl (noReset _)

theorem Registry.Amends.axiomNames (amends : Amends r r' request)
    (noReset : ∀ confirmed, request ≠ .reset confirmed) :
    r'.axioms.items.map Axiom.name =
      r.axioms.items.map Axiom.name ++ request.addedName?.toList := by
  cases amends with
  | kept other axioms flag =>
      have unnamed : request.addedName? = none := by cases request <;> first | rfl | cases other
      exact append_unnamed unnamed (by rw [axioms])
  | added free wellFormed axioms =>
      rw [axioms]
      exact List.map_append
  | judged found axioms =>
      apply append_unnamed rfl
      rw [axioms]
      apply Store.map_modify_unseen
      exact fun _ => rfl
  | scanned axioms =>
      apply append_unnamed rfl
      rw [axioms]
      exact map_accuseAll (fun _ _ => rfl) _ _
  | reset => exact absurd rfl (noReset _)

theorem names_openProof {goal : String} {proof : Proof} {names : List String} (sound : r.Sound)
    (opened : openProof goal r = .ok proof mid)
    (ordered : r.proofs.items.map Proof.goal = names.eraseDups) :
    mid.proofs.items.map Proof.goal = (names ++ [goal]).eraseDups := by
  -- A proof that is there already was opened by an earlier turn, so its name is listed before.
  have known : r.proofs.contains goal = true ↔ goal ∈ names := by
    rw [sound.proofs.contains_iff, ordered, List.mem_eraseDups]
  rw [eraseDups_snoc]
  rcases openProof_ok.mp opened with ⟨present, -, rfl⟩ | ⟨free, rfl, rfl⟩
  · rw [if_pos (known.mp present), ordered]
  · have unknown : goal ∉ names := fun mem => by
      rw [known.mpr mem] at free
      cases free
    rw [if_neg unknown, ← ordered]
    exact List.map_append

theorem Effect.proofNames (effect : Effect time r r' request answer) (sound : r.Sound)
    (noReset : ∀ confirmed, request ≠ .reset confirmed) {names : List String}
    (ordered : r.proofs.items.map Proof.goal = names.eraseDups) :
    r'.proofs.items.map Proof.goal = (names ++ request.workedName?.toList).eraseDups := by
  have idle (other : request.workedName? = none) (proofs : r'.proofs = r.proofs) :
      r'.proofs.items.map Proof.goal = (names ++ request.workedName?.toList).eraseDups := by
    rw [← append_unnamed other rfl, proofs, ordered]
  cases effect with
  | quiet quiet theorems proofs =>
      have other : request.workedName? = none := by cases request <;> first | rfl | cases quiet
      exact idle other proofs
  | defined free wellFormed theorems proofs => exact idle rfl proofs
  | verified found theorems proofs => exact idle rfl proofs
  | @extended goal step proof mid opened theorems proofs =>
      have kept : (mid.proofs.modify goal (·.push step)).items.map Proof.goal =
          mid.proofs.items.map Proof.goal :=
        (sound.openProof opened).2.keys_modify fun _ named => named
      rw [proofs, kept]
      exact names_openProof sound opened ordered
  | @checked goal steps proof concluded mid valid opened verdict outcome theorems proofs =>
      obtain ⟨named, coherent⟩ := sound.openProof opened
      have kept : (mid.proofs.modify goal fun _ => concluded).items.map Proof.goal =
          mid.proofs.items.map Proof.goal :=
        coherent.keys_modify fun _ _ => by
          rw [outcome]
          exact named
      rw [proofs, kept]
      exact names_openProof sound opened ordered
  | reset => exact absurd rfl (noReset _)

end

/-! ## Runs -/

theorem Theorem.Sound.stated {t : Theorem} (sound : t.Sound) :
    ∀ f ∈ t.stated, f.wellFormed = true := by
  have all := sound.wellFormed
  simp only [Theorem.isWellFormed, Bool.and_eq_true, List.all_eq_true, Option.all_eq_true] at all
  simp only [Theorem.stated, List.forall_mem_append, List.forall_mem_cons, Option.mem_toList]
  exact ⟨all.1, all.2⟩

structure Registry.Ordered (since : List Turn) (r : Registry) : Prop where
  theorems : r.theorems.items.map Theorem.name = Turn.names Request.definedName? since
  axioms : r.axioms.items.map Axiom.name =
    Axiom.seeds.map Axiom.name ++ Turn.names Request.addedName? since
  proofs : r.proofs.items.map Proof.goal = (Turn.names Request.workedName? since).eraseDups

namespace Registry

variable {since : List Turn} {turn : Turn} {r r' : Registry}

theorem ordered_fresh : fresh.Ordered [] := ⟨rfl, rfl, rfl⟩

theorem Ordered.failed {fault : Error} (ordered : r.Ordered since)
    (failed : turn.outcome = .error fault) : r.Ordered (since ++ [turn]) := by
  have nothing := Turn.success?_eq_none_of_error failed
  refine ⟨?_, ?_, ?_⟩ <;> rw [Turn.names_snoc_of_failed nothing]
  · exact ordered.theorems
  · exact ordered.axioms
  · exact ordered.proofs

theorem Ordered.succeeded {config : Config} {request : Request} {answer : Answer}
    (ordered : r.Ordered since) (sound : r.Sound)
    (success : turn.success? = some (request, answer))
    (noReset : ∀ confirmed, request ≠ .reset confirmed)
    (ran : Registry.perform config turn.time request r = .ok answer r') :
    r'.Ordered (since ++ [turn]) := by
  have effect := perform_effect ran
  have amends := amends_of_performs (performs_of_ok ran)
  refine ⟨?_, ?_, ?_⟩ <;> rw [Turn.names_snoc_of_success success]
  · rw [effect.theoremNames noReset, ordered.theorems]
  · rw [amends.axiomNames noReset, ordered.axioms, List.append_assoc]
  · exact effect.proofNames sound noReset ordered.proofs

end Registry

/-- The store has one item for each of the names, in their order, and its index tells where. -/
structure Store.Represents {α : Type} (key : α → String) (names : List String)
    (store : Store α) : Prop where
  distinct : (store.items.map key).Nodup
  indexed : ∀ name position, store.position? name = some position ↔
    ∃ item, store.items[position]? = some item ∧ key item = name
  ordered : store.items.map key = names

theorem Store.Coherent.represents {α : Type} {key : α → String} {store : Store α}
    {names : List String} (coherent : store.Coherent key)
    (ordered : store.items.map key = names) : store.Represents key names where
  distinct := coherent.nodup
  indexed name position := by rw [coherent, List.getElem?_map, Option.map_eq_some_iff]
  ordered := ordered

namespace Session

variable {s : Session} {r : Registry} (time : Nat)

theorem perform_theoremGet (present : s.registry = some r) (name : String) :
    (s.perform time ⟨"theorem_get", [.string name]⟩).2 =
      .ok (.foundTheorem (r.theorems.get? name)) := by
  have known : Operation.ofName? "theorem_get" = some .theoremGet := rfl
  have read : Request.read .theoremGet [.string name] = .ok (.getTheorem name) := rfl
  rw [perform_of_read known read, withRegistry, present]
  rfl

theorem perform_theoremList (present : s.registry = some r) :
    (s.perform time ⟨"theorem_list", []⟩).2 = .ok (.theoremList r.theorems.items) := by
  have known : Operation.ofName? "theorem_list" = some .theoremList := rfl
  have read : Request.read .theoremList [] = .ok .listTheorems := rfl
  rw [perform_of_read known read, withRegistry, present]
  rfl

end Session

theorem outcomeJson_foundTheorem {found : Option Theorem} :
    outcomeJson (.ok (.foundTheorem found)) = .null ↔ found = none := by
  cases found with
  | none => exact ⟨fun _ => rfl, fun _ => rfl⟩
  | some t => exact ⟨nofun, nofun⟩

/--
Each store lists the names that the turns since the last reset have put in, and its index tells
where they are.
-/
theorem registry_represents (config : Config) (calls : List (Nat × Invocation)) :
    let s := ((Session.init { config }).run calls).1
    let since := Turn.sinceReset ((Session.init { config }).history calls)
    ∃ r, s.registry = some r ∧
      r.theorems.Represents Theorem.name (Turn.names Request.definedName? since) ∧
      r.axioms.Represents Axiom.name
        (Axiom.seeds.map Axiom.name ++ Turn.names Request.addedName? since) ∧
      r.proofs.Represents Proof.goal (Turn.names Request.workedName? since).eraseDups ∧
      (∀ name proof, r.proofs.get? name = some proof →
        proof.goal = name ∧ ∃ t, r.theorems.get? name = some t) ∧
      (∀ f ∈ r.stated, f.wellFormed = true) ∧
      ∀ time name,
        let found := r.theorems.get? name
        (s.perform time ⟨"theorem_get", [.string name]⟩).2 = .ok (.foundTheorem found) ∧
        (s.perform time ⟨"theorem_list", []⟩).2 = .ok (.theoremList r.theorems.items) ∧
        r.theorems.items.filter (·.name == name) = found.toList ∧
        (outcomeJson (s.perform time ⟨"theorem_get", [.string name]⟩).2 = .null ↔
          name ∉ r.theorems.items.map Theorem.name) := by
  intro s since
  have start : Registry.fresh.Sound ∧ Registry.fresh.Owned ∧ Registry.fresh.AxiomsSound ∧
      Registry.fresh.Ordered [] :=
    ⟨sound_fresh, owned_fresh, axiomsSound_fresh, ordered_fresh⟩
  obtain ⟨r, present, -, sound, owned, axioms, ordered⟩ := Session.since_run config
    (fun since r => r.Sound ∧ r.Owned ∧ r.AxiomsSound ∧ r.Ordered since) start
    (fun failed ⟨sound, owned, axioms, ordered⟩ => ⟨sound, owned, axioms, ordered.failed failed⟩)
    (fun success noReset ran ⟨sound, owned, axioms, ordered⟩ =>
      ⟨(perform_effect ran).sound sound, owned.perform ran,
        axioms.amends (amends_of_performs (performs_of_ok ran)),
        ordered.succeeded sound success noReset ran⟩) calls
  refine ⟨r, present, sound.theorems.represents ordered.theorems,
    axioms.coherent.represents ordered.axioms, sound.proofs.represents ordered.proofs, ?_, ?_, ?_⟩
  · intro name proof found
    refine ⟨(sound.proofs.get?_eq_some_iff.mp found).2, ?_⟩
    exact sound.theorems.get?_of_contains (owned name (Store.contains_of_get? found))
  · intro f mem
    rcases List.mem_append.mp mem with stated | stated
    · obtain ⟨t, known, stated⟩ := List.mem_flatMap.mp stated
      exact (sound.each t known).stated f stated
    · obtain ⟨a, known, rfl⟩ := List.mem_map.mp stated
      exact axioms.wellFormed a known
  · intro time name
    have looked := Session.perform_theoremGet time present name
    refine ⟨looked, Session.perform_theoremList time present,
      sound.theorems.filter_eq_get? name, ?_⟩
    rw [looked, outcomeJson_foundTheorem, sound.theorems.get?_eq_none_iff,
      ← sound.theorems.contains_iff, Bool.not_eq_true]

end Proofbook
