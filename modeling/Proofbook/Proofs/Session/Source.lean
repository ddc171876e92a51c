import Proofbook.Proofs.Json.Part
import Proofbook.Proofs.Registry.Formulas
import Proofbook.Proofs.Session.Reading

namespace Proofbook.Request

open Formula

def ReadFrom (args : List Json) (f : Formula) : Prop :=
  ∃ arg ∈ args, ∃ value, Json.Part value arg ∧ decode value = .ok f

variable {args : List Json} {call : Operation} {request : Request} {position : Nat} {f : Formula}
  {value : Json}

theorem decode_part_null (inside : Json.Part value .null) (decoded : decode value = .ok f) :
    False := by
  rcases Json.part_iff.mp inside with rfl | ⟨child, mem, -⟩
  · cases decoded
  · cases mem

/-- An argument that is missing reads as `null`, which is no formula. -/
theorem readFrom_part (inside : Json.Part value (argument args position))
    (decoded : decode value = .ok f) : ReadFrom args f := by
  unfold argument at inside
  rw [List.getD_eq_getElem?_getD] at inside
  cases there : args[position]? with
  | none =>
      rw [there] at inside
      exact (decode_part_null inside decoded).elim
  | some arg =>
      rw [there] at inside
      exact ⟨arg, List.mem_of_getElem? there, value, inside, decoded⟩

theorem readFrom_argument (decoded : decode (argument args position) = .ok f) :
    ReadFrom args f := readFrom_part (.self _) decoded

theorem readFrom_option {found : Option Formula}
    (reads : ReadsOption (argument args position) found) : ∀ f ∈ found.toList, ReadFrom args f := by
  rcases reads with ⟨-, rfl⟩ | ⟨f, decoded, rfl⟩
  · exact List.forall_mem_nil _
  · exact List.forall_mem_singleton.mpr (readFrom_argument decoded)

theorem mem_of_forall₂ {α β : Type} {related : α → β → Prop} {as : List α} {bs : List β}
    (each : List.Forall₂ related as bs) {b : β} (mem : b ∈ bs) : ∃ a ∈ as, related a b := by
  induction each with
  | nil => cases mem
  | cons first _ ih =>
      rcases List.mem_cons.mp mem with rfl | later
      · exact ⟨_, List.mem_cons_self, first⟩
      · obtain ⟨a, there, related⟩ := ih later
        exact ⟨a, List.mem_cons_of_mem _ there, related⟩

theorem readFrom_list {found : List Formula} (reads : ReadsList (argument args position) found) :
    ∀ f ∈ found, ReadFrom args f := by
  rcases reads with ⟨-, rfl⟩ | ⟨items, listed, each⟩ | ⟨f, decoded, rfl⟩
  · exact List.forall_mem_nil _
  · intro f mem
    obtain ⟨item, inside, decoded⟩ := mem_of_forall₂ each mem
    exact readFrom_part (listed ▸ Json.part_of_item inside) decoded
  · exact List.forall_mem_singleton.mpr (readFrom_argument decoded)

theorem source_of_justifies {justification : Formula}
    (inside : Json.Part value (argument args position))
    (justified : Justifies value justification) :
    justification = assumed ∨ ReadFrom args justification := by
  rcases justified with ⟨-, rfl⟩ | decoded
  · exact .inl rfl
  · exact .inr (readFrom_part inside decoded)

theorem source_of_readsStep {step : Step} (inside : Json.Part value (argument args position))
    (reads : ReadsStep value step) : ∀ f ∈ step.formulas, f = assumed ∨ ReadFrom args f := by
  obtain ⟨formula, justified⟩ := reads
  refine List.forall_mem_cons.mpr ⟨.inr (readFrom_part inside formula), ?_⟩
  refine List.forall_mem_singleton.mpr ?_
  -- A step without a justification is read as one that says `null`, which need not stand anywhere.
  cases there : value.get? "justification" with
  | none =>
      rw [there] at justified
      rcases justified with ⟨-, assumption⟩ | decoded
      · exact .inl assumption
      · cases decoded
  | some justification =>
      rw [there] at justified
      exact source_of_justifies ((Json.part_of_get? there).trans inside) justified

theorem source_of_stated (reading : Reading args call request) :
    ∀ f ∈ request.stated, ReadFrom args f := by
  cases reading with
  | defineTheorem _ stated assuming concluding =>
      simp only [Request.stated, List.forall_mem_append, List.forall_mem_cons]
      exact ⟨⟨readFrom_argument stated, readFrom_list assuming⟩, readFrom_option concluding⟩
  | addAxiom _ stated => exact List.forall_mem_singleton.mpr (readFrom_argument stated)
  | _ => exact List.forall_mem_nil _

theorem source_of_formulas (reading : Reading args call request) :
    ∀ f ∈ request.formulas, f = assumed ∨ ReadFrom args f := by
  have read {fs : List Formula} (all : ∀ f ∈ fs, ReadFrom args f) :
      ∀ f ∈ fs, f = assumed ∨ ReadFrom args f := fun f mem => .inr (all f mem)
  cases reading with
  | defineTheorem named stated assuming concluding =>
      exact read (source_of_stated (.defineTheorem named stated assuming concluding))
  | addAxiom named stated => exact read (source_of_stated (.addAxiom named stated))
  | addStep _ formula justified =>
      refine List.forall_mem_cons.mpr ⟨.inr (readFrom_argument formula), ?_⟩
      exact List.forall_mem_singleton.mpr (source_of_justifies (.self _) justified)
  | verifyProof _ listed each =>
      simp only [Request.formulas, List.forall_mem_flatMap]
      intro step mem
      obtain ⟨item, inside, reads⟩ := mem_of_forall₂ each mem
      exact source_of_readsStep (listed ▸ Json.part_of_item inside) reads
  | entails given concluding =>
      exact read (List.forall_mem_append.mpr ⟨readFrom_list given,
        List.forall_mem_singleton.mpr (readFrom_argument concluding)⟩)
  | equivalent first second =>
      exact read (List.forall_mem_append.mpr ⟨readFrom_option first, readFrom_option second⟩)
  | derive _ first second | substitute first _ second =>
      exact read (List.forall_mem_cons.mpr ⟨readFrom_argument first,
        List.forall_mem_singleton.mpr (readFrom_argument second)⟩)
  | tabulate formula | checkUndecidable formula =>
      exact read (List.forall_mem_singleton.mpr (readFrom_argument formula))
  | _ => exact List.forall_mem_nil _

end Proofbook.Request
