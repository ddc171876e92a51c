import Proofbook.Proofs.Registry.Consistency
import Proofbook.Proofs.Session.Since

namespace Proofbook

namespace Registry

variable {r : Registry} {i j : Nat} {a b : Axiom}

theorem Warranted.contradicted (warranted : r.Warranted) (sound : r.AxiomsSound)
    (mem : a ∈ r.axioms.items) (accused : a.isConsistent = false) :
    ∃ b ∈ r.axioms.items, b.name ≠ a.name ∧
      Formula.contradicts b.statement a.statement = true := by
  obtain ⟨i, there⟩ := List.mem_iff_getElem?.mp mem
  have unspared := warranted.accused i ⟨a, there, accused⟩
  obtain ⟨j, opposed | opposed⟩ := isSpared_eq_false.mp unspared
  · obtain ⟨less, a', b, first, second, opposed⟩ := mem_contradictions.mp opposed
    cases there.symm.trans first
    refine ⟨b, List.mem_of_getElem? second, ?_, by rwa [Formula.contradicts_comm]⟩
    exact fun same => absurd (sound.coherent.eq_of_key_eq second there same) (by omega)
  · obtain ⟨less, b, a', first, second, opposed⟩ := mem_contradictions.mp opposed
    cases there.symm.trans second
    refine ⟨b, List.mem_of_getElem? first, ?_, opposed⟩
    exact fun same => absurd (sound.coherent.eq_of_key_eq first there same) (by omega)

theorem Warranted.contradiction (warranted : r.Warranted) (sound : r.AxiomsSound)
    (inconsistent : r.isConsistent = false) :
    ∃ a ∈ r.axioms.items, ∃ b ∈ r.axioms.items, a.name ≠ b.name ∧
      Formula.contradicts a.statement b.statement = true ∧
      a.isConsistent = false ∧ b.isConsistent = false := by
  obtain ⟨i, j, opposed, ⟨a, first, accused⟩, ⟨b, second, accused'⟩⟩ :=
    warranted.inconsistent inconsistent
  obtain ⟨less, a', b', first', second', opposed⟩ := mem_contradictions.mp opposed
  cases first.symm.trans first'
  cases second.symm.trans second'
  refine ⟨a, List.mem_of_getElem? first, b, List.mem_of_getElem? second, ?_, opposed, accused,
    accused'⟩
  exact fun same => absurd (sound.coherent.eq_of_key_eq first second same) (by omega)

end Registry

theorem flags_warranted (config : Config) (calls : List (Nat × Invocation)) :
    ∃ r, ((Session.init { config }).run calls).1.registry = some r ∧
      (∀ a ∈ r.axioms.items, a.isConsistent = false →
        ∃ b ∈ r.axioms.items, b.name ≠ a.name ∧
          Formula.contradicts b.statement a.statement = true) ∧
      (r.isConsistent = false →
        ∃ a ∈ r.axioms.items, ∃ b ∈ r.axioms.items, a.name ≠ b.name ∧
          Formula.contradicts a.statement b.statement = true ∧
          a.isConsistent = false ∧ b.isConsistent = false) ∧
      Axiom.seeds <+: r.axioms.items ∧ ∀ a ∈ Axiom.seeds, a.isConsistent = true := by
  have start : Registry.fresh.Warranted ∧ Registry.fresh.AxiomsSound :=
    ⟨Registry.warranted_fresh, Registry.axiomsSound_fresh⟩
  have keeps {time : Nat} {request : Request} {answer : Answer} {r r' : Registry}
      (ran : Registry.perform config time request r = .ok answer r')
      (held : r.Warranted ∧ r.AxiomsSound) : r'.Warranted ∧ r'.AxiomsSound := by
    have amends := Registry.amends_of_performs (performs_of_ok ran)
    exact ⟨held.1.amends amends, held.2.amends amends⟩
  obtain ⟨r, present, -, warranted, sound⟩ := Session.since_run config
    (fun _ r => r.Warranted ∧ r.AxiomsSound) start (fun _ held => held)
    (fun _ _ ran held => keeps ran held) calls
  refine ⟨r, present, ?_, ?_, warranted.seeded, by decide⟩
  · exact fun a mem accused => warranted.contradicted sound mem accused
  · exact fun inconsistent => warranted.contradiction sound inconsistent

end Proofbook
