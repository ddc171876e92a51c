import Mathlib.Data.List.Induction
import Mathlib.Data.List.Nodup
import Mathlib.Data.Set.Function
import Mathlib.Order.Interval.Set.Defs

namespace Proofbook

theorem eraseDups_snoc (names : List String) (name : String) :
    (names ++ [name]).eraseDups =
      if name ∈ names then names.eraseDups else names.eraseDups ++ [name] := by
  rw [List.eraseDups_append]
  by_cases known : name ∈ names
  · simp [List.removeAll, known]
  · simp [List.removeAll, known, List.eraseDups_cons]

theorem nodup_eraseDups (names : List String) : names.eraseDups.Nodup := by
  induction names using List.reverseRecOn with
  | nil => simp
  | append_singleton names name ih =>
      rw [eraseDups_snoc]
      split
      · exact ih
      · rename_i new
        exact ih.append (List.nodup_singleton name) (by simpa using new)

theorem idxOf_eraseDups_append {x : String} {names : List String} (mem : x ∈ names)
    (later : List String) : (names ++ later).eraseDups.idxOf x = names.eraseDups.idxOf x := by
  rw [List.eraseDups_append, List.idxOf_append_of_mem (List.mem_eraseDups.mpr mem)]

theorem idxOf_eraseDups_snoc (names : List String) (name : String) :
    (names ++ [name]).eraseDups.idxOf name = names.eraseDups.idxOf name := by
  by_cases known : name ∈ names
  · exact idxOf_eraseDups_append known [name]
  · have absent : name ∉ names.eraseDups := by simpa using known
    rw [eraseDups_snoc, if_neg known, List.idxOf_append_of_notMem absent,
      List.idxOf_eq_length absent]
    simp

theorem idxOf_eraseDups_lt {x y : String} {names : List String} (hx : x ∈ names)
    (hy : y ∈ names) :
    names.eraseDups.idxOf x < names.eraseDups.idxOf y ↔ names.idxOf x < names.idxOf y := by
  induction names using List.reverseRecOn with
  | nil => cases hx
  | append_singleton names name ih =>
      rw [eraseDups_snoc]
      split
      · rename_i known
        have old : ∀ z ∈ names ++ [name], z ∈ names := by grind
        rw [List.idxOf_append_of_mem (old x hx), List.idxOf_append_of_mem (old y hy)]
        exact ih (old x hx) (old y hy)
      · rename_i new
        have below : ∀ z ∈ names,
            names.idxOf z < names.length ∧ names.eraseDups.idxOf z < names.eraseDups.length := by
          intro z mem
          simp [List.idxOf_lt_length_iff, mem]
        grind [List.mem_eraseDups]

theorem bijOn_idxOf_eraseDups (names : List String) :
    Set.BijOn names.eraseDups.idxOf {name | name ∈ names} (Set.Iio names.eraseDups.length) := by
  refine ⟨?_, ?_, ?_⟩
  · intro name mem
    exact List.idxOf_lt_length_iff.mpr (List.mem_eraseDups.mpr mem)
  · intro x hx y _ same
    exact (List.idxOf_inj (List.mem_eraseDups.mpr hx)).mp same
  · intro i below
    refine ⟨names.eraseDups[i], ?_, (nodup_eraseDups names).idxOf_getElem i below⟩
    exact List.mem_eraseDups.mp (List.getElem_mem below)

/-! ## Renaming -/

section

variable {change : String → String} {names : List String}

theorem mem_map_iff_of_injOn {x : String} {known : Set String} (distinct : Set.InjOn change known)
    (among : ∀ name ∈ names, name ∈ known) (mem : x ∈ known) :
    change x ∈ names.map change ↔ x ∈ names := by
  constructor
  · intro image
    obtain ⟨name, there, same⟩ := List.mem_map.mp image
    rwa [← distinct (among name there) mem same]
  · exact List.mem_map_of_mem

theorem eraseDups_map (distinct : Set.InjOn change {name | name ∈ names}) :
    (names.map change).eraseDups = names.eraseDups.map change := by
  induction names using List.reverseRecOn with
  | nil => rfl
  | append_singleton names name ih =>
      have known : change name ∈ names.map change ↔ name ∈ names :=
        mem_map_iff_of_injOn distinct (fun other mem => List.mem_append_left [name] mem) (by simp)
      have fewer : Set.InjOn change {name | name ∈ names} :=
        distinct.mono fun other mem => List.mem_append_left [name] mem
      rw [List.map_append, List.map_singleton, eraseDups_snoc, eraseDups_snoc, ih fewer]
      by_cases old : name ∈ names
      · rw [if_pos old, if_pos (known.mpr old)]
      · rw [if_neg old, if_neg (mt known.mp old), List.map_append, List.map_singleton]

theorem idxOf_map {x : String} (distinct : Set.InjOn change {name | name ∈ names})
    (mem : x ∈ names) : (names.map change).idxOf (change x) = names.idxOf x := by
  induction names with
  | nil => cases mem
  | cons name names ih =>
      by_cases same : name = x
      · subst same
        simp
      · have differ : change name ≠ change x := fun equal =>
          same (distinct List.mem_cons_self mem equal)
        have fewer : Set.InjOn change {name | name ∈ names} :=
          distinct.mono fun other there => List.mem_cons_of_mem name there
        have later : x ∈ names := (List.mem_cons.mp mem).resolve_left (Ne.symm same)
        rw [List.map_cons, List.idxOf_cons_ne _ differ, List.idxOf_cons_ne _ same, ih fewer later]

theorem idxOf_eraseDups_map {x : String} (distinct : Set.InjOn change {name | name ∈ names})
    (mem : x ∈ names) :
    (names.map change).eraseDups.idxOf (change x) = names.eraseDups.idxOf x := by
  rw [eraseDups_map distinct]
  apply idxOf_map _ (List.mem_eraseDups.mpr mem)
  exact distinct.mono fun name there => List.mem_eraseDups.mp there

end

end Proofbook
