import Proofbook.Json.Basic

namespace Proofbook.Json

def children : Json → List Json
  | array items => items
  | object members => members.map Prod.snd
  | _ => []

inductive Part : Json → Json → Prop where
  | self (value : Json) : Part value value
  | inside {part child value : Json} :
      child ∈ value.children → Part part child → Part part value

theorem part_iff {part value : Json} :
    Part part value ↔ part = value ∨ ∃ child ∈ value.children, Part part child := by
  constructor
  · intro inside
    cases inside with
    | self => exact .inl rfl
    | inside mem deeper => exact .inr ⟨_, mem, deeper⟩
  · rintro (rfl | ⟨child, mem, deeper⟩)
    · exact .self part
    · exact .inside mem deeper

theorem Part.trans {first second third : Json} (inner : Part first second)
    (outer : Part second third) : Part first third := by
  induction outer with
  | self => exact inner
  | inside mem _ ih => exact .inside mem ih

theorem part_of_item {item : Json} {items : List Json} (mem : item ∈ items) :
    Part item (array items) := .inside mem (.self item)

theorem part_of_member {name : String} {value : Json} {members : List (String × Json)}
    (mem : (name, value) ∈ members) : Part value (object members) :=
  .inside (List.mem_map_of_mem mem) (.self value)

theorem part_of_get? {name : String} {inside value : Json}
    (found : value.get? name = some inside) : Part inside value := by
  cases value with
  | object members =>
      obtain ⟨before, after, rfl, -⟩ := List.lookup_eq_some_iff.mp found
      exact part_of_member (List.mem_append_right before List.mem_cons_self)
  | null | bool | number | string | array => cases found

/-- No number in the value is infinite or NaN once it is rounded. -/
def HasFiniteNumbers (value : Json) : Prop :=
  ∀ x, Part (number x) value → x.toBinary64.isFinite = true

theorem HasFiniteNumbers.part {value part : Json} (finite : value.HasFiniteNumbers)
    (inside : Part part value) : part.HasFiniteNumbers :=
  fun x deeper => finite x (deeper.trans inside)

theorem hasFiniteNumbers_iff {value : Json} :
    value.HasFiniteNumbers ↔ (∀ x, value = number x → x.toBinary64.isFinite = true) ∧
      ∀ child ∈ value.children, child.HasFiniteNumbers := by
  constructor
  · intro finite
    refine ⟨?_, fun child mem => finite.part (.inside mem (.self child))⟩
    rintro x rfl
    exact finite x (.self _)
  · rintro ⟨root, children⟩ x inside
    rcases part_iff.mp inside with same | ⟨child, mem, deeper⟩
    · exact root x same.symm
    · exact children child mem x deeper

end Proofbook.Json
