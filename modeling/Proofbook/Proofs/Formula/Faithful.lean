import Proofbook.Proofs.Formula.Regular

namespace Proofbook.Json

open Formula

def Faithful (value : Json) : Prop :=
  ∀ f : Formula, Part f.encode value → decode f.encode = .ok f

theorem type_encode (f : Formula) : f.encode.get? "type" = some (.string f.kind.name) := by
  cases f with
  | quantified kind name domain body => cases domain <;> rfl
  | connective kind left right => cases left <;> rfl
  | proposition name truth => cases truth <;> rfl
  | _ => rfl

theorem encodeList_eq_map (fs : List Formula) : encodeList fs = fs.map encode := by
  induction fs with
  | nil => rfl
  | cons f fs ih => rw [encodeList, ih, List.map_cons]

variable {value : Json}

theorem faithful_of_children (root : ∀ f : Formula, f.encode = value → decode f.encode = .ok f)
    (each : ∀ child ∈ value.children, child.Faithful) : value.Faithful := by
  intro f inside
  rcases part_iff.mp inside with same | ⟨child, mem, deeper⟩
  · exact root f same
  · exact each child mem f deeper

theorem faithful_of_kind (other : value.kind ≠ .object)
    (each : ∀ child ∈ value.children, child.Faithful) : value.Faithful := by
  refine faithful_of_children (fun f form => ?_) each
  rw [← form] at other
  exact absurd (kind_encode f) other

theorem faithful_scalar (other : value.kind ≠ .object) (leaf : value.children = []) :
    value.Faithful := by
  apply faithful_of_kind other
  rw [leaf]
  exact List.forall_mem_nil _

@[simp]
theorem faithful_null : null.Faithful := faithful_scalar nofun rfl

@[simp]
theorem faithful_bool (b : Bool) : (bool b).Faithful := faithful_scalar nofun rfl

@[simp]
theorem faithful_number (x : JsonNumber) : (number x).Faithful := faithful_scalar nofun rfl

@[simp]
theorem faithful_string (text : String) : (string text).Faithful := faithful_scalar nofun rfl

@[simp]
theorem faithful_ofBinary64 (x : Binary64) : (ofBinary64 x).Faithful := by
  unfold ofBinary64
  split
  · exact faithful_number _
  · exact faithful_null

@[simp]
theorem faithful_ofNat (n : Nat) : (ofNat n).Faithful := faithful_number _

theorem faithful_array {items : List Json} (each : ∀ item ∈ items, item.Faithful) :
    (array items).Faithful := faithful_of_kind nofun each

theorem faithful_map {α : Type} {toJson : α → Json} {as : List α}
    (each : ∀ a ∈ as, (toJson a).Faithful) : (array (as.map toJson)).Faithful :=
  faithful_array (List.forall_mem_map.mpr each)

theorem faithful_object {members : List (String × Json)}
    (untyped : ∀ kind : Formula.Kind, members.lookup "type" ≠ some (.string kind.name))
    (each : ∀ member ∈ members, member.2.Faithful) : (object members).Faithful := by
  refine faithful_of_children (fun f form => ?_) (List.forall_mem_map.mpr each)
  have typed := type_encode f
  rw [form] at typed
  exact absurd typed (untyped f.kind)

theorem faithful_ofOption {α : Type} {toJson : α → Json} {found : Option α}
    (each : ∀ a, found = some a → (toJson a).Faithful) : (ofOption toJson found).Faithful := by
  cases found with
  | none => exact faithful_null
  | some a => exact each a rfl

theorem faithful_encodeList {fs : List Formula} (each : ∀ f ∈ fs, f.encode.Faithful) :
    (array (encodeList fs)).Faithful := by
  rw [encodeList_eq_map]
  exact faithful_map each

theorem child_encode {f : Formula} (parts : ∀ part ∈ f.children, part.encode.Faithful) :
    ∀ child ∈ f.encode.children, child.Faithful := by
  cases f with
  | quantified kind name domain body =>
      cases domain <;> simp_all [encode, Json.children, Formula.children, typeMember]
  | connective kind left right =>
      cases left <;> simp_all [encode, Json.children, Formula.children, typeMember]
  | proposition name truth =>
      cases truth <;> simp [encode, Json.children, typeMember]
  | equation | inequality => simp_all [encode, Json.children, Formula.children, typeMember]
  | predicate name args | function name args | inference rule premises =>
      have listed := faithful_encodeList parts
      simp_all [encode, Json.children, Formula.children, typeMember]
  | _ => simp [encode, Json.children, typeMember]

theorem faithful_encode {f : Formula} (regular : f.Regular) : f.encode.Faithful := by
  induction f using inductionOnParts with
  | step f ih =>
      apply faithful_of_children
      · -- A formula of the same JSON form is what is read from it, and that is `f`.
        intro g same
        have read := (recovers_encode f).read regular
        rw [← same] at read
        obtain rfl := (decode_encode_iff g).2.1 f read
        exact read
      · exact child_encode fun part mem => ih part mem (regular.child mem)

end Proofbook.Json
