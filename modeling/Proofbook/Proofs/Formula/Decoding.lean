import Proofbook.Proofs.Formula.RoundTrip
import Proofbook.Proofs.Json.Part
import Proofbook.Proofs.Outcome

namespace Proofbook.Formula

/-! ## Members -/

def Fields.Gives (fields : Fields) (f : Formula) : Prop :=
  ∃ name field, (name, field) ∈ fields.members ∧
    (field.formula = .ok f ∨ ∃ fs, field.formulas = .ok fs ∧ f ∈ fs)

def Fields.HasNumber (fields : Fields) (x : Binary64) : Prop :=
  ∃ name field y, (name, field) ∈ fields.members ∧ field.value = .number y ∧ x = y.toBinary64

/-- The parts of the formula were read from members, and it is irregular only as a number. -/
structure Fields.Reads (fields : Fields) (f : Formula) : Prop where
  parts : ∀ part ∈ f.children, fields.Gives part
  irregular : f.isIrregular = true → ∃ x, f = .number x ∧ fields.HasNumber x

namespace Fields

variable {fields : Fields} {name : String} {f : Formula}

theorem mem_of_present? {field : Field} (found : fields.present? name = some field) :
    (name, field) ∈ fields.members := by
  unfold present? at found
  split at found
  · rename_i here
    obtain ⟨before, after, split, -⟩ := List.lookup_eq_some_iff.mp here
    split at found
    · cases found
    · obtain rfl := Option.some.inj found
      simp [split]
  · cases found

theorem mem_of_required {field : Field} (found : fields.required name = .ok field) :
    (name, field) ∈ fields.members := by
  unfold required at found
  split at found
  · obtain rfl := Except.ok.inj found
    exact mem_of_present? ‹_›
  · cases found

theorem gives_formula (read : fields.formula name = .ok f) : fields.Gives f := by
  obtain ⟨field, found, given⟩ := Except.bind_eq_ok.mp read
  exact ⟨name, field, mem_of_required found, .inl given⟩

theorem gives_formula? {found : Option Formula} (read : fields.formula? name = .ok found) :
    ∀ f ∈ found.toList, fields.Gives f := by
  unfold formula? at read
  split at read
  · obtain rfl := Except.ok.inj read
    exact List.forall_mem_nil _
  · rename_i field present
    obtain ⟨f, given, rfl⟩ := Except.map_eq_ok.mp read
    exact List.forall_mem_singleton.mpr ⟨name, field, mem_of_present? present, .inl given⟩

theorem gives_formulas {fs : List Formula} (read : fields.formulas name = .ok fs) :
    ∀ f ∈ fs, fields.Gives f := by
  unfold formulas at read
  split at read
  · obtain rfl := Except.ok.inj read
    exact List.forall_mem_nil _
  · rename_i field present
    split at read
    · exact fun f mem => ⟨name, field, mem_of_present? present, .inr ⟨fs, read, mem⟩⟩
    · cases read

theorem hasNumber_number {x : Binary64} (read : fields.number name = .ok x) :
    fields.HasNumber x := by
  obtain ⟨field, found, read⟩ := Except.bind_eq_ok.mp read
  split at read
  · rename_i y here
    exact ⟨name, field, y, mem_of_required found, here, (Except.ok.inj read).symm⟩
  · cases read

theorem reads_leaf (childless : f.children = []) (regular : f.isIrregular = false) :
    fields.Reads f := by
  refine ⟨?_, ?_⟩
  · rw [childless]
    exact List.forall_mem_nil _
  · rw [regular]
    exact nofun

theorem reads_two {left right : Formula} (two : f.children = [left, right])
    (regular : f.isIrregular = false) (first : fields.Gives left) (second : fields.Gives right) :
    fields.Reads f := by
  refine ⟨?_, ?_⟩
  · rw [two]
    exact List.forall_mem_cons.mpr ⟨first, List.forall_mem_singleton.mpr second⟩
  · rw [regular]
    exact nofun

theorem reads_of_ofFields (read : ofFields fields = .ok f) : fields.Reads f := by
  obtain ⟨kind, members⟩ := fields
  cases kind with
  | quantifier =>
      obtain ⟨kind, -, read⟩ := Except.bind_eq_ok.mp read
      obtain ⟨name, -, read⟩ := Except.bind_eq_ok.mp read
      obtain ⟨domain, ranging, read⟩ := Except.bind_eq_ok.mp read
      obtain ⟨body, inner, read⟩ := Except.bind_eq_ok.mp read
      obtain rfl := Except.pure_eq_ok.mp read
      refine ⟨List.forall_mem_append.mpr ⟨gives_formula? ranging, ?_⟩, by simp [isIrregular]⟩
      exact List.forall_mem_singleton.mpr (gives_formula inner)
  | connective =>
      obtain ⟨kind, -, read⟩ := Except.bind_eq_ok.mp read
      obtain ⟨left, first, read⟩ := Except.bind_eq_ok.mp read
      by_cases both : kind = .not ∧ left.isSome = true
      · simp only [if_pos both] at read
        cases read
      · simp only [if_neg both] at read
        obtain ⟨right, second, read⟩ := Except.bind_eq_ok.mp read
        obtain rfl := Except.pure_eq_ok.mp read
        refine ⟨List.forall_mem_append.mpr ⟨gives_formula? first, ?_⟩, fun irregular => ?_⟩
        · exact List.forall_mem_singleton.mpr (gives_formula second)
        · cases kind <;> cases left <;> simp [isIrregular] at irregular both
  | predicate =>
      obtain ⟨name, -, read⟩ := Except.bind_eq_ok.mp read
      obtain ⟨args, each, read⟩ := Except.bind_eq_ok.mp read
      obtain rfl := Except.pure_eq_ok.mp read
      exact ⟨gives_formulas each, by simp [isIrregular]⟩
  | function =>
      obtain ⟨name, -, read⟩ := Except.bind_eq_ok.mp read
      obtain ⟨args, each, read⟩ := Except.bind_eq_ok.mp read
      obtain rfl := Except.pure_eq_ok.mp read
      exact ⟨gives_formulas each, by simp [isIrregular]⟩
  | inference =>
      obtain ⟨rule, -, read⟩ := Except.bind_eq_ok.mp read
      obtain ⟨premises, each, read⟩ := Except.bind_eq_ok.mp read
      obtain rfl := Except.pure_eq_ok.mp read
      exact ⟨gives_formulas each, by simp [isIrregular]⟩
  | equation =>
      obtain ⟨left, first, read⟩ := Except.bind_eq_ok.mp read
      obtain ⟨right, second, read⟩ := Except.bind_eq_ok.mp read
      obtain rfl := Except.pure_eq_ok.mp read
      exact reads_two rfl rfl (gives_formula first) (gives_formula second)
  | inequality =>
      obtain ⟨kind, -, read⟩ := Except.bind_eq_ok.mp read
      obtain ⟨left, first, read⟩ := Except.bind_eq_ok.mp read
      obtain ⟨right, second, read⟩ := Except.bind_eq_ok.mp read
      obtain rfl := Except.pure_eq_ok.mp read
      exact reads_two rfl rfl (gives_formula first) (gives_formula second)
  | var | proposition =>
      obtain ⟨name, -, read⟩ := Except.bind_eq_ok.mp read
      obtain ⟨flag, -, read⟩ := Except.bind_eq_ok.mp read
      obtain rfl := Except.pure_eq_ok.mp read
      exact reads_leaf rfl rfl
  | premise | conclusion =>
      obtain rfl := Except.pure_eq_ok.mp read
      exact reads_leaf rfl rfl
  | text =>
      obtain ⟨value, -, read⟩ := Except.bind_eq_ok.mp read
      obtain rfl := Except.pure_eq_ok.mp read
      exact reads_leaf rfl rfl
  | number =>
      obtain ⟨x, here, read⟩ := Except.bind_eq_ok.mp read
      obtain rfl := Except.pure_eq_ok.mp read
      exact ⟨List.forall_mem_nil _, fun _ => ⟨x, rfl, hasNumber_number here⟩⟩

end Fields

/-! ## Values -/

theorem mem_decodeMembers {name : String} {field : Field} {members : List (String × Json)}
    (mem : (name, field) ∈ decodeMembers members) :
    ∃ value, (name, value) ∈ members ∧ field = ⟨value, decode value, decodeItems value⟩ := by
  induction members with
  | nil => cases mem
  | cons member rest ih =>
      obtain ⟨first, value⟩ := member
      rcases List.mem_cons.mp mem with same | later
      · obtain ⟨rfl, rfl⟩ := Prod.mk.inj same
        exact ⟨value, List.mem_cons_self, rfl⟩
      · obtain ⟨inside, there, same⟩ := ih later
        exact ⟨inside, List.mem_cons_of_mem _ there, same⟩

theorem mem_decodeList {values : List Json} {fs : List Formula} {f : Formula}
    (read : decodeList values = .ok fs) (mem : f ∈ fs) :
    ∃ value ∈ values, decode value = .ok f := by
  induction values generalizing fs with
  | nil =>
      obtain rfl := Except.ok.inj read
      cases mem
  | cons value rest ih =>
      rw [decodeList] at read
      split at read
      · cases read
      · rename_i first decoded
        obtain ⟨others, readRest, rfl⟩ := Except.map_eq_ok.mp read
        rcases List.mem_cons.mp mem with rfl | later
        · exact ⟨value, List.mem_cons_self, decoded⟩
        · obtain ⟨inside, there, decoded'⟩ := ih readRest later
          exact ⟨inside, List.mem_cons_of_mem _ there, decoded'⟩

theorem mem_decodeItems {value : Json} {fs : List Formula} {f : Formula}
    (read : decodeItems value = .ok fs) (mem : f ∈ fs) :
    ∃ item, Json.Part item value ∧ decode item = .ok f := by
  cases value with
  | array items =>
      obtain ⟨item, inside, decoded⟩ := mem_decodeList read mem
      exact ⟨item, Json.part_of_item inside, decoded⟩
  | null | bool | number | string | object =>
      obtain rfl := Except.ok.inj read
      cases mem

variable {value : Json} {f : Formula}

theorem reads_of_decode {members : List (String × Json)}
    (read : decode (.object members) = .ok f) :
    ∃ kind, Fields.Reads ⟨kind, decodeMembers members⟩ f := by
  rw [decode, ofMembers] at read
  split at read
  · cases read
  · split at read
    · cases read
    · exact ⟨_, Fields.reads_of_ofFields read⟩

theorem parts_of_decode (read : decode value = .ok f) :
    ∀ part ∈ f.children, ∃ inside, Json.Part inside value ∧ decode inside = .ok part := by
  cases value with
  | object members =>
      obtain ⟨kind, reads⟩ := reads_of_decode read
      intro part mem
      obtain ⟨name, field, there, given⟩ := reads.parts part mem
      obtain ⟨inside, member, rfl⟩ := mem_decodeMembers there
      rcases given with alone | ⟨fs, listed, mem⟩
      · exact ⟨inside, Json.part_of_member member, alone⟩
      · obtain ⟨item, deeper, decoded⟩ := mem_decodeItems listed mem
        exact ⟨item, deeper.trans (Json.part_of_member member), decoded⟩
  | number | string =>
      obtain rfl := Except.ok.inj read
      exact List.forall_mem_nil _
  | null | bool | array => cases read

theorem number_of_decode (read : decode value = .ok f) (irregular : f.isIrregular = true) :
    ∃ x, Json.Part (.number x) value ∧ f = number x.toBinary64 := by
  cases value with
  | object members =>
      obtain ⟨kind, reads⟩ := reads_of_decode read
      obtain ⟨x, rfl, name, field, y, there, number, rfl⟩ := reads.irregular irregular
      obtain ⟨inside, member, rfl⟩ := mem_decodeMembers there
      obtain rfl : inside = .number y := number
      exact ⟨y, Json.part_of_member member, rfl⟩
  | number x =>
      obtain rfl := Except.ok.inj read
      exact ⟨x, .self _, rfl⟩
  | string text =>
      obtain rfl := Except.ok.inj read
      cases irregular
  | null | bool | array => cases read

theorem irregular_of_decode (read : decode value = .ok f) {sub : Formula}
    (inside : Subformula sub f) (irregular : sub.isIrregular = true) :
    ∃ x, Json.Part (.number x) value ∧ sub = number x.toBinary64 := by
  -- On the way down to `sub`, every formula was read from a value further inside.
  induction inside generalizing value with
  | self => exact number_of_decode read irregular
  | part mem _ ih =>
      obtain ⟨child, here, decoded⟩ := parts_of_decode read _ mem
      obtain ⟨x, there, same⟩ := ih decoded
      exact ⟨x, there.trans here, same⟩

end Proofbook.Formula
