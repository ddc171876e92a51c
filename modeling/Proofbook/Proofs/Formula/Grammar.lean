import Proofbook.Proofs.Binary64.Nearest
import Proofbook.Proofs.Formula.Decoding

namespace Proofbook

/-! ## Members -/

namespace Json

def member? (value : Json) (name : String) : Option Json :=
  (value.get? name).filter (·.kind != .null)

theorem none_of_rel {α : Type} {R : Json → α → Prop} {found : Option Json}
    (rel : Option.Rel R found none) : found = none := by
  cases rel
  rfl

def list? (value : Json) (name : String) : Option (List Json) :=
  match value.member? name with
  | none => some []
  | some member => member.items?

end Json

/-! ## Names -/

theorem find?_name_eq_some {α : Type} {all : List α} {nameOf : α → String}
    (listed : ∀ a, all.find? (nameOf · == nameOf a) = some a) (name : String) (a : α) :
    all.find? (nameOf · == name) = some a ↔ name = nameOf a := by
  constructor
  · intro found
    have same := List.find?_some found
    exact (beq_iff_eq.mp same).symm
  · rintro rfl
    exact listed a

theorem Quantifier.ofName?_eq_some (name : String) (kind : Quantifier) :
    ofName? name = some kind ↔ name = kind.name := find?_name_eq_some ofName?_name name kind

theorem Connective.ofName?_eq_some (name : String) (kind : Connective) :
    ofName? name = some kind ↔ name = kind.name := find?_name_eq_some ofName?_name name kind

theorem Comparison.ofName?_eq_some (name : String) (kind : Comparison) :
    ofName? name = some kind ↔ name = kind.name := find?_name_eq_some ofName?_name name kind

theorem Rule.ofName?_eq_some (name : String) (rule : Rule) :
    ofName? name = some rule ↔ name = rule.name := find?_name_eq_some ofName?_name name rule

theorem Formula.Kind.ofName?_eq_some (name : String) (kind : Kind) :
    ofName? name = some kind ↔ name = kind.name := find?_name_eq_some ofName?_name name kind

namespace Formula

/-! ## The grammar -/

/--
The JSON value represents the formula. An object does so by its member `type` and those members
that formulas of this type have, whatever its other members are.
-/
inductive Represents : Json → Formula → Prop where
  | bareNumber (x : JsonNumber) : Represents (.number x) (number x.toBinary64)
  | bareText (value : String) : Represents (.string value) (text value)
  | quantified {v : Json} {kind : Quantifier} {name : String} {domain : Option Formula}
      {body : Formula} (type : v.get? "type" = some (.string "quantifier"))
      (kinded : v.member? "quantifier_type" = some (.string kind.name))
      (named : v.member? "variable" = some (.string name))
      (ranging : Option.Rel Represents (v.member? "domain") domain)
      (inner : Option.Rel Represents (v.member? "body") (some body)) :
      Represents v (quantified kind name domain body)
  | connective {v : Json} {kind : Connective} {left : Option Formula} {right : Formula}
      (type : v.get? "type" = some (.string "connective"))
      (kinded : v.member? "connective_type" = some (.string kind.name))
      (first : Option.Rel Represents (v.member? "left") left)
      (single : kind = .not → v.member? "left" = none)
      (second : Option.Rel Represents (v.member? "right") (some right)) :
      Represents v (connective kind left right)
  | predicate {v : Json} {name : String} {items : List Json} {args : List Formula}
      (type : v.get? "type" = some (.string "predicate"))
      (named : v.member? "name" = some (.string name))
      (listed : v.list? "args" = some items) (each : List.Forall₂ Represents items args) :
      Represents v (predicate name args)
  | var {v : Json} {name : String} {bound : Bool}
      (type : v.get? "type" = some (.string "variable"))
      (named : v.member? "name" = some (.string name))
      (flagged : (v.member? "is_bound").getD (.bool false) = .bool bound) :
      Represents v (var name bound)
  | proposition {v : Json} {name : String} {truth : Option Bool}
      (type : v.get? "type" = some (.string "proposition"))
      (named : v.member? "name" = some (.string name))
      (flagged : v.member? "truth" = truth.map .bool) :
      Represents v (proposition name truth)
  | equation {v : Json} {left right : Formula}
      (type : v.get? "type" = some (.string "equation"))
      (first : Option.Rel Represents (v.member? "left") (some left))
      (second : Option.Rel Represents (v.member? "right") (some right)) :
      Represents v (equation left right)
  | inequality {v : Json} {kind : Comparison} {left right : Formula}
      (type : v.get? "type" = some (.string "inequality"))
      (kinded : v.member? "inequality_type" = some (.string kind.name))
      (first : Option.Rel Represents (v.member? "left") (some left))
      (second : Option.Rel Represents (v.member? "right") (some right)) :
      Represents v (inequality kind left right)
  | function {v : Json} {name : String} {items : List Json} {args : List Formula}
      (type : v.get? "type" = some (.string "math_function"))
      (named : v.member? "name" = some (.string name))
      (listed : v.list? "args" = some items) (each : List.Forall₂ Represents items args) :
      Represents v (function name args)
  | premise {v : Json} (type : v.get? "type" = some (.string "premise")) : Represents v premise
  | conclusion {v : Json} (type : v.get? "type" = some (.string "conclusion")) :
      Represents v conclusion
  | inference {v : Json} {rule : Rule} {items : List Json} {premises : List Formula}
      (type : v.get? "type" = some (.string "inference"))
      (ruled : v.member? "rule" = some (.string rule.name))
      (listed : v.list? "premises" = some items)
      (each : List.Forall₂ Represents items premises) :
      Represents v (inference rule premises)
  | number {v : Json} {x : JsonNumber} (type : v.get? "type" = some (.string "number"))
      (valued : v.member? "value" = some (.number x)) : Represents v (number x.toBinary64)
  | text {v : Json} {value : String} (type : v.get? "type" = some (.string "string"))
      (valued : v.member? "value" = some (.string value)) : Represents v (text value)

/-! ## Reading the members of an object -/

structure Field.Exact (field : Field) : Prop where
  formula : ∀ f, field.formula = .ok f ↔ Represents field.value f
  formulas : ∀ items fs, field.value = .array items →
    (field.formulas = .ok fs ↔ List.Forall₂ Represents items fs)

structure Fields.Mirror (fields : Fields) (v : Json) : Prop where
  type : v.get? "type" = some (.string fields.kind.name)
  member : ∀ name, v.member? name = (fields.present? name).map Field.value
  exact : ∀ name field, fields.present? name = some field → field.Exact

namespace Fields

section

variable {fields : Fields} {v : Json} (mirror : fields.Mirror v) {name : String}
include mirror

theorem string_ok {value : String} :
    fields.string name = .ok value ↔ v.member? name = some (.string value) := by
  rw [mirror.member, string, required]
  cases fields.present? name with
  | none => simp [bind, Except.bind]
  | some field => cases here : field.value <;> simp [bind, Except.bind, here]

theorem named_ok {α : Type} {ofName? : String → Option α} {nameOf : α → String} {a : α}
    (table : ∀ value a, ofName? value = some a ↔ value = nameOf a) :
    fields.named name ofName? = .ok a ↔ v.member? name = some (.string (nameOf a)) := by
  rw [named, Except.bind_eq_ok]
  simp only [string_ok mirror]
  constructor
  · rintro ⟨value, here, found⟩
    split at found
    · obtain rfl := Except.ok.inj found
      rw [here, (table value _).mp ‹_›]
    · cases found
  · intro here
    refine ⟨nameOf a, here, ?_⟩
    rw [(table _ a).mpr rfl]

theorem flag_ok {value : Option Bool} :
    fields.flag name = .ok value ↔ v.member? name = value.map .bool := by
  rw [mirror.member, flag]
  cases fields.present? name with
  | none => cases value <;> simp
  | some field => cases here : field.value <;> cases value <;> simp [here]

theorem number_ok {x : Binary64} :
    fields.number name = .ok x ↔ ∃ y, v.member? name = some (.number y) ∧ x = y.toBinary64 := by
  rw [mirror.member, number, required]
  cases fields.present? name with
  | none => simp [bind, Except.bind]
  | some field => cases here : field.value <;> simp [bind, Except.bind, here, eq_comm]

theorem formula_ok {f : Formula} :
    fields.formula name = .ok f ↔ Option.Rel Represents (v.member? name) (some f) := by
  rw [mirror.member, formula, required]
  cases present : fields.present? name with
  | none => simp [bind, Except.bind]
  | some field =>
      have read := (mirror.exact name field present).formula f
      simpa [bind, Except.bind] using read

theorem formula?_ok {found : Option Formula} :
    fields.formula? name = .ok found ↔ Option.Rel Represents (v.member? name) found := by
  rw [mirror.member, formula?]
  cases present : fields.present? name with
  | none => cases found <;> simp
  | some field =>
      have read := (mirror.exact name field present).formula
      cases found <;> simp [Except.map_eq_ok, read]

theorem formulas_ok {fs : List Formula} :
    fields.formulas name = .ok fs ↔
      ∃ items, v.list? name = some items ∧ List.Forall₂ Represents items fs := by
  rw [Json.list?, mirror.member, formulas]
  cases present : fields.present? name with
  | none => simp
  | some field =>
      have read := (mirror.exact name field present).formulas
      cases here : field.value <;> simp [here, Json.items?]
      exact read _ fs here

theorem represents_of_ofFields {f : Formula} (read : ofFields fields = .ok f) :
    Represents v f := by
  obtain ⟨kind, members⟩ := fields
  have type := mirror.type
  cases kind with
  | quantifier =>
      obtain ⟨kind, kinded, read⟩ := Except.bind_eq_ok.mp read
      obtain ⟨name, named, read⟩ := Except.bind_eq_ok.mp read
      obtain ⟨domain, ranging, read⟩ := Except.bind_eq_ok.mp read
      obtain ⟨body, inner, read⟩ := Except.bind_eq_ok.mp read
      obtain rfl := Except.pure_eq_ok.mp read
      exact .quantified type ((named_ok mirror Quantifier.ofName?_eq_some).mp kinded)
        ((string_ok mirror).mp named) ((formula?_ok mirror).mp ranging)
        ((formula_ok mirror).mp inner)
  | connective =>
      obtain ⟨kind, kinded, read⟩ := Except.bind_eq_ok.mp read
      obtain ⟨left, first, read⟩ := Except.bind_eq_ok.mp read
      have first := (formula?_ok mirror).mp first
      by_cases both : kind = .not ∧ left.isSome = true
      · simp only [if_pos both] at read
        cases read
      · simp only [if_neg both] at read
        obtain ⟨right, second, read⟩ := Except.bind_eq_ok.mp read
        obtain rfl := Except.pure_eq_ok.mp read
        refine .connective type ((named_ok mirror Connective.ofName?_eq_some).mp kinded) first ?_
          ((formula_ok mirror).mp second)
        intro negation
        cases left with
        | none => exact Json.none_of_rel first
        | some left => exact absurd ⟨negation, rfl⟩ both
  | predicate =>
      obtain ⟨name, named, read⟩ := Except.bind_eq_ok.mp read
      obtain ⟨args, each, read⟩ := Except.bind_eq_ok.mp read
      obtain rfl := Except.pure_eq_ok.mp read
      obtain ⟨items, listed, each⟩ := (formulas_ok mirror).mp each
      exact .predicate type ((string_ok mirror).mp named) listed each
  | var =>
      obtain ⟨name, named, read⟩ := Except.bind_eq_ok.mp read
      obtain ⟨flag, flagged, read⟩ := Except.bind_eq_ok.mp read
      obtain rfl := Except.pure_eq_ok.mp read
      refine .var type ((string_ok mirror).mp named) ?_
      rw [(flag_ok mirror).mp flagged]
      cases flag <;> rfl
  | proposition =>
      obtain ⟨name, named, read⟩ := Except.bind_eq_ok.mp read
      obtain ⟨truth, flagged, read⟩ := Except.bind_eq_ok.mp read
      obtain rfl := Except.pure_eq_ok.mp read
      exact .proposition type ((string_ok mirror).mp named) ((flag_ok mirror).mp flagged)
  | equation =>
      obtain ⟨left, first, read⟩ := Except.bind_eq_ok.mp read
      obtain ⟨right, second, read⟩ := Except.bind_eq_ok.mp read
      obtain rfl := Except.pure_eq_ok.mp read
      exact .equation type ((formula_ok mirror).mp first) ((formula_ok mirror).mp second)
  | inequality =>
      obtain ⟨kind, kinded, read⟩ := Except.bind_eq_ok.mp read
      obtain ⟨left, first, read⟩ := Except.bind_eq_ok.mp read
      obtain ⟨right, second, read⟩ := Except.bind_eq_ok.mp read
      obtain rfl := Except.pure_eq_ok.mp read
      exact .inequality type ((named_ok mirror Comparison.ofName?_eq_some).mp kinded)
        ((formula_ok mirror).mp first) ((formula_ok mirror).mp second)
  | function =>
      obtain ⟨name, named, read⟩ := Except.bind_eq_ok.mp read
      obtain ⟨args, each, read⟩ := Except.bind_eq_ok.mp read
      obtain rfl := Except.pure_eq_ok.mp read
      obtain ⟨items, listed, each⟩ := (formulas_ok mirror).mp each
      exact .function type ((string_ok mirror).mp named) listed each
  | premise =>
      obtain rfl := Except.pure_eq_ok.mp read
      exact .premise type
  | conclusion =>
      obtain rfl := Except.pure_eq_ok.mp read
      exact .conclusion type
  | inference =>
      obtain ⟨rule, ruled, read⟩ := Except.bind_eq_ok.mp read
      obtain ⟨premises, each, read⟩ := Except.bind_eq_ok.mp read
      obtain rfl := Except.pure_eq_ok.mp read
      obtain ⟨items, listed, each⟩ := (formulas_ok mirror).mp each
      exact .inference type ((named_ok mirror Rule.ofName?_eq_some).mp ruled) listed each
  | number =>
      obtain ⟨x, valued, read⟩ := Except.bind_eq_ok.mp read
      obtain rfl := Except.pure_eq_ok.mp read
      obtain ⟨y, here, rfl⟩ := (number_ok mirror).mp valued
      exact .number type here
  | text =>
      obtain ⟨value, valued, read⟩ := Except.bind_eq_ok.mp read
      obtain rfl := Except.pure_eq_ok.mp read
      exact .text type ((string_ok mirror).mp valued)

theorem kind_eq_of_type (kind : Kind) (type : v.get? "type" = some (.string kind.name)) :
    fields.kind = kind := by
  have same := mirror.type.symm.trans type
  have known := (Kind.ofName?_eq_some _ kind).mpr (Json.string.inj (Option.some.inj same))
  rw [Kind.ofName?_name] at known
  exact Option.some.inj known

theorem ofFields_of_represents {f : Formula} (represents : Represents v f) :
    ofFields fields = .ok f := by
  have kinds := kind_eq_of_type mirror
  obtain ⟨kind, members⟩ := fields
  cases represents with
  | bareNumber | bareText => cases mirror.type
  | quantified type kinded named ranging inner =>
      obtain rfl := kinds .quantifier type
      have kind := (named_ok mirror Quantifier.ofName?_eq_some).mpr kinded
      have name := (string_ok mirror).mpr named
      have domain := (formula?_ok mirror).mpr ranging
      have body := (formula_ok mirror).mpr inner
      simp only [ofFields, kind, name, domain, body]
      rfl
  | @connective _ kind left right type kinded first single second =>
      obtain rfl := kinds .connective type
      have known := (named_ok mirror Connective.ofName?_eq_some).mpr kinded
      have leftRead := (formula?_ok mirror).mpr first
      have rightRead := (formula_ok mirror).mpr second
      have admitted : ¬(kind = .not ∧ left.isSome = true) := by
        rintro ⟨negation, some⟩
        rw [single negation] at first
        cases first
        cases some
      simp only [ofFields, known, leftRead, rightRead]
      exact if_neg admitted
  | predicate type named listed each =>
      obtain rfl := kinds .predicate type
      have name := (string_ok mirror).mpr named
      have args := (formulas_ok mirror).mpr ⟨_, listed, each⟩
      simp only [ofFields, name, args]
      rfl
  | @var _ name bound type named flagged =>
      obtain rfl := kinds .var type
      obtain ⟨flag, here, rfl⟩ : ∃ flag : Option Bool,
          v.member? "is_bound" = flag.map .bool ∧ flag.getD false = bound := by
        cases here : v.member? "is_bound" with
        | none =>
            rw [here] at flagged
            exact ⟨none, rfl, Json.bool.inj flagged⟩
        | some member =>
            rw [here] at flagged
            exact ⟨some bound, congrArg some flagged, rfl⟩
      have name := (string_ok mirror).mpr named
      have bound := (flag_ok mirror).mpr here
      simp only [ofFields, name, bound]
      rfl
  | proposition type named flagged =>
      obtain rfl := kinds .proposition type
      have name := (string_ok mirror).mpr named
      have truth := (flag_ok mirror).mpr flagged
      simp only [ofFields, name, truth]
      rfl
  | equation type first second =>
      obtain rfl := kinds .equation type
      have left := (formula_ok mirror).mpr first
      have right := (formula_ok mirror).mpr second
      simp only [ofFields, left, right]
      rfl
  | inequality type kinded first second =>
      obtain rfl := kinds .inequality type
      have kind := (named_ok mirror Comparison.ofName?_eq_some).mpr kinded
      have left := (formula_ok mirror).mpr first
      have right := (formula_ok mirror).mpr second
      simp only [ofFields, kind, left, right]
      rfl
  | function type named listed each =>
      obtain rfl := kinds .function type
      have name := (string_ok mirror).mpr named
      have args := (formulas_ok mirror).mpr ⟨_, listed, each⟩
      simp only [ofFields, name, args]
      rfl
  | premise type =>
      obtain rfl := kinds .premise type
      rfl
  | conclusion type =>
      obtain rfl := kinds .conclusion type
      rfl
  | inference type ruled listed each =>
      obtain rfl := kinds .inference type
      have rule := (named_ok mirror Rule.ofName?_eq_some).mpr ruled
      have premises := (formulas_ok mirror).mpr ⟨_, listed, each⟩
      simp only [ofFields, rule, premises]
      rfl
  | number type valued =>
      obtain rfl := kinds .number type
      have value := (number_ok mirror).mpr ⟨_, valued, rfl⟩
      simp only [ofFields, value]
      rfl
  | text type valued =>
      obtain rfl := kinds .text type
      have value := (string_ok mirror).mpr valued
      simp only [ofFields, value]
      rfl

end

end Fields

/-! ## Reading a value -/

theorem mirror_decodeMembers {members : List (String × Json)} {kind : Kind}
    (type : members.lookup "type" = some (.string kind.name))
    (exact : ∀ member ∈ decodeMembers members, member.2.Exact) :
    Fields.Mirror ⟨kind, decodeMembers members⟩ (.object members) where
  type := type
  member name := by
    change (members.lookup name).filter _ = _
    rw [Fields.present?, lookup_decodeMembers]
    cases members.lookup name with
    | none => rfl
    | some value => cases value <;> rfl
  exact name field present := exact _ (Fields.mem_of_present? present)

theorem type_of_represents {members : List (String × Json)} {f : Formula}
    (represents : Represents (.object members) f) :
    members.lookup "type" = some (.string f.kind.name) := by
  cases represents with
  | quantified type | connective type | predicate type | var type | proposition type
  | equation type | inequality type | function type | premise type | conclusion type
  | inference type | number type | text type => exact type

theorem represents_bare {v : Json} {f : Formula} (untyped : v.get? "type" = none) :
    Represents v f ↔ (∃ x, v = .number x ∧ f = number x.toBinary64) ∨
      ∃ value, v = .string value ∧ f = text value := by
  constructor
  · intro represents
    cases represents with
    | bareNumber x => exact .inl ⟨x, rfl, rfl⟩
    | bareText value => exact .inr ⟨value, rfl, rfl⟩
    | quantified type | connective type | predicate type | var type | proposition type
    | equation type | inequality type | function type | premise type | conclusion type
    | inference type | number type | text type =>
        rw [untyped] at type
        cases type
  · rintro (⟨x, rfl, rfl⟩ | ⟨value, rfl, rfl⟩)
    · exact .bareNumber x
    · exact .bareText value

theorem decode_object_iff {members : List (String × Json)} {f : Formula}
    (exact : ∀ member ∈ decodeMembers members, member.2.Exact) :
    decode (.object members) = .ok f ↔ Represents (.object members) f := by
  constructor
  · intro read
    rw [decode, ofMembers] at read
    split at read
    · cases read
    · rename_i name named
      split at read
      · cases read
      · rename_i kind known
        have type : members.lookup "type" = some (.string kind.name) := by
          rw [lookup_decodeMembers] at named
          obtain ⟨_, found, said⟩ := Option.bind_eq_some_iff.mp named
          obtain ⟨value, here, rfl⟩ := Option.map_eq_some_iff.mp found
          cases value with
          | string value =>
              obtain rfl := Option.some.inj said
              rw [here, (Kind.ofName?_eq_some value kind).mp known]
          | null | bool | number | array | object => cases said
        exact Fields.represents_of_ofFields (mirror_decodeMembers type exact) read
  · intro represents
    have type := type_of_represents represents
    rw [decode_written f.kind type]
    exact Fields.ofFields_of_represents (mirror_decodeMembers type exact) represents

mutual

theorem decode_iff : (v : Json) → ∀ f, decode v = .ok f ↔ Represents v f
  | .object members => fun f => decode_object_iff (exact_decodeMembers members)
  | .number x => fun f => by
    rw [decode, represents_bare rfl]
    simp [eq_comm]
  | .string value => fun f => by
    rw [decode, represents_bare rfl]
    simp [eq_comm]
  | .null | .bool _ | .array _ => fun f => by
    rw [decode, represents_bare rfl]
    simp

theorem decodeList_iff :
    (values : List Json) → ∀ fs, decodeList values = .ok fs ↔ List.Forall₂ Represents values fs
  | [] => fun fs => by
    rw [decodeList, List.forall₂_nil_left_iff, Except.ok.injEq, eq_comm]
  | value :: values => fun fs => by
    have first := decode_iff value
    have rest := decodeList_iff values
    rw [decodeList, List.forall₂_cons_left_iff]
    cases read : decode value with
    | error fault => simp [← first, read]
    | ok f =>
      simp only [← first, ← rest, read, Except.ok.injEq, Except.map_eq_ok]
      constructor
      · rintro ⟨fs', rest, rfl⟩
        exact ⟨f, fs', rfl, rest, rfl⟩
      · rintro ⟨_, fs', rfl, rest, rfl⟩
        exact ⟨fs', rest, rfl⟩

theorem decodeItems_iff : (value : Json) → ∀ items fs, value = .array items →
    (decodeItems value = .ok fs ↔ List.Forall₂ Represents items fs)
  | .array items => by
    rintro _ fs ⟨⟩
    exact decodeList_iff items fs
  | .null | .bool _ | .number _ | .string _ | .object _ => nofun

theorem exact_decodeMembers : (members : List (String × Json)) →
    ∀ member ∈ decodeMembers members, member.2.Exact
  | [] => List.forall_mem_nil _
  | (_, value) :: members =>
    List.forall_mem_cons.mpr ⟨⟨decode_iff value, decodeItems_iff value⟩,
      exact_decodeMembers members⟩

end

theorem isNearest_of_represents {n : Int} {x : Binary64} (inRange : n.natAbs < 2 ^ 64)
    (represents : Represents (.number (.integer n)) (number x)) : x.IsNearest n := by
  rcases (represents_bare rfl).mp represents with ⟨y, ⟨⟩, ⟨⟩⟩ | ⟨value, ⟨⟩, -⟩
  apply Binary64.isNearest_ofInt
  by_cases zero : n.natAbs = 0
  · rw [zero]
    decide
  · exact Nat.lt_trans ((Nat.log2_lt zero).mpr inRange) (by decide)

theorem decode_iff_represents :
    (∀ v f, decode v = .ok f ↔ Represents v f) ∧
    (∀ v, (∃ fault, decode v = .error fault) ↔ ∀ f, ¬Represents v f) ∧
    ∀ (n : Int) (x : Binary64), n.natAbs < 2 ^ 64 →
      Represents (.number (.integer n)) (number x) → x.IsNearest n := by
  refine ⟨decode_iff, fun v => ?_, fun n x => isNearest_of_represents⟩
  simp only [← decode_iff]
  cases decode v <;> simp

theorem decode_iff_represents_halfway :
    Represents (.number (.integer (2 ^ 53 + 1))) (number (.ofInt (2 ^ 53))) ∧
      (Binary64.ofInt (2 ^ 53)).IsNearest (2 ^ 53 + 1) := by
  obtain ⟨reads, -, nearest⟩ := decode_iff_represents
  have rounded : Binary64.ofInt (2 ^ 53 + 1) = .ofInt (2 ^ 53) := by decide +kernel
  have represents : Represents (.number (.integer (2 ^ 53 + 1))) (number (.ofInt (2 ^ 53))) := by
    rw [← reads, ← rounded]
    rfl
  exact ⟨represents, nearest _ _ (by decide) represents⟩

end Formula

end Proofbook
