import Proofbook.Formula.Decode
import Proofbook.Formula.Encode
import Proofbook.Proofs.Formula.Subformula

/-!
The reader treats every sort of formula on its own, so the proof first says what each reader of a
member gives on an object that was written, and then follows the order in which the members of each
sort are read.
-/

namespace Proofbook

/-! ## Names -/

theorem Quantifier.ofName?_name (kind : Quantifier) : ofName? kind.name = some kind := by
  cases kind <;> rfl

theorem Connective.ofName?_name (kind : Connective) : ofName? kind.name = some kind := by
  cases kind <;> rfl

theorem Comparison.ofName?_name (kind : Comparison) : ofName? kind.name = some kind := by
  cases kind <;> rfl

theorem Rule.ofName?_name (rule : Rule) : ofName? rule.name = some rule := by
  cases rule <;> rfl

namespace Formula

theorem Kind.ofName?_name (kind : Kind) : ofName? kind.name = some kind := by
  cases kind <;> rfl

/-! ## Members of a written object -/

theorem kind_encode (f : Formula) : f.encode.kind = .object := by
  cases f with
  | quantified kind name domain body => cases domain <;> rfl
  | connective kind left right => cases left <;> rfl
  | proposition name truth => cases truth <;> rfl
  | predicate | var | equation | inequality | function | premise | conclusion | inference
  | number | text => rfl

abbrev written (kind : Kind) (members : List (String × Json)) : Fields :=
  ⟨kind, decodeMembers members⟩

section

variable {kind : Kind} {members : List (String × Json)} (name : String)

theorem decode_written (kind : Kind) (h : members.lookup "type" = some (.string kind.name)) :
    decode (.object members) = ofFields (written kind members) := by
  simp only [decode, ofMembers, lookup_decodeMembers, h, Option.map_some, Option.bind_some,
    Json.string?, Kind.ofName?_name]

theorem decode_encode_eq (f : Formula) (kind : Kind) (form : f.encode = .object members)
    (h : members.lookup "type" = some (.string kind.name)) :
    decode f.encode = ofFields (written kind members) := by
  rw [form, decode_written kind h]

theorem present?_written {value : Json} (h : members.lookup name = some value)
    (nonnull : value.kind ≠ .null) :
    (written kind members).present? name = some ⟨value, decode value, decodeItems value⟩ := by
  simp only [Fields.present?, lookup_decodeMembers, h, Option.map_some, if_neg nonnull]

theorem present?_unwritten (h : members.lookup name = none) :
    (written kind members).present? name = none := by
  simp only [Fields.present?, lookup_decodeMembers, h, Option.map_none]

theorem present?_null (h : members.lookup name = some .null) :
    (written kind members).present? name = none := by
  simp only [Fields.present?, lookup_decodeMembers, h, Option.map_some, Json.kind, if_pos]

theorem string_written {value : String} (h : members.lookup name = some (.string value)) :
    (written kind members).string name = .ok value := by
  rw [Fields.string, Fields.required, present?_written name h (by simp [Json.kind])]
  rfl

theorem named_written {α : Type} {value : String} {ofName? : String → Option α} {a : α}
    (h : members.lookup name = some (.string value)) (found : ofName? value = some a) :
    (written kind members).named name ofName? = .ok a := by
  rw [Fields.named, string_written name h]
  simp only [bind, Except.bind, found]

theorem flag_written {value : Bool} (h : members.lookup name = some (.bool value)) :
    (written kind members).flag name = .ok (some value) := by
  rw [Fields.flag, present?_written name h (by simp [Json.kind])]

theorem flag_unwritten (h : members.lookup name = none) :
    (written kind members).flag name = .ok none := by
  rw [Fields.flag, present?_unwritten name h]

theorem formula_written {f : Formula} (h : members.lookup name = some f.encode) :
    (written kind members).formula name = decode f.encode := by
  rw [Fields.formula, Fields.required, present?_written name h (by simp [kind_encode])]
  rfl

theorem formula?_written {f : Formula} (h : members.lookup name = some f.encode) :
    (written kind members).formula? name = (decode f.encode).map some := by
  rw [Fields.formula?, present?_written name h (by simp [kind_encode])]

theorem formula?_unwritten (h : members.lookup name = none) :
    (written kind members).formula? name = .ok none := by
  rw [Fields.formula?, present?_unwritten name h]

theorem formulas_written {fs : List Formula}
    (h : members.lookup name = some (.array (encodeList fs))) :
    (written kind members).formulas name = decodeList (encodeList fs) := by
  rw [Fields.formulas, present?_written name h (by simp [Json.kind])]
  rfl

theorem number_written {x : Binary64} (h : members.lookup name = some (.ofBinary64 x)) :
    (written kind members).number name =
      if x.isFinite then .ok x else .error (.missingField kind name) := by
  rw [Json.ofBinary64] at h
  cases finite : x.isFinite with
  | true =>
      rw [finite, if_pos rfl] at h
      rw [Fields.number, Fields.required, present?_written name h (by simp [Json.kind])]
      rfl
  | false =>
      rw [finite, if_neg (by simp)] at h
      rw [Fields.number, Fields.required, present?_null name h]
      rfl

end

/-! ## What cannot be read back -/

def isIrregular : Formula → Bool
  | connective .not (some _) _ => true
  | number value => !value.isFinite
  | _ => false

def Regular (f : Formula) : Prop := ∀ sub, Subformula sub f → sub.isIrregular = false

theorem regular_iff {f : Formula} :
    f.Regular ↔ f.isIrregular = false ∧ ∀ part ∈ f.children, part.Regular :=
  forall_subformula

/-- What is read is the original if this is regular, and else one of the two faults. -/
structure Recovers {α : Type} (result : Except DecodeError α) (original : α) (regular : Prop) :
    Prop where
  read : regular → result = .ok original
  refused : ¬regular →
    result = .error .negationWithLeft ∨ result = .error (.missingField .number "value")

namespace Recovers

variable {α β : Type} {result : Except DecodeError α} {original : α} {regular : Prop}

theorem of_ok (h : result = .ok original) (all : regular) : Recovers result original regular :=
  ⟨fun _ => h, fun irregular => absurd all irregular⟩

theorem congr (h : Recovers result original regular) {regular' : Prop}
    (iff : regular ↔ regular') : Recovers result original regular' :=
  ⟨fun all => h.read (iff.mpr all), fun irregular => h.refused (mt iff.mp irregular)⟩

theorem bind (h : Recovers result original regular) {next : α → Except DecodeError β} {b : β}
    {regular' : Prop} (hnext : Recovers (next original) b regular') :
    Recovers (result >>= next) b (regular ∧ regular') := by
  constructor
  · rintro ⟨first, second⟩
    rw [h.read first]
    exact hnext.read second
  · intro irregular
    by_cases first : regular
    · rw [h.read first]
      exact hnext.refused fun second => irregular ⟨first, second⟩
    · rcases h.refused first with fault | fault <;> rw [fault]
      · exact Or.inl rfl
      · exact Or.inr rfl

theorem map (h : Recovers result original regular) (f : α → β) :
    Recovers (result.map f) (f original) regular := by
  constructor
  · intro all
    rw [h.read all]
    rfl
  · intro irregular
    rcases h.refused irregular with fault | fault <;> rw [fault]
    · exact Or.inl rfl
    · exact Or.inr rfl

end Recovers

/-! ## Sort by sort -/

theorem recovers_list {fs : List Formula}
    (parts : ∀ f ∈ fs, Recovers (decode f.encode) f f.Regular) :
    Recovers (decodeList (encodeList fs)) fs (∀ f ∈ fs, f.Regular) := by
  induction fs with
  | nil => exact .of_ok rfl (by simp)
  | cons f fs ih =>
      have first := parts f List.mem_cons_self
      have rest := (ih fun g mem => parts g (List.mem_cons_of_mem f mem)).map (f :: ·)
      have both : decodeList (encodeList (f :: fs)) = (do
          let g ← decode f.encode
          (decodeList (encodeList fs)).map (g :: ·)) := by
        rw [encodeList, decodeList]
        cases decode f.encode <;> rfl
      rw [both]
      exact (first.bind rest).congr (by simp)

abbrev PartsRecover (f : Formula) : Prop :=
  ∀ part ∈ f.children, Recovers (decode part.encode) part part.Regular

theorem recovers_quantified {kind : Quantifier} {name : String} {domain : Option Formula}
    {body : Formula} (parts : PartsRecover (quantified kind name domain body)) :
    Recovers (decode (quantified kind name domain body).encode) (quantified kind name domain body)
      (quantified kind name domain body).Regular := by
  have hbody := parts body (by simp [children])
  cases domain with
  | none =>
      have reading : decode (quantified kind name none body).encode =
          (decode body.encode).map (quantified kind name none) := by
        rw [decode_encode_eq (quantified kind name none body) .quantifier rfl rfl, ofFields,
          named_written "quantifier_type" rfl (Quantifier.ofName?_name kind),
          string_written "variable" rfl, formula?_unwritten "domain" rfl,
          formula_written "body" rfl]
        rfl
      rw [reading, regular_iff]
      exact (hbody.map _).congr (by simp [isIrregular, children])
  | some domain =>
      have hdomain := parts domain (by simp [children])
      have reading : decode (quantified kind name (some domain) body).encode = (do
          let domain ← (decode domain.encode).map some
          (decode body.encode).map (quantified kind name domain)) := by
        rw [decode_encode_eq (quantified kind name (some domain) body) .quantifier rfl rfl,
          ofFields, named_written "quantifier_type" rfl (Quantifier.ofName?_name kind),
          string_written "variable" rfl, formula?_written "domain" rfl,
          formula_written "body" rfl]
        rfl
      rw [reading, regular_iff]
      exact ((hdomain.map some).bind (hbody.map _)).congr (by simp [isIrregular, children])

theorem recovers_connective {kind : Connective} {left : Option Formula} {right : Formula}
    (parts : PartsRecover (connective kind left right)) :
    Recovers (decode (connective kind left right).encode) (connective kind left right)
      (connective kind left right).Regular := by
  have hright := parts right (by simp [children])
  cases left with
  | none =>
      have reading : decode (connective kind none right).encode =
          (decode right.encode).map (connective kind none) := by
        rw [decode_encode_eq (connective kind none right) .connective rfl rfl, ofFields,
          named_written "connective_type" rfl (Connective.ofName?_name kind),
          formula?_unwritten "left" rfl, formula_written "right" rfl]
        cases kind <;> rfl
      rw [reading, regular_iff]
      exact (hright.map _).congr (by cases kind <;> simp [isIrregular, children])
  | some left =>
      have hleft := parts left (by simp [children])
      have reading : decode (connective kind (some left) right).encode = (do
          let left ← (decode left.encode).map some
          if kind = .not then .error .negationWithLeft
          else (decode right.encode).map (connective kind left)) := by
        rw [decode_encode_eq (connective kind (some left) right) .connective rfl rfl, ofFields,
          named_written "connective_type" rfl (Connective.ofName?_name kind),
          formula?_written "left" rfl, formula_written "right" rfl]
        cases decode left.encode <;> cases kind <;> rfl
      rw [reading]
      by_cases negation : kind = .not
      · subst negation
        -- The left operand is read before it is refused, so its own faults come first.
        have refused : Recovers (.error .negationWithLeft) (connective .not (some left) right)
            False := ⟨False.elim, fun _ => Or.inl rfl⟩
        rw [regular_iff]
        exact ((hleft.map some).bind refused).congr (by simp [isIrregular])
      · simp only [if_neg negation]
        rw [regular_iff]
        exact ((hleft.map some).bind (hright.map _)).congr
          (by cases kind <;> simp_all [isIrregular, children])

theorem recovers_of_children {f : Formula} (build : List Formula → Formula)
    (reading : decode f.encode = (decodeList (encodeList f.children)).map build)
    (rebuilt : build f.children = f) (plain : f.isIrregular = false) (parts : PartsRecover f) :
    Recovers (decode f.encode) f f.Regular := by
  have whole := (recovers_list parts).map build
  rw [rebuilt] at whole
  rw [reading, regular_iff]
  exact whole.congr (by simp [plain])

theorem recovers_predicate {name : String} {args : List Formula}
    (parts : PartsRecover (predicate name args)) :
    Recovers (decode (predicate name args).encode) (predicate name args)
      (predicate name args).Regular := by
  apply recovers_of_children (predicate name) _ rfl rfl parts
  rw [decode_encode_eq (predicate name args) .predicate rfl rfl, ofFields,
    string_written "name" rfl, formulas_written "args" rfl]
  rfl

theorem recovers_function {name : String} {args : List Formula}
    (parts : PartsRecover (function name args)) :
    Recovers (decode (function name args).encode) (function name args)
      (function name args).Regular := by
  apply recovers_of_children (function name) _ rfl rfl parts
  rw [decode_encode_eq (function name args) .function rfl rfl, ofFields,
    string_written "name" rfl, formulas_written "args" rfl]
  rfl

theorem recovers_inference {rule : Rule} {premises : List Formula}
    (parts : PartsRecover (inference rule premises)) :
    Recovers (decode (inference rule premises).encode) (inference rule premises)
      (inference rule premises).Regular := by
  apply recovers_of_children (inference rule) _ rfl rfl parts
  rw [decode_encode_eq (inference rule premises) .inference rfl rfl, ofFields,
    named_written "rule" rfl (Rule.ofName?_name rule), formulas_written "premises" rfl]
  rfl

theorem recovers_of_two {f left right : Formula} (build : Formula → Formula → Formula)
    (reading : decode f.encode = (do
      let left ← decode left.encode
      (decode right.encode).map (build left)))
    (rebuilt : build left right = f) (plain : f.isIrregular = false)
    (two : f.children = [left, right]) (parts : PartsRecover f) :
    Recovers (decode f.encode) f f.Regular := by
  have hleft := parts left (by simp [two])
  have hright := (parts right (by simp [two])).map (build left)
  rw [rebuilt] at hright
  rw [reading, regular_iff]
  exact (hleft.bind hright).congr (by simp [plain, two])

theorem recovers_equation {left right : Formula} (parts : PartsRecover (equation left right)) :
    Recovers (decode (equation left right).encode) (equation left right)
      (equation left right).Regular := by
  apply recovers_of_two equation _ rfl rfl rfl parts
  rw [decode_encode_eq (equation left right) .equation rfl rfl, ofFields,
    formula_written "left" rfl, formula_written "right" rfl]
  rfl

theorem recovers_inequality {kind : Comparison} {left right : Formula}
    (parts : PartsRecover (inequality kind left right)) :
    Recovers (decode (inequality kind left right).encode) (inequality kind left right)
      (inequality kind left right).Regular := by
  apply recovers_of_two (inequality kind) _ rfl rfl rfl parts
  rw [decode_encode_eq (inequality kind left right) .inequality rfl rfl, ofFields,
    named_written "inequality_type" rfl (Comparison.ofName?_name kind),
    formula_written "left" rfl, formula_written "right" rfl]
  rfl

theorem recovers_number {value : Binary64} :
    Recovers (decode (number value).encode) (number value) (number value).Regular := by
  have reading : decode (number value).encode =
      (if value.isFinite then .ok (number value) else .error (.missingField .number "value")) := by
    rw [decode_encode_eq (number value) .number rfl rfl, ofFields, number_written "value" rfl]
    cases value.isFinite <;> rfl
  rw [reading, regular_iff]
  cases finite : value.isFinite with
  | true => exact .of_ok rfl (by simp [isIrregular, children, finite])
  | false => exact ⟨by simp [isIrregular, finite], fun _ => Or.inr rfl⟩

theorem recovers_encode (f : Formula) : Recovers (decode f.encode) f f.Regular := by
  induction f using inductionOnParts with
  | step f parts =>
      cases f with
      | quantified kind name domain body => exact recovers_quantified parts
      | connective kind left right => exact recovers_connective parts
      | predicate name args => exact recovers_predicate parts
      | function name args => exact recovers_function parts
      | inference rule premises => exact recovers_inference parts
      | equation left right => exact recovers_equation parts
      | inequality kind left right => exact recovers_inequality parts
      | number value => exact recovers_number
      | var name bound =>
          refine .of_ok ?_ (regular_iff.mpr (by simp [isIrregular, children]))
          rw [decode_encode_eq (var name bound) .var rfl rfl, ofFields,
            string_written "name" rfl, flag_written "is_bound" rfl]
          rfl
      | proposition name truth =>
          refine .of_ok ?_ (regular_iff.mpr (by simp [isIrregular, children]))
          cases truth with
          | none =>
              rw [decode_encode_eq (proposition name none) .proposition rfl rfl, ofFields,
                string_written "name" rfl, flag_unwritten "truth" rfl]
              rfl
          | some truth =>
              rw [decode_encode_eq (proposition name (some truth)) .proposition rfl rfl, ofFields,
                string_written "name" rfl, flag_written "truth" rfl]
              rfl
      | premise => exact .of_ok rfl (regular_iff.mpr (by simp [isIrregular, children]))
      | conclusion => exact .of_ok rfl (regular_iff.mpr (by simp [isIrregular, children]))
      | text value =>
          refine .of_ok ?_ (regular_iff.mpr (by simp [isIrregular, children]))
          rw [decode_encode_eq (text value) .text rfl rfl, ofFields, string_written "value" rfl]
          rfl

/-! ## The statement -/

theorem decode_encode_iff (f : Formula) :
    ((∃ g, decode f.encode = .ok g) ↔ ∀ sub, Subformula sub f → sub.isIrregular = false) ∧
      (∀ g, decode f.encode = .ok g → g = f) ∧
      ∀ fault, decode f.encode = .error fault →
        fault = .negationWithLeft ∨ fault = .missingField .number "value" := by
  have recovers := recovers_encode f
  by_cases regular : f.Regular
  · have read := recovers.read regular
    refine ⟨⟨fun _ => regular, fun _ => ⟨f, read⟩⟩, ?_, ?_⟩
    · intro g h
      exact (Except.ok.inj (read.symm.trans h)).symm
    · intro fault h
      cases read.symm.trans h
  · have refused := recovers.refused regular
    refine ⟨⟨?_, fun all => absurd all regular⟩, ?_, ?_⟩
    · rintro ⟨g, h⟩
      rcases refused with fault | fault <;> cases fault.symm.trans h
    · intro g h
      rcases refused with fault | fault <;> cases fault.symm.trans h
    · intro fault h
      exact refused.imp (fun e => (Except.error.inj (e.symm.trans h)).symm)
        fun e => (Except.error.inj (e.symm.trans h)).symm

end Formula

end Proofbook
