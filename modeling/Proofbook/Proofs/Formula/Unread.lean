import Mathlib.Logic.Relation
import Proofbook.Proofs.Formula.RoundTrip

/-!
Each reader of a member looks at a field in one way, and none of them tells two objects or two
arrays apart otherwise than by what was read from them (`Field.Alike`). So readings agree when the
members that the sort reads are alike (`ofFields_congr`), and one change leaves them alike.
-/

namespace Proofbook.Formula

/-! ## What is read -/

namespace Kind

def plainMembers : Kind → List String
  | quantifier => ["quantifier_type", "variable"]
  | connective => ["connective_type"]
  | inequality => ["inequality_type"]
  | predicate | function => ["name"]
  | var => ["name", "is_bound"]
  | proposition => ["name", "truth"]
  | inference => ["rule"]
  | number | text => ["value"]
  | equation | premise | conclusion => []

def formulaMembers : Kind → List String
  | quantifier => ["domain", "body"]
  | connective | equation | inequality => ["left", "right"]
  | predicate | var | proposition | function | premise | conclusion | inference | number
  | text => []

def listMembers : Kind → List String
  | predicate | function => ["args"]
  | inference => ["premises"]
  | quantifier | connective | var | proposition | equation | inequality | premise | conclusion
  | number | text => []

def members (kind : Kind) : List String :=
  kind.plainMembers ++ kind.formulaMembers ++ kind.listMembers

theorem ne_type_of_mem {kind : Kind} {name : String} (mem : name ∈ kind.members) :
    name ≠ "type" := by
  rintro rfl
  revert mem
  cases kind <;> decide

end Kind

def sort? (value : Json) : Option Kind :=
  ((value.get? "type").bind Json.string?).bind Kind.ofName?

def AgreeExcept (name : String) (members members' : List (String × Json)) : Prop :=
  ∀ other, other ≠ name → members.lookup other = members'.lookup other

/--
One change that does not matter: a member that is not read is added, removed or changed, a member
that is `null` is added or removed, or there is such a change inside a part.
-/
inductive Immaterial : Json → Json → Prop where
  | unread {name : String} {members members' : List (String × Json)}
      (elsewhere : AgreeExcept name members members') (notType : name ≠ "type")
      (unread : ∀ kind, sort? (.object members) = some kind → name ∉ kind.members) :
      Immaterial (.object members) (.object members')
  | null {name : String} {members members' : List (String × Json)}
      (elsewhere : AgreeExcept name members members')
      (before : members.lookup name = none ∨ members.lookup name = some .null)
      (after : members'.lookup name = none ∨ members'.lookup name = some .null) :
      Immaterial (.object members) (.object members')
  | member {name : String} {members members' : List (String × Json)} {kind : Kind} {v w : Json}
      (elsewhere : AgreeExcept name members members')
      (sort : sort? (.object members) = some kind) (position : name ∈ kind.formulaMembers)
      (before : members.lookup name = some v) (after : members'.lookup name = some w)
      (inside : Immaterial v w) : Immaterial (.object members) (.object members')
  | item {name : String} {members members' : List (String × Json)} {kind : Kind} {v w : Json}
      {front back : List Json} (elsewhere : AgreeExcept name members members')
      (sort : sort? (.object members) = some kind) (position : name ∈ kind.listMembers)
      (before : members.lookup name = some (.array (front ++ v :: back)))
      (after : members'.lookup name = some (.array (front ++ w :: back)))
      (inside : Immaterial v w) : Immaterial (.object members) (.object members')

/-! ## Readers of members -/

inductive Field.Alike : Field → Field → Prop where
  | same (field : Field) : Alike field field
  | objects {members members' : List (String × Json)} {formula : Except DecodeError Formula}
      {formulas formulas' : Except DecodeError (List Formula)} :
      Alike ⟨.object members, formula, formulas⟩ ⟨.object members', formula, formulas'⟩
  | arrays {items items' : List Json} {formula : Except DecodeError Formula}
      {formulas : Except DecodeError (List Formula)} :
      Alike ⟨.array items, formula, formulas⟩ ⟨.array items', formula, formulas⟩

namespace Fields

section

variable {kind : Kind} {members members' : List (String × Field)} {name : String}

def AlikeAt (kind : Kind) (members members' : List (String × Field)) (name : String) : Prop :=
  (present? ⟨kind, members⟩ name = none ∧ present? ⟨kind, members'⟩ name = none) ∨
    ∃ field field', present? ⟨kind, members⟩ name = some field ∧
      present? ⟨kind, members'⟩ name = some field' ∧ field.Alike field'

variable (alike : AlikeAt kind members members' name)
include alike

theorem bind_required_congr {α : Type} {next : Field → Except DecodeError α}
    (same : ∀ field field', Field.Alike field field' → next field = next field') :
    required ⟨kind, members⟩ name >>= next = required ⟨kind, members'⟩ name >>= next := by
  rcases alike with ⟨before, after⟩ | ⟨field, field', before, after, alike⟩
  · simp only [required, before, after]
  · simp only [required, before, after]
    exact same field field' alike

theorem string_congr : string ⟨kind, members⟩ name = string ⟨kind, members'⟩ name :=
  bind_required_congr alike fun _ _ alike => by cases alike <;> rfl

theorem number_congr : number ⟨kind, members⟩ name = number ⟨kind, members'⟩ name :=
  bind_required_congr alike fun _ _ alike => by cases alike <;> rfl

theorem formula_congr : formula ⟨kind, members⟩ name = formula ⟨kind, members'⟩ name :=
  bind_required_congr alike fun _ _ alike => by cases alike <;> rfl

theorem named_congr {α : Type} (ofName? : String → Option α) :
    named ⟨kind, members⟩ name ofName? = named ⟨kind, members'⟩ name ofName? := by
  rw [named, named, string_congr alike]

theorem flag_congr : flag ⟨kind, members⟩ name = flag ⟨kind, members'⟩ name := by
  rcases alike with ⟨before, after⟩ | ⟨field, field', before, after, alike⟩
  · simp only [flag, before, after]
  · simp only [flag, before, after]
    cases alike <;> rfl

theorem formula?_congr : formula? ⟨kind, members⟩ name = formula? ⟨kind, members'⟩ name := by
  rcases alike with ⟨before, after⟩ | ⟨field, field', before, after, alike⟩
  · simp only [formula?, before, after]
  · simp only [formula?, before, after]
    cases alike <;> rfl

theorem formulas_congr : formulas ⟨kind, members⟩ name = formulas ⟨kind, members'⟩ name := by
  rcases alike with ⟨before, after⟩ | ⟨field, field', before, after, alike⟩
  · simp only [formulas, before, after]
  · simp only [formulas, before, after]
    cases alike <;> rfl

end

theorem ofFields_congr {kind : Kind} {members members' : List (String × Field)}
    (alike : ∀ name ∈ kind.members, AlikeAt kind members members' name) :
    ofFields ⟨kind, members⟩ = ofFields ⟨kind, members'⟩ := by
  cases kind with
  | quantifier =>
      have kind := named_congr (alike "quantifier_type" (by decide)) Quantifier.ofName?
      have name := string_congr (alike "variable" (by decide))
      have domain := formula?_congr (alike "domain" (by decide))
      have body := formula_congr (alike "body" (by decide))
      simp only [ofFields, kind, name, domain, body]
  | connective =>
      have kind := named_congr (alike "connective_type" (by decide)) Connective.ofName?
      have left := formula?_congr (alike "left" (by decide))
      have right := formula_congr (alike "right" (by decide))
      simp only [ofFields, kind, left, right]
  | predicate | function =>
      have name := string_congr (alike "name" (by decide))
      have args := formulas_congr (alike "args" (by decide))
      simp only [ofFields, name, args]
  | var =>
      have name := string_congr (alike "name" (by decide))
      have bound := flag_congr (alike "is_bound" (by decide))
      simp only [ofFields, name, bound]
  | proposition =>
      have name := string_congr (alike "name" (by decide))
      have truth := flag_congr (alike "truth" (by decide))
      simp only [ofFields, name, truth]
  | equation =>
      have left := formula_congr (alike "left" (by decide))
      have right := formula_congr (alike "right" (by decide))
      simp only [ofFields, left, right]
  | inequality =>
      have kind := named_congr (alike "inequality_type" (by decide)) Comparison.ofName?
      have left := formula_congr (alike "left" (by decide))
      have right := formula_congr (alike "right" (by decide))
      simp only [ofFields, kind, left, right]
  | premise | conclusion => rfl
  | inference =>
      have rule := named_congr (alike "rule" (by decide)) Rule.ofName?
      have premises := formulas_congr (alike "premises" (by decide))
      simp only [ofFields, rule, premises]
  | number =>
      have value := number_congr (alike "value" (by decide))
      simp only [ofFields, value]
  | text =>
      have value := string_congr (alike "value" (by decide))
      simp only [ofFields, value]

end Fields

/-! ## One change -/

section

variable {kind : Kind} {members members' : List (String × Json)} {name : String} {v w : Json}

theorem alikeAt_of_lookup_eq (same : members.lookup name = members'.lookup name) :
    Fields.AlikeAt kind (decodeMembers members) (decodeMembers members') name := by
  have present : (written kind members).present? name = (written kind members').present? name := by
    simp only [Fields.present?, lookup_decodeMembers, same]
  cases there : (written kind members').present? name with
  | none => exact .inl ⟨present.trans there, there⟩
  | some field => exact .inr ⟨field, field, present.trans there, there, .same field⟩

theorem present?_void (void : members.lookup name = none ∨ members.lookup name = some .null) :
    (written kind members).present? name = none := by
  rcases void with absent | null
  · exact present?_unwritten name absent
  · exact present?_null name null

theorem alikeAt_of_alike (before : members.lookup name = some v)
    (after : members'.lookup name = some w) (nonnull : v.kind ≠ .null) (nonnull' : w.kind ≠ .null)
    (alike : Field.Alike ⟨v, decode v, decodeItems v⟩ ⟨w, decode w, decodeItems w⟩) :
    Fields.AlikeAt kind (decodeMembers members) (decodeMembers members') name :=
  .inr ⟨_, _, present?_written name before nonnull, present?_written name after nonnull', alike⟩

theorem decode_object_congr
    (type : (members.lookup "type").bind Json.string? = (members'.lookup "type").bind Json.string?)
    (alike : ∀ kind, sort? (.object members) = some kind → ∀ name ∈ kind.members,
      Fields.AlikeAt kind (decodeMembers members) (decodeMembers members') name) :
    decode (.object members) = decode (.object members') := by
  have named (members : List (String × Json)) :
      ((decodeMembers members).lookup "type").bind (·.value.string?) =
        (members.lookup "type").bind Json.string? := by
    rw [lookup_decodeMembers]
    cases members.lookup "type" <;> rfl
  rw [decode, decode, ofMembers, ofMembers, named, named, ← type]
  cases said : (members.lookup "type").bind Json.string? with
  | none => rfl
  | some name =>
      cases known : Kind.ofName? name with
      | none => simp only [known]
      | some kind =>
          have sort : sort? (.object members) = some kind := by
            change ((members.lookup "type").bind Json.string?).bind Kind.ofName? = some kind
            rw [said, Option.bind_some, known]
          simp only [known]
          exact Fields.ofFields_congr (alike kind sort)

theorem decode_congr_at (elsewhere : AgreeExcept name members members')
    (type : name = "type" →
      (members.lookup name).bind Json.string? = (members'.lookup name).bind Json.string?)
    (here : ∀ kind, sort? (.object members) = some kind → name ∈ kind.members →
      Fields.AlikeAt kind (decodeMembers members) (decodeMembers members') name) :
    decode (.object members) = decode (.object members') := by
  refine decode_object_congr ?_ fun kind sort other mem => ?_
  · by_cases same : "type" = name
    · rw [same]
      exact type same.symm
    · rw [elsewhere "type" same]
  · by_cases same : other = name
    · subst same
      exact here kind sort mem
    · exact alikeAt_of_lookup_eq (elsewhere other same)

theorem decodeList_congr (front back : List Json) (same : decode v = decode w) :
    decodeList (front ++ v :: back) = decodeList (front ++ w :: back) := by
  induction front with
  | nil => simp only [List.nil_append, decodeList, same]
  | cons first front ih => simp only [List.cons_append, decodeList, ih]

end

theorem string?_void {found : Option Json} (void : found = none ∨ found = some .null) :
    found.bind Json.string? = none := by
  rcases void with rfl | rfl <;> rfl

theorem Immaterial.objects {v w : Json} (change : Immaterial v w) :
    ∃ members members', v = .object members ∧ w = .object members' := by
  cases change <;> exact ⟨_, _, rfl, rfl⟩

theorem decode_eq_of_immaterial {v w : Json} (change : Immaterial v w) : decode v = decode w := by
  -- By induction on the depth of the change. Where it is made, the fields are alike.
  induction change with
  | unread elsewhere notType unread =>
      refine decode_congr_at elsewhere (fun same => absurd same notType) fun kind sort mem => ?_
      exact absurd mem (unread kind sort)
  | null elsewhere before after =>
      refine decode_congr_at elsewhere (fun _ => ?_) fun kind sort mem => ?_
      · rw [string?_void before, string?_void after]
      · exact .inl ⟨present?_void before, present?_void after⟩
  | @member name _ _ kind _ _ elsewhere sort position before after inside ih =>
      obtain ⟨inner, inner', rfl, rfl⟩ := inside.objects
      have read : name ∈ kind.members := by simp [Kind.members, position]
      refine decode_congr_at elsewhere (fun same => absurd same (Kind.ne_type_of_mem read))
        fun kind sort mem => ?_
      refine alikeAt_of_alike before after nofun nofun ?_
      rw [ih]
      exact .objects
  | @item name _ _ kind _ _ front back elsewhere sort position before after _ ih =>
      have read : name ∈ kind.members := by simp [Kind.members, position]
      refine decode_congr_at elsewhere (fun same => absurd same (Kind.ne_type_of_mem read))
        fun kind sort mem => ?_
      refine alikeAt_of_alike before after nofun nofun ?_
      simp only [decode, decodeItems, decodeList_congr front back ih]
      exact .arrays

theorem decode_eq_of_changes {v w : Json} (changes : Relation.ReflTransGen Immaterial v w) :
    decode v = decode w := by
  induction changes with
  | refl => rfl
  | tail _ change ih => exact ih.trans (decode_eq_of_immaterial change)

/-! ## Every member that is listed is read -/

def specimen : Kind → Formula
  | .quantifier => forAll "x" (text "")
  | .connective => conjunction (text "") (text "")
  | .predicate => predicate "P" []
  | .var => var "x" false
  | .proposition => atom "P"
  | .equation => equation (text "") (text "")
  | .inequality => inequality .less (text "") (text "")
  | .premise => premise
  | .conclusion => conclusion
  | .function => function "f" []
  | .inference => inference .postulate []
  | .number => number .zero
  | .text => text ""

theorem specimen_changes (kind : Kind) : ∀ name ∈ kind.members, ∃ members,
    (specimen kind).encode = .object members ∧ sort? (.object members) = some kind ∧
      decode (.object members) ≠ decode (.object ((name, .bool true) :: members)) := by
  cases kind <;> simp only [Kind.members, Kind.plainMembers, Kind.formulaMembers,
    Kind.listMembers, List.cons_append, List.nil_append, List.append_nil, List.forall_mem_cons]
  case quantifier =>
    exact ⟨⟨_, rfl, rfl, nofun⟩, ⟨_, rfl, rfl, nofun⟩, ⟨_, rfl, rfl, nofun⟩,
      ⟨_, rfl, rfl, nofun⟩, List.forall_mem_nil _⟩
  case connective | inequality =>
    exact ⟨⟨_, rfl, rfl, nofun⟩, ⟨_, rfl, rfl, nofun⟩, ⟨_, rfl, rfl, nofun⟩,
      List.forall_mem_nil _⟩
  case predicate | var | proposition | equation | function | inference =>
    exact ⟨⟨_, rfl, rfl, nofun⟩, ⟨_, rfl, rfl, nofun⟩, List.forall_mem_nil _⟩
  case number | text => exact ⟨⟨_, rfl, rfl, nofun⟩, List.forall_mem_nil _⟩
  case premise | conclusion => exact List.forall_mem_nil _

theorem agreeExcept_cons (name : String) (value : Json) (members : List (String × Json)) :
    AgreeExcept name members ((name, value) :: members) := by
  intro other differ
  rw [List.lookup_cons, beq_false_of_ne differ]

theorem reading_ignores_unread :
    (∀ v w : Json, Relation.ReflTransGen Immaterial v w → decode v = decode w) ∧
    ∀ kind : Kind, ∀ name ∈ kind.members, ∃ members members',
      AgreeExcept name members members' ∧ sort? (.object members) = some kind ∧
        decode (.object members) ≠ decode (.object members') := by
  refine ⟨fun v w => decode_eq_of_changes, fun kind name mem => ?_⟩
  obtain ⟨members, -, sort, differ⟩ := specimen_changes kind name mem
  exact ⟨members, _, agreeExcept_cons name (.bool true) members, sort, differ⟩

theorem reading_ignores_unread_justification :
    let arg (more : List (String × Json)) : Json :=
      .object (("type", .string "variable") :: ("name", .string "x") :: more)
    let step (arg : Json) (more : List (String × Json)) : Json :=
      .object (("type", .string "predicate") :: ("name", .string "P") :: ("args", .array [arg]) ::
        more)
    let plain := step (arg []) []
    let justified := step (arg [("is_bound", .null)]) [("justification", .string "given")]
    Relation.ReflTransGen Immaterial plain justified ∧
      decode plain = .ok (predicate "P" [var "x" false]) ∧ decode justified = decode plain ∧
      "args" ∈ Kind.members .predicate ∧ ∃ members members',
        AgreeExcept "args" members members' ∧ sort? (.object members) = some .predicate ∧
          decode (.object members) ≠ decode (.object members') := by
  intro arg step plain justified
  have flagged : Immaterial (arg []) (arg [("is_bound", .null)]) := by
    refine @Immaterial.null "is_bound" _ _ (fun other differ => ?_) (.inl rfl) (.inr rfl)
    simp [List.lookup_cons, beq_false_of_ne differ]
  have inside : Immaterial plain (step (arg [("is_bound", .null)]) []) := by
    refine @Immaterial.item "args" _ _ .predicate _ _ [] [] (fun other differ => ?_) rfl
      (by decide) rfl rfl flagged
    simp [List.lookup_cons, beq_false_of_ne differ]
  have outside : Immaterial (step (arg [("is_bound", .null)]) []) justified := by
    refine @Immaterial.unread "justification" _ _ (fun other differ => ?_) (by decide)
      fun kind sort => ?_
    · simp [List.lookup_cons, beq_false_of_ne differ]
    · obtain rfl : Kind.predicate = kind := Option.some.inj sort
      decide
  have changes : Relation.ReflTransGen Immaterial plain justified := .tail (.single inside) outside
  have listed : "args" ∈ Kind.members .predicate := by decide
  exact ⟨changes, rfl, (reading_ignores_unread.1 _ _ changes).symm, listed,
    reading_ignores_unread.2 .predicate "args" listed⟩

end Proofbook.Formula
