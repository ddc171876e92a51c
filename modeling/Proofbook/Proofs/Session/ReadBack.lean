import Proofbook.Proofs.Formula.Faithful
import Proofbook.Proofs.Session.Reporting
import Proofbook.Proofs.Session.Source

namespace Proofbook

open Json

/-! ## Answers -/

section

variable {proof : Proof} {t : Theorem} {a : Axiom}

theorem Proof.faithful_toJson (regular : ∀ f ∈ proof.formulas, f.Regular) :
    proof.toJson.Faithful := by
  obtain ⟨steps, justifications⟩ := List.forall_mem_append.mp regular
  have listed {fs : List Formula} (all : ∀ f ∈ fs, f.Regular) :
      (array (Formula.encodeList fs)).Faithful :=
    faithful_encodeList fun f mem => faithful_encode (all f mem)
  apply faithful_object
  · simp [List.lookup_cons]
  · simp [listed steps, listed justifications]

theorem Proof.faithful_summaryJson (proof : Proof) : proof.summaryJson.Faithful := by
  apply faithful_object
  · simp [List.lookup_cons]
  · simp

theorem Theorem.faithful_toJson (regular : ∀ f ∈ t.formulas, f.Regular) : t.toJson.Faithful := by
  simp only [Theorem.formulas, Theorem.stated, List.forall_mem_append, List.forall_mem_cons,
    List.forall_mem_flatMap, Option.mem_toList] at regular
  obtain ⟨⟨⟨statement, hypotheses⟩, conclusion⟩, proof⟩ := regular
  have concluding : (ofOption Formula.encode t.conclusion).Faithful :=
    faithful_ofOption fun c present => faithful_encode (conclusion c present)
  have assuming : (array (Formula.encodeList t.hypotheses)).Faithful :=
    faithful_encodeList fun f mem => faithful_encode (hypotheses f mem)
  have attached : (ofOption Proof.toJson t.proof).Faithful :=
    faithful_ofOption fun proof' present => Proof.faithful_toJson (proof proof' present)
  apply faithful_object
  · simp [List.lookup_cons]
  · simp [concluding, assuming, attached, faithful_encode statement]

theorem Axiom.faithful_toJson (regular : a.statement.Regular) : a.toJson.Faithful := by
  apply faithful_object
  · simp [List.lookup_cons]
  · simp [faithful_encode regular]

end

theorem Truth.Table.faithful_toJson (table : Truth.Table) : table.toJson.Faithful := by
  have row (row : Truth.Row) : row.toJson.Faithful := by
    have values : (array (row.values.map bool)).Faithful :=
      faithful_map fun value _ => faithful_bool value
    apply faithful_object
    · simp [List.lookup_cons]
    · simp [values]
  have names : (array (table.propositions.map string)).Faithful :=
    faithful_map fun name _ => faithful_string name
  have rows : (array (table.rows.map Truth.Row.toJson)).Faithful := faithful_map fun r _ => row r
  apply faithful_object
  · simp [List.lookup_cons]
  · simp [names, rows]

/-! ## Counters -/

namespace Collected

theorem forall_insertMember {holds : Json → Prop} {name : String} {value : Json}
    {members : List (String × Json)} (new : holds value) (old : ∀ m ∈ members, holds m.2) :
    ∀ m ∈ insertMember name value members, holds m.2 := by
  induction members with
  | nil => exact List.forall_mem_singleton.mpr new
  | cons member rest ih =>
      obtain ⟨first, later⟩ := List.forall_mem_cons.mp old
      unfold insertMember
      split
      · exact List.forall_mem_cons.mpr ⟨new, old⟩
      · split
        · exact List.forall_mem_cons.mpr ⟨new, later⟩
        · exact List.forall_mem_cons.mpr ⟨first, ih later⟩

theorem forall_collected {holds : Json → Prop} {events : List Event}
    (each : ∀ key value, .statistic key value ∈ events → holds (measureJson value)) :
    ∀ m ∈ events.foldl add [], holds m.2 := by
  suffices all : ∀ members : List (String × Json), (∀ m ∈ members, holds m.2) →
      ∀ m ∈ events.foldl add members, holds m.2 from all [] (List.forall_mem_nil _)
  induction events with
  | nil => exact fun members old => old
  | cons event rest ih =>
      intro members old
      have later := ih fun key value mem => each key value (List.mem_cons_of_mem event mem)
      apply later
      cases event with
      | statistic key value =>
          exact forall_insertMember (each key value List.mem_cons_self) old
      | _ => exact old

/-- A faithful value that names nothing. -/
def Nameless (value : Json) : Prop := value.Faithful ∧ ∀ text, value ≠ .string text

theorem nameless_measure {value : Measure} (numeric : ∀ text, value ≠ .text text) :
    Nameless (measureJson value) := by
  cases value with
  | integer value =>
      refine ⟨faithful_number _, fun text same => ?_⟩
      cases same
  | decimal value =>
      refine ⟨faithful_ofBinary64 value, fun text => ?_⟩
      rw [measureJson, ofBinary64]
      split <;> simp
  | text value => exact absurd rfl (numeric value)

theorem faithful_object {events : List Event}
    (numeric : ∀ key text, .statistic key (.text text) ∉ events) : (object events).Faithful := by
  have each : ∀ m ∈ events.foldl add [], Nameless m.2 := by
    apply forall_collected
    intro key value mem
    apply nameless_measure
    rintro text rfl
    exact numeric key text mem
  apply Json.faithful_object
  · -- A counter may be called `type`, but then its value is no text.
    intro kind found
    obtain ⟨before, after, split, -⟩ := List.lookup_eq_some_iff.mp found
    exact (each ("type", .string kind.name) (by simp [split])).2 _ rfl
  · exact fun m mem => (each m mem).1

end Collected

theorem Registry.faithful_summaryJson (r : Registry) : r.summaryJson.Faithful := by
  have counters : (Collected.object r.statistics.events).Faithful := by
    apply Collected.faithful_object
    simp [Statistics.events]
  apply faithful_object
  · simp [List.lookup_cons]
  · simp [counters]

/-! ## Outcomes -/

theorem Answer.faithful_toJson {answer : Answer} (regular : ∀ f ∈ answer.formulas, f.Regular) :
    answer.toJson.Faithful := by
  cases answer with
  | foundTheorem found =>
      simp only [Answer.formulas, List.forall_mem_flatMap, Option.mem_toList] at regular
      exact faithful_ofOption fun t present => Theorem.faithful_toJson (regular t present)
  | theoremList theorems =>
      simp only [Answer.formulas, List.forall_mem_flatMap] at regular
      exact faithful_map fun t mem => Theorem.faithful_toJson (regular t mem)
  | addedAxiom added => exact Axiom.faithful_toJson (List.forall_mem_singleton.mp regular)
  | axiomList axioms =>
      exact faithful_map fun a mem => Axiom.faithful_toJson (List.forall_mem_map.mp regular a mem)
  | verdict value => exact faithful_bool value
  | proofSummary proof => exact proof.faithful_summaryJson
  | listing content => exact faithful_string content
  | formula found =>
      simp only [Answer.formulas, Option.mem_toList] at regular
      exact faithful_ofOption fun f present => faithful_encode (regular f present)
  | table content => exact content.faithful_toJson
  | undecidable value =>
      cases value with
      | false => exact faithful_null
      | true =>
          apply faithful_object
          · intro kind
            cases kind <;> simp [Formula.Kind.name]
          · simp
  | summary r => exact r.faithful_summaryJson
  | conflicts pairs =>
      apply faithful_object
      · simp [List.lookup_cons]
      · refine List.forall_mem_cons.mpr ⟨?_, List.forall_mem_singleton.mpr (faithful_bool _)⟩
        exact faithful_map fun pair _ => faithful_array (by simp)

theorem Error.faithful_toJson (fault : Error) : fault.toJson.Faithful := by
  apply faithful_object
  · simp [List.lookup_cons]
  · simp [ofInt]

/-! ## Runs -/

theorem lasting_regular : Formula.Lasting Formula.Regular where
  substituted x regular new := regular.substitute new x
  derived := Formula.regular_derive

theorem regular_request {invocation : Invocation} {request : Request}
    (finite : ∀ arg ∈ invocation.args, arg.HasFiniteNumbers)
    (requested : invocation.request? = some request) : ∀ f ∈ request.formulas, f.Regular := by
  obtain ⟨call, -, reading⟩ := Invocation.reads requested
  intro f mem
  rcases Request.source_of_formulas reading f mem with rfl | ⟨arg, given, value, inside, decoded⟩
  · exact Formula.regular_atom "assumed"
  · exact Formula.regular_of_decode ((finite arg given).part inside) decoded

namespace Session

variable {s : Session}

def IsRegular (s : Session) : Prop := ∀ r, s.registry = some r → r.Holds Formula.Regular

theorem regular_init (config : Config) : (init { config }).IsRegular := by
  rintro _ ⟨⟩
  exact holds_fresh Formula.regular_seeds

theorem IsRegular.perform (regular : s.IsRegular) (time : Nat) {invocation : Invocation}
    (finite : ∀ arg ∈ invocation.args, arg.HasFiniteNumbers) :
    (s.perform time invocation).1.IsRegular ∧
      (outcomeJson (s.perform time invocation).2).Faithful := by
  cases outcome : (s.perform time invocation).2 with
  | error fault =>
      rw [perform_failed outcome]
      exact ⟨regular, fault.faithful_toJson⟩
  | ok answer =>
      obtain ⟨r, r', request, before, requested, performed, after⟩ := perform_ok outcome
      have asked := regular_request finite requested
      have performs := performs_of_ok performed
      have held := regular r before
      rw [after]
      refine ⟨?_, Answer.faithful_toJson (performs.answers lasting_regular held asked)⟩
      rintro _ ⟨⟩
      exact held.performs Formula.regular_seeds asked performs

theorem IsRegular.run (regular : s.IsRegular) {calls : List (Nat × Invocation)}
    (finite : ∀ call ∈ calls, ∀ arg ∈ call.2.args, arg.HasFiniteNumbers) :
    (s.run calls).1.IsRegular ∧
      ∀ outcome ∈ (s.run calls).2, (outcomeJson outcome).Faithful := by
  induction calls generalizing s with
  | nil => exact ⟨regular, List.forall_mem_nil _⟩
  | cons call rest ih =>
      obtain ⟨time, invocation⟩ := call
      obtain ⟨first, later⟩ := List.forall_mem_cons.mp finite
      obtain ⟨regular', faithful⟩ := regular.perform time first
      obtain ⟨regularEnd, rest⟩ := ih regular' later
      rw [run_cons]
      exact ⟨regularEnd, List.forall_mem_cons.mpr ⟨faithful, rest⟩⟩

end Session

theorem read_back (config : Config) (calls : List (Nat × Invocation))
    (finite : ∀ call ∈ calls, ∀ arg ∈ call.2.args, arg.HasFiniteNumbers) :
    (∃ r, ((Session.init { config }).run calls).1.registry = some r ∧
      ∀ f ∈ r.formulas, Formula.decode f.encode = .ok f) ∧
    (∀ outcome ∈ ((Session.init { config }).run calls).2, ∀ f : Formula,
      Part f.encode (outcomeJson outcome) → Formula.decode f.encode = .ok f) ∧
    ∀ (value : Json) (f : Formula), value.HasFiniteNumbers → Formula.decode value = .ok f →
      Formula.decode f.encode = .ok f := by
  obtain ⟨regular, faithful⟩ := (Session.regular_init config).run finite
  refine ⟨?_, faithful, ?_⟩
  · have start : (Session.init { config }).registry = some .fresh := rfl
    obtain ⟨r, present⟩ := Session.registry_run start calls
    refine ⟨r, present, fun f mem => ?_⟩
    have held := holds_iff.mp (regular r present) f mem
    exact (Formula.recovers_encode f).read held
  · intro value f finite decoded
    exact (Formula.recovers_encode f).read (Formula.regular_of_decode finite decoded)

def Session.definesEquation : List (Nat × Invocation) :=
  [(0, ⟨"theorem_define", [.string "t",
    .object [("type", .string "equation"), ("left", .number (.integer 2)),
      ("right", .number (.integer 2))]]⟩)]

theorem read_back_equation :
    ∃ r, ((Session.init { config := {} }).run Session.definesEquation).1.registry = some r ∧
      ∀ f ∈ r.formulas, Formula.decode f.encode = .ok f := by
  have text (value : String) : (string value).HasFiniteNumbers :=
    hasFiniteNumbers_iff.mpr ⟨nofun, List.forall_mem_nil _⟩
  have two : (number (.integer 2)).HasFiniteNumbers := by
    refine hasFiniteNumbers_iff.mpr ⟨?_, List.forall_mem_nil _⟩
    rintro _ ⟨⟩
    decide
  refine (read_back {} Session.definesEquation ?_).1
  refine List.forall_mem_singleton.mpr (List.forall_mem_cons.mpr ⟨text "t", ?_⟩)
  refine List.forall_mem_singleton.mpr (hasFiniteNumbers_iff.mpr ⟨nofun, ?_⟩)
  exact List.forall_mem_cons.mpr ⟨text _, List.forall_mem_cons.mpr
    ⟨two, List.forall_mem_singleton.mpr two⟩⟩

end Proofbook
