import Proofbook.Proofs.Session.Proven
import Proofbook.Proofs.Session.Reachable
import Proofbook.Proofs.Session.Reporting
import Proofbook.Proofs.Truth.Entailment

namespace Proofbook

open Registry

/-! ## Attached proofs -/

def Registry.Attested (r : Registry) : Prop :=
  ∀ t ∈ r.theorems.items, t.proof.isSome = true → t.isProven = true

theorem Registry.attested_fresh : fresh.Attested := List.forall_mem_nil _

theorem Effect.attested {time : Nat} {r r' : Registry} {request : Request} {answer : Answer}
    (effect : Effect time r r' request answer) (attested : r.Attested) : r'.Attested := by
  unfold Registry.Attested
  cases effect with
  | quiet _ theorems => rw [theorems]; exact attested
  | defined _ _ theorems =>
      rw [theorems]
      apply Store.forall_insert attested
      nofun
  | verified _ theorems =>
      rw [theorems]
      split
      · exact Store.forall_modify attested (fun _ _ _ => rfl) _
      · exact attested
  | extended _ theorems => rw [theorems]; exact attested
  | checked _ _ _ theorems =>
      rw [theorems]
      split
      · exact Store.forall_modify attested (fun _ _ _ => rfl) _
      · exact attested
  | reset anew => rw [anew]; exact Registry.attested_fresh

theorem Session.Reachable.attested {s : Session} (reachable : s.Reachable) :
    ∀ r, s.registry = some r → r.Attested :=
  reachable.holds Registry.attested_fresh fun performed attested =>
    (perform_effect performed).attested attested

/-! ## One verification -/

def Theorem.judge (t : Theorem) : Theorem := { t with isProven := t.isProven || t.isEntailed }

namespace Registry

variable {r : Registry} {name : String} {t : Theorem}

theorem verifyTheorem_eq (sound : r.Sound) (attested : r.Attested)
    (found : r.theorems.get? name = some t) :
    verifyTheorem name r =
      .ok true { r with theorems := r.theorems.modify name Theorem.judge } := by
  have mem := Store.mem_of_get? found
  have known := sound.each t mem
  apply verifyTheorem_ok.mpr
  refine ⟨t, found, known.admissible.symm, ?_⟩
  rw [known.valid_iff, Bool.true_and]
  cases entailed : t.isEntailed with
  | true =>
      have marked : t.judge = t.markProven := by
        unfold Theorem.judge
        rw [entailed, Bool.or_true]
        rfl
      rw [Bool.or_true, if_pos rfl, Store.modify_congr found marked]
  | false =>
      have same : t.judge = t := by
        unfold Theorem.judge
        rw [entailed, Bool.or_false]
      rw [Bool.or_false, Store.modify_eq_self found same]
      split
      · -- An attached proof has set the flag before.
        have proven := attested t mem ‹_›
        have marked : t.markProven = t := by
          unfold Theorem.markProven
          rw [← proven]
        rw [Store.modify_eq_self found marked]
      · rfl

end Registry

/-! ## Verifications in a session -/

namespace Session

variable {s : Session} {name : String} {t : Theorem}

def judging (s : Session) (name : String) : Session :=
  { s with registry := s.registry.map fun r =>
      { r with theorems := r.theorems.modify name Theorem.judge } }

theorem perform_verify (reachable : s.Reachable) (defined : s.theorem? name = some t)
    (time : Nat) :
    s.perform time ⟨"theorem_verify", [.string name]⟩ = (s.judging name, .ok (.verdict true)) := by
  obtain ⟨r, present, found⟩ := Option.bind_eq_some_iff.mp defined
  have verified := verifyTheorem_eq (reachable.sound r present) (reachable.attested r present) found
  have ran : Registry.perform s.config time (.verifyTheorem name) r =
      .ok (.verdict true) { r with theorems := r.theorems.modify name Theorem.judge } :=
    Action.bind_ok.mpr ⟨true, _, verified, Action.pure_ok.mpr ⟨rfl, rfl⟩⟩
  have called : Operation.ofName? "theorem_verify" = some .theoremVerify := rfl
  have read : Request.read .theoremVerify [.string name] = .ok (.verifyTheorem name) := rfl
  rw [perform_of_read called read, withRegistry, present, judging, present]
  simp only [ran, Option.map_some]

theorem theorem?_judging (reachable : s.Reachable) (name other : String) :
    (s.judging name).theorem? other =
      if other = name then (s.theorem? name).map Theorem.judge else s.theorem? other := by
  unfold theorem? judging
  cases present : s.registry with
  | none => simp
  | some r =>
      have coherent := (reachable.sound r present).theorems
      by_cases same : other = name
      · subst same
        simp
      · simpa [same] using coherent.get?_modify_of_ne same

theorem judging_judging (defined : s.theorem? name = some t) :
    (s.judging name).judging name = s.judging name := by
  obtain ⟨r, present, found⟩ := Option.bind_eq_some_iff.mp defined
  have judged : (r.theorems.modify name Theorem.judge).get? name = some t.judge := by
    rw [Store.get?_modify_self, found]
    rfl
  have settled : t.judge.judge = t.judge := by
    have kept : t.judge.isEntailed = t.isEntailed := rfl
    unfold Theorem.judge at kept ⊢
    rw [kept, Bool.or_assoc, Bool.or_self]
  unfold judging
  rw [present, Option.map_some, Option.map_some, Store.modify_eq_self judged settled]

/-- Whatever the arguments, the branch for a theorem that is not well-formed is not taken. -/
theorem verify_ne_false (reachable : s.Reachable) (time : Nat) (args : List Json) :
    (s.perform time ⟨"theorem_verify", args⟩).2 ≠ .ok (.verdict false) := by
  intro rejected
  obtain ⟨r, r', request, present, requested, performed, -⟩ := perform_ok rejected
  obtain ⟨call, named, reading⟩ := Invocation.reads requested
  obtain rfl : call = .theoremVerify := by
    have known := Operation.ofName?_eq_some.mpr named
    exact (Option.some.inj known).symm
  cases reading with
  | @verifyTheorem name =>
      cases performs_of_ok performed with
      | verifyTheorem found judged =>
          have known := (reachable.sound r present).each _ (Store.mem_of_get? found)
          rw [known.admissible] at judged
          cases judged
  | derive ruled => cases ruled

end Session

/--
A verification rejects no theorem. All that it may do is to mark one whose hypotheses entail its
conclusion.
-/
theorem verification_only_marks {s : Session} (reachable : s.Reachable) :
    (∀ time args, (s.perform time ⟨"theorem_verify", args⟩).2 ≠ .ok (.verdict false)) ∧
    ∀ name t, s.theorem? name = some t →
      (∀ time, s.perform time ⟨"theorem_verify", [.string name]⟩ =
        (s.judging name, .ok (.verdict true))) ∧
      (∀ time, (s.judging name).perform time ⟨"theorem_verify", [.string name]⟩ =
        (s.judging name, .ok (.verdict true))) ∧
      (∀ other, other ≠ name → (s.judging name).theorem? other = s.theorem? other) ∧
      (∃ flag, (s.judging name).theorem? name = some { t with isProven := flag } ∧
        (flag = true ↔ t.isProven = true ∨
          ∃ c, t.conclusion = some c ∧ ∃ h ∈ t.hypotheses, Formula.equivalent h c = true)) ∧
      ∀ proof, t.proof = some proof → proof.isValid = true ∧ t.isProven = true := by
  refine ⟨Session.verify_ne_false reachable, fun name t defined => ?_⟩
  have first := Session.perform_verify reachable defined
  have judged : (s.judging name).theorem? name = some t.judge := by
    rw [Session.theorem?_judging reachable, if_pos rfl, defined]
    rfl
  refine ⟨first, ?_, ?_, ⟨t.judge.isProven, judged, ?_⟩, ?_⟩
  · intro time
    have after : (s.judging name).Reachable := by
      have step := reachable.perform time ⟨"theorem_verify", [.string name]⟩
      rwa [first time] at step
    rw [Session.perform_verify after judged, Session.judging_judging defined]
  · intro other apart
    rw [Session.theorem?_judging reachable, if_neg apart]
  · unfold Theorem.judge
    simp only [Bool.or_eq_true, Theorem.isEntailed_iff, Formula.entails_iff]
  · intro proof attached
    obtain ⟨r, present, found⟩ := Option.bind_eq_some_iff.mp defined
    have mem := Store.mem_of_get? found
    have proven := reachable.attested r present t mem (Option.isSome_of_eq_some attached)
    exact ⟨((reachable.sound r present).each t mem).attached proof attached, proven⟩

theorem verification_only_marks_entailed :
    let p := Formula.atom "P"
    let s := ((Session.init { config := {} }).run [(0, ⟨"theorem_define",
      [.string "t", (Formula.implication p p).encode, .array [p.encode], p.encode]⟩)]).1
    s.Reachable ∧
      (s.theorem? "t").map Theorem.isProven = some false ∧
      s.perform 0 ⟨"theorem_verify", [.string "t"]⟩ = (s.judging "t", .ok (.verdict true)) ∧
      ((s.judging "t").theorem? "t").map Theorem.isProven = some true := by
  intro p s
  have reachable : s.Reachable := (Session.Reachable.init (.new {})).run _
  have defined : s.theorem? "t" = some
      { name := "t", statement := .implication p p, hypotheses := [p], conclusion := some p } := rfl
  obtain ⟨-, each⟩ := verification_only_marks reachable
  obtain ⟨verified, -, -, ⟨flag, judged, marks⟩, -⟩ := each "t" _ defined
  have entailed : flag = true := marks.mpr (.inr ⟨p, rfl, p, List.mem_cons_self, by decide⟩)
  refine ⟨reachable, rfl, verified 0, ?_⟩
  rw [judged, entailed]
  rfl

end Proofbook
