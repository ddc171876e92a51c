import Proofbook.Proofs.Record.Frame
import Proofbook.Proofs.Session.ProofAccount
import Proofbook.Proofs.Session.Reachable

namespace Proofbook

open Registry

/-! ## Steps of working proofs -/

theorem Proof.lists_after {turn : Turn} {name : String} {found : Option Proof} {proof : Proof}
    (performed : turn.Performed)
    (lists : ∀ proof, found = some proof → ∃ steps, proof.Lists name steps)
    (made : Proof.after name found turn = some proof) : ∃ steps, proof.Lists name steps := by
  cases checked : turn.checked? name with
  | some outcome =>
      rw [after, checked] at made
      obtain rfl := Option.some.inj made
      exact ⟨outcome.1, lists_concluded (performed.checked checked).1⟩
  | none =>
      cases appended : turn.appended? name with
      | none =>
          rw [after_eq_self checked appended] at made
          exact lists proof made
      | some step =>
          rw [after, checked, appended] at made
          obtain rfl := Option.some.inj made
          cases found with
          | none => exact ⟨[step], lists_first name step⟩
          | some old =>
              obtain ⟨steps, before⟩ := lists old rfl
              exact ⟨steps ++ [step], before.push step⟩

namespace Session

variable {s : Session} {name : String} {proof : Proof}

theorem Reachable.lists (reachable : s.Reachable) (found : s.working? name = some proof) :
    ∃ steps, proof.Lists name steps := by
  induction reachable generalizing proof with
  | new => cases found
  | @init s _ ih =>
      cases before : s.registry with
      | none =>
          rw [working?, Session.init, before] at found
          cases found
      | some r =>
          apply ih
          rw [working?, Session.init, before] at found
          rw [working?, before]
          exact found
  | cleanup => cases found
  | @perform s before time invocation ih =>
      rw [working_perform before.sound] at found
      split at found
      · cases found
      · exact Proof.lists_after (performed_perform s time invocation) (fun _ => ih) found

/-! ## The answer -/

theorem perform_export (found : s.working? name = some proof) (complete : proof.isComplete = true)
    {args : List Json} (known : args = [.string name] ∨ args = [.string name, .string "tstp"])
    (time : Nat) :
    s.perform time ⟨"proof_export", args⟩ = (s, .ok (.listing (Tstp.listing proof.events))) := by
  obtain ⟨r, present, got⟩ := Option.bind_eq_some_iff.mp found
  have called : Operation.ofName? "proof_export" = some .proofExport := rfl
  have read : Request.read .proofExport args = .ok (.exportProof name "tstp") := by
    rcases known with rfl | rfl <;> rfl
  have ran : Registry.perform s.config time (.exportProof name "tstp") r =
      .ok (.listing (Tstp.listing proof.events)) r := by
    apply Action.ask_bind_ok.mpr
    refine ⟨proof, completeProof_ok.mpr ⟨got, complete⟩, ?_⟩
    exact Action.lift_bind_ok.mpr ⟨_, rfl, rfl⟩
  rw [perform_of_read called read, withRegistry, present]
  simp only [ran]
  rw [← present]

end Session

/--
An exported listing has a row for each step. The rows are lines of their own exactly if no name that
they show has a line feed.
-/
theorem export_framed_iff {s : Session} (reachable : s.Reachable) {name : String} {proof : Proof}
    (found : s.working? name = some proof) (complete : proof.isComplete = true) :
    ∃ steps, proof.Lists name steps ∧ ∃ text rows,
      (∀ time, ∀ args ∈ [[Json.string name], [.string name, .string "tstp"]],
        s.perform time ⟨"proof_export", args⟩ = (s, .ok (.listing text))) ∧
      text = String.join rows ∧ Tstp.Rows name proof.steps rows ∧
      Text.lineFeeds text = proof.steps.length + 2 + 2 * Text.lineFeeds name +
        Text.lineFeeds (String.join (steps.flatMap Step.spelled)) ∧
      (Tstp.Framed name proof.steps text ↔
        '\n' ∉ name.toList ∧ ∀ step ∈ steps, ∀ spelled ∈ step.spelled, '\n' ∉ spelled.toList) := by
  obtain ⟨steps, lists⟩ := reachable.lists found
  obtain ⟨number, listing⟩ := Tstp.listing_eq_join name steps
  rw [← lists.events] at listing
  refine ⟨steps, lists, Tstp.listing proof.events, Tstp.rows number name steps, ?_, listing, ?_⟩
  · intro time args known
    apply Session.perform_export found complete
    simpa using known
  · rw [listing, lists.formulas, List.length_map]
    exact ⟨Tstp.rows_rows number name steps, Tstp.lineFeeds_rows number name steps,
      Tstp.framed_iff number name steps⟩

/-! ## A short proof -/

def shortSteps (justification : Formula) : List Step :=
  [⟨.premise, justification⟩, ⟨.inference .postulate [.atom "p"], Request.assumed⟩,
    ⟨.conclusion, Request.assumed⟩]

def shortSession (justification : Formula) : Session :=
  ((Session.init { config := {} }).run [
    (0, ⟨"theorem_define", [.string "t", (Formula.atom "p").encode]⟩),
    (0, ⟨"proof_verify", [.string "t", .array [
      .object [("type", .string "premise"), ("justification", justification.encode)],
      (Formula.inference .postulate [.atom "p"]).encode, Formula.conclusion.encode]]⟩)]).1

theorem export_framed_iff_short :
    let s := shortSession (.atom "q")
    let proof := Proof.concluded "t" (shortSteps (.atom "q")) true 0
    s.Reachable ∧ s.working? "t" = some proof ∧ proof.isComplete = true ∧
      ∃ text, s.perform 0 ⟨"proof_export", [.string "t", .string "tstp"]⟩ =
        (s, .ok (.listing text)) ∧ Tstp.Framed "t" proof.steps text := by
  intro s proof
  have reachable : s.Reachable := (Session.Reachable.init (.new {})).run _
  have found : s.working? "t" = some proof := rfl
  obtain ⟨steps, lists, text, rows, exported, -, -, -, framed⟩ :=
    export_framed_iff reachable found rfl
  obtain rfl : shortSteps (.atom "q") = steps := lists.paired
  have noFeed : ∀ step ∈ shortSteps (.atom "q"), ∀ name ∈ step.spelled, '\n' ∉ name.toList := by
    decide
  exact ⟨reachable, found, rfl, text, exported 0 _ (by simp), framed.mpr ⟨by decide, noFeed⟩⟩

theorem broken_line :
    let s := shortSession (.atom "a\nb")
    let proof := Proof.concluded "t" (shortSteps (.atom "a\nb")) true 0
    s.Reachable ∧ s.working? "t" = some proof ∧ proof.isComplete = true ∧
      ∃ text, s.perform 0 ⟨"proof_export", [.string "t", .string "tstp"]⟩ =
        (s, .ok (.listing text)) ∧ ¬Tstp.Framed "t" proof.steps text := by
  intro s proof
  have reachable : s.Reachable := (Session.Reachable.init (.new {})).run _
  have found : s.working? "t" = some proof := rfl
  have lists : proof.Lists "t" (shortSteps (.atom "a\nb")) := Proof.lists_concluded nofun
  obtain ⟨number, listing⟩ := Tstp.listing_eq_join "t" (shortSteps (.atom "a\nb"))
  rw [← lists.events] at listing
  refine ⟨reachable, found, rfl, _, Session.perform_export found rfl (.inr rfl) 0, ?_⟩
  intro framed
  rw [listing, lists.formulas] at framed
  obtain ⟨-, noFeed⟩ := (Tstp.framed_iff _ _ _).mp framed
  exact noFeed _ List.mem_cons_self "a\nb" (by decide) (by decide)

end Proofbook
