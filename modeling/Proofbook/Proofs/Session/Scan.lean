import Proofbook.Proofs.Registry.Scan
import Proofbook.Proofs.Session.Reachable

namespace Proofbook

open Registry

/--
The scan of all axioms, the check of a single one and a scan of the same axioms in another order
agree on what contradicts what.
-/
theorem scan_agrees {s : Session} {r : Registry} (reachable : s.Reachable)
    (present : s.registry = some r) :
    ∃ positions pairs,
      r.Conflicts positions ∧
      List.Forall₂ r.Names positions pairs ∧
      checkConsistency r = .ok pairs (r.flagged positions) ∧
      checkConsistency (r.flagged positions) = .ok pairs (r.flagged positions) ∧
      (∀ name a, (r.flagged positions).axioms.get? name = some a →
        validateAxiom name r = .ok a.isConsistent { r with
          axioms := r.axioms.modify name fun b => { b with isConsistent := a.isConsistent } } ∧
        validateAxiom name (r.flagged positions) = .ok a.isConsistent (r.flagged positions)) ∧
      ∀ (s' : Session) (r' : Registry), s'.Reachable → s'.registry = some r' →
        r'.namedStatements.Perm r.namedStatements →
        ∃ pairs' scanned, checkConsistency r' = .ok pairs' scanned ∧
          (unorderedNames pairs').Perm (unorderedNames pairs) ∧
          ∀ name, (scanned.axioms.get? name).map Axiom.isConsistent =
            ((r.flagged positions).axioms.get? name).map Axiom.isConsistent := by
  have coherent := (reachable.axiomsSound r present).coherent
  refine ⟨r.contradictions, r.conflictNames, conflicts_contradictions r, forall₂_conflictNames r,
    checkConsistency_eq r, checkConsistency_flagged r _, ?_, ?_⟩
  · exact fun name a flag => ⟨validateAxiom_eq flag, validateAxiom_flagged flag⟩
  · intro s' r' reachable' present' same
    have coherent' := (reachable'.axiomsSound r' present').coherent
    exact ⟨r'.conflictNames, r'.flagged r'.contradictions, checkConsistency_eq r',
      unorderedNames_perm coherent coherent' same, scannedFlag_of_perm coherent coherent' same⟩

def asserting (name : String) (statement : Formula) : Nat × Invocation :=
  (0, ⟨"axiom_add", [.string name, statement.encode]⟩)

theorem scan_agrees_reordered :
    let both := Formula.conjunction (.atom "P") (.atom "Q")
    let notBoth := Formula.negation both
    let s := ((Session.init { config := {} }).run [asserting "a" both, asserting "b" notBoth]).1
    let s' := ((Session.init { config := {} }).run [asserting "b" notBoth, asserting "a" both]).1
    s.Reachable ∧ s'.Reachable ∧
      ∃ r r', s.registry = some r ∧ s'.registry = some r' ∧
        r'.namedStatements.Perm r.namedStatements ∧
        ∃ pairs pairs' scanned scanned', checkConsistency r = .ok pairs scanned ∧
          checkConsistency r' = .ok pairs' scanned' ∧
          (unorderedNames pairs').Perm (unorderedNames pairs) := by
  intro both notBoth s s'
  have reachable : s.Reachable := (Session.Reachable.init (.new {})).run _
  have reachable' : s'.Reachable := (Session.Reachable.init (.new {})).run _
  have present : s.registry = some { Registry.fresh with
      axioms := (Registry.fresh.axioms.insert "a" { name := "a", statement := both }).insert "b"
        { name := "b", statement := notBoth } } := rfl
  have present' : s'.registry = some { Registry.fresh with
      axioms := (Registry.fresh.axioms.insert "b" { name := "b", statement := notBoth }).insert "a"
        { name := "a", statement := both } } := rfl
  have swapped := (List.Perm.swap ("a", both) ("b", notBoth) []).append_left
    Registry.fresh.namedStatements
  obtain ⟨positions, pairs, -, -, ran, -, -, elsewhere⟩ := scan_agrees reachable present
  obtain ⟨pairs', scanned', ran', same, -⟩ := elsewhere s' _ reachable' present' swapped
  exact ⟨reachable, reachable', _, _, present, present', swapped, pairs, pairs', _, scanned', ran,
    ran', same⟩

end Proofbook
