import Proofbook.Main
import Proofbook.Proofs.Formula.Erasure
import Proofbook.Proofs.Truth.Soundness
import Proofbook.Proofs.Session.ProofAccount
import Proofbook.Proofs.Session.ReadBack
import Proofbook.Proofs.Session.Stated
import Proofbook.Proofs.Session.Flags
import Proofbook.Proofs.Session.Compartment
import Proofbook.Proofs.Session.Representation
import Proofbook.Proofs.Session.Counting
import Proofbook.Proofs.CommandLine.Deletion
import Proofbook.Proofs.CommandLine.ExitCode
import Proofbook.Proofs.Formula.Grammar
import Proofbook.Proofs.Guarded.Basic
import Proofbook.Proofs.Guarded.Request
import Proofbook.Proofs.Session.Renewal
import Proofbook.Proofs.Truth.Indistinguishable
import Proofbook.Proofs.Truth.Propositional
import Proofbook.Proofs.Truth.Classical
import Proofbook.Proofs.Truth.Information
import Proofbook.Proofs.Guarded.Action
import Proofbook.Proofs.Guarded.Table
import Proofbook.Proofs.Guarded.Call
import Proofbook.Proofs.Text.ByteOrder
import Proofbook.Proofs.Truth.Tabulation
import Proofbook.Proofs.Registry.Scan
import Proofbook.Proofs.Session.Scan
import Proofbook.Proofs.Truth.Contradiction
import Proofbook.Proofs.Formula.FreeNames
import Proofbook.Proofs.Formula.Composition
import Proofbook.Proofs.Formula.Congruence
import Proofbook.Proofs.Truth.Entailment
import Proofbook.Proofs.Proof.Check
import Proofbook.Proofs.Formula.Unread
import Proofbook.Proofs.Formula.SubformulaProperty
import Proofbook.Proofs.Record.Renaming
import Proofbook.Proofs.Formula.Path
import Proofbook.Proofs.Record.Rendering
import Proofbook.Proofs.Record.Scope
import Proofbook.Proofs.Truth.Substitution
import Proofbook.Proofs.Session.Verification
import Proofbook.Proofs.Formula.Notation
import Proofbook.Proofs.Session.Export
import Proofbook.Proofs.Record.Name
