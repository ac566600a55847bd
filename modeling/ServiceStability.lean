import ServiceStability.Main
import ServiceStability.Proofs.Components
import ServiceStability.Proofs.Marks
import ServiceStability.Proofs.Resolution
import ServiceStability.Proofs.BlockingChains
import ServiceStability.Proofs.Changes
import ServiceStability.Proofs.Reachability
import ServiceStability.Proofs.Capture
import ServiceStability.Proofs.Verdict
import ServiceStability.Proofs.WholeSnapshot
import ServiceStability.Proofs.Interleaving
import ServiceStability.Proofs.Sharing
import ServiceStability.Proofs.CanonicalForms
import ServiceStability.Proofs.Consistency
import ServiceStability.Proofs.RootCauses
import ServiceStability.Proofs.LiveSnapshots
import ServiceStability.Proofs.Refusals
import ServiceStability.Proofs.Transitions
import ServiceStability.Proofs.FailureNotes
import ServiceStability.Proofs.Influence
import ServiceStability.Proofs.Cycles
import ServiceStability.Proofs.Spellings
import ServiceStability.Proofs.WiderInterest
import ServiceStability.Proofs.UnitDiagnosis
import ServiceStability.Proofs.Overlap
import ServiceStability.Proofs.Removals
import ServiceStability.Proofs.Rounds
import ServiceStability.Proofs.WrittenForms
import ServiceStability.Proofs.Records
import ServiceStability.Proofs.Identities
import ServiceStability.Proofs.Documents
import ServiceStability.Proofs.NameOrder
import ServiceStability.Proofs.NamePrefixes
import ServiceStability.Proofs.FirstFaults
import ServiceStability.Proofs.Classification
import ServiceStability.Proofs.UnitNames
import ServiceStability.Proofs.NormalForms
import ServiceStability.Proofs.EntryOrder
import ServiceStability.Proofs.RestTest
import ServiceStability.Proofs.Footprints
import ServiceStability.CommandLine.Output
import ServiceStability.Proofs.MissingLines
import ServiceStability.Proofs.Sections
import ServiceStability.Proofs.LineKeys
import ServiceStability.Proofs.Formats
