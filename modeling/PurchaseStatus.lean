import PurchaseStatus.Coverage
import PurchaseStatus.Json.Printer
import PurchaseStatus.Main
import PurchaseStatus.Pipeline.Execution
import PurchaseStatus.Step.AccrualStage
import PurchaseStatus.Step.AuxiliaryLoad
import PurchaseStatus.Step.FirstStage
import PurchaseStatus.Step.Script
import PurchaseStatus.Proofs.Agreement
import PurchaseStatus.Proofs.Concatenation
import PurchaseStatus.Proofs.Check.Locality
import PurchaseStatus.Proofs.Engine.Frame
import PurchaseStatus.Proofs.Engine.FirstMatch
import PurchaseStatus.Proofs.Engine.Precompute
import PurchaseStatus.Proofs.Engine.Statistics
import PurchaseStatus.Proofs.Engine.Split
import PurchaseStatus.Proofs.Engine.Rerun
import PurchaseStatus.Proofs.Engine.Conservation
import PurchaseStatus.Proofs.Engine.Chunks
import PurchaseStatus.Proofs.Labels.Keeping
import PurchaseStatus.Proofs.Labels.Pipeline
import PurchaseStatus.Proofs.Pipeline.Isolation
import PurchaseStatus.Proofs.Pipeline.Trail
import PurchaseStatus.Proofs.Pipeline.Records
import PurchaseStatus.Proofs.Pipeline.Rollback
import PurchaseStatus.Proofs.Step.Loading
import PurchaseStatus.Proofs.Step.Atomicity
import PurchaseStatus.Proofs.Labels.Fallbacks
import PurchaseStatus.Proofs.Engine.Ledger
import PurchaseStatus.Proofs.Rule.References
import PurchaseStatus.Proofs.Rule.Validation
import PurchaseStatus.Proofs.Rule.Soundness
import PurchaseStatus.Proofs.Engine.SharedContext
import PurchaseStatus.Proofs.Engine.DeadRules
import PurchaseStatus.Proofs.Engine.Alignment
import PurchaseStatus.Proofs.Engine.Rebuilding
import PurchaseStatus.Proofs.Engine.Attribution
import PurchaseStatus.Proofs.Engine.UnsetMarks
import PurchaseStatus.Proofs.Engine.DeclarationOrder
import PurchaseStatus.Proofs.Check.Requirements
import PurchaseStatus.Proofs.Engine.IdleRules
import PurchaseStatus.Proofs.Rule.Combination
import PurchaseStatus.Proofs.Check.Reading
import PurchaseStatus.Proofs.Check.Negation
import PurchaseStatus.Proofs.Check.Pairs
import PurchaseStatus.Proofs.Check.Membership
import PurchaseStatus.Proofs.Config.Paths
import PurchaseStatus.Proofs.Engine.Footprint
import PurchaseStatus.Proofs.Step.Sufficiency
import PurchaseStatus.Proofs.Step.AccrualFields
import PurchaseStatus.Proofs.Labels.Postings
import PurchaseStatus.Proofs.Labels.ClosingMasks
import PurchaseStatus.Proofs.Step.AccrualReport
import PurchaseStatus.Proofs.Step.AccrualRerun
import PurchaseStatus.Proofs.Labels.RemarkDates
import PurchaseStatus.Proofs.Pipeline.Panics
import PurchaseStatus.Proofs.Metrics.Exposition
import PurchaseStatus.Proofs.Replacement
import PurchaseStatus.Proofs.Check.Periods
import PurchaseStatus.Proofs.Metrics.Grouping
