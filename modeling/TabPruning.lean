import TabPruning.CommandLine.Program
import TabPruning.Machine
import TabPruning.Main
import TabPruning.Proofs.Block.End
import TabPruning.Proofs.Block.Balance
import TabPruning.Proofs.Block.Nesting
import TabPruning.Proofs.Block.Enclosing
import TabPruning.Proofs.Block.Descent
import TabPruning.Proofs.Excision.Cut
import TabPruning.Proofs.Excision.Rewriting
import TabPruning.Proofs.Excision.Segmentation
import TabPruning.Proofs.Excision.Depth
import TabPruning.Proofs.Excision.Locality
import TabPruning.Proofs.Field.Deletion
import TabPruning.Proofs.Field.Renumbering
import TabPruning.Proofs.Field.Completeness
import TabPruning.Proofs.Field.Declaration
import TabPruning.Proofs.Config.Validation
import TabPruning.Proofs.Config.Settling
import TabPruning.Proofs.Prune.NormalForm
import TabPruning.Proofs.Prune.Accounting
import TabPruning.Proofs.Prune.Report
import TabPruning.Proofs.Prune.Declarations
import TabPruning.Proofs.Prune.Recognition
import TabPruning.Proofs.Prune.Margins
import TabPruning.Proofs.Prune.MarkerOrder
import TabPruning.Proofs.Prune.Safety
import TabPruning.Proofs.Config.File
import TabPruning.Proofs.CommandLine.Failure
import TabPruning.Proofs.Run.Frame
import TabPruning.Proofs.Machine.Modes
import TabPruning.Proofs.Run.Events
import TabPruning.Proofs.Run.Change
import TabPruning.Proofs.Field.Closed
import TabPruning.Proofs.Field.Composition
import TabPruning.Proofs.Field.Neighbours
import TabPruning.Proofs.Config.Default
import TabPruning.Proofs.CommandLine.DefaultCommand
import TabPruning.Proofs.Machine.Logging
import TabPruning.Proofs.CommandLine.LogLevel
import TabPruning.Proofs.Config.Overrides
import TabPruning.Proofs.Field.Matching
import TabPruning.Proofs.Marker.Spelling
import TabPruning.Proofs.Text.Pattern
