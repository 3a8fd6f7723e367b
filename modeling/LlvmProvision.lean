import LlvmProvision.Action
import LlvmProvision.Archive
import LlvmProvision.BuildTree
import LlvmProvision.CMake.Definition
import LlvmProvision.Choice
import LlvmProvision.CommandLine.Arguments
import LlvmProvision.CommandLine.Item
import LlvmProvision.CommandLine.Refusal
import LlvmProvision.CommandLine.Setting
import LlvmProvision.CommandLine.Usage
import LlvmProvision.Configuration
import LlvmProvision.Error
import LlvmProvision.Files.Change
import LlvmProvision.Files.Fault
import LlvmProvision.Files.Listing
import LlvmProvision.Files.Move
import LlvmProvision.Files.Operations
import LlvmProvision.Files.Path
import LlvmProvision.Files.Tree
import LlvmProvision.Files.Walk
import LlvmProvision.Main
import LlvmProvision.Package
import LlvmProvision.Program
import LlvmProvision.Proofs.AllOrNothing
import LlvmProvision.Proofs.Alterations
import LlvmProvision.Proofs.ArchiveNames
import LlvmProvision.Proofs.CommandLines
import LlvmProvision.Proofs.Conclusion
import LlvmProvision.Proofs.ConfigurationArguments
import LlvmProvision.Proofs.Courses
import LlvmProvision.Proofs.DependencyRoots
import LlvmProvision.Proofs.Echo
import LlvmProvision.Proofs.Endings
import LlvmProvision.Proofs.Enumerations
import LlvmProvision.Proofs.FailedBuilds
import LlvmProvision.Proofs.Finished
import LlvmProvision.Proofs.Flattening
import LlvmProvision.Proofs.Growth
import LlvmProvision.Proofs.Interludes
import LlvmProvision.Proofs.JobCounts
import LlvmProvision.Proofs.JoinedPaths
import LlvmProvision.Proofs.Keeping
import LlvmProvision.Proofs.Lines
import LlvmProvision.Proofs.Lookups
import LlvmProvision.Proofs.Marker
import LlvmProvision.Proofs.Numerals
import LlvmProvision.Proofs.Patterns
import LlvmProvision.Proofs.Presence
import LlvmProvision.Proofs.QuotedPaths
import LlvmProvision.Proofs.Relocation
import LlvmProvision.Proofs.Replacement
import LlvmProvision.Proofs.Resumption
import LlvmProvision.Proofs.Roots
import LlvmProvision.Proofs.Rounds
import LlvmProvision.Proofs.Schedule
import LlvmProvision.Proofs.Spelling
import LlvmProvision.Proofs.StraightPaths
import LlvmProvision.Proofs.Trails
import LlvmProvision.Proofs.Walks
import LlvmProvision.Proofs.WorkingDirectories
import LlvmProvision.Provision
import LlvmProvision.Rehearsal.Report
import LlvmProvision.Rehearsal.Script
import LlvmProvision.Rehearsal.Stage
import LlvmProvision.Shell.Words
import LlvmProvision.SourceTree
import LlvmProvision.Text.Blank
import LlvmProvision.Text.Colour
import LlvmProvision.Text.Extending
import LlvmProvision.Text.Fields
import LlvmProvision.Text.Numeral
import LlvmProvision.Text.Order
import LlvmProvision.Text.Quoted
import LlvmProvision.Text.Ranges
import LlvmProvision.Text.Shapeless
import LlvmProvision.Text.Unassigned
import LlvmProvision.Text.Unprintable
import LlvmProvision.Tools.Host
import LlvmProvision.Tools.Status
