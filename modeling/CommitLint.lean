import CommitLint.Main
import CommitLint.Proofs.Config.Loading
import CommitLint.Proofs.Config.Overlays
import CommitLint.Proofs.Config.Rejection
import CommitLint.Proofs.FileTree.Places
import CommitLint.Proofs.Hook.Calls
import CommitLint.Proofs.Lint.Default
import CommitLint.Proofs.Lint.Entries
import CommitLint.Proofs.Lint.Overlaid
import CommitLint.Proofs.Message.Draft
import CommitLint.Proofs.Message.Fields
import CommitLint.Proofs.Message.Presence
import CommitLint.Proofs.Message.References
import CommitLint.Proofs.Rule.ConventionalFields
import CommitLint.Proofs.Rule.ParsedBody
import CommitLint.Proofs.Text.Shown
import CommitLint.Proofs.Value.Entries
import CommitLint.Proofs.CommandLine.Output
import CommitLint.Proofs.FileTree.Texts
import CommitLint.Proofs.CommandLine.Linting
import CommitLint.Proofs.CommandLine.Verbosity
import CommitLint.Proofs.CommandLine.LogLevel
import CommitLint.Proofs.CommandLine.Documents
import CommitLint.Proofs.CommandLine.Hooks
import CommitLint.Proofs.Value.Equality
import CommitLint.Proofs.FileTree.PathTexts
import CommitLint.Proofs.Lint.Notations
import CommitLint.Proofs.Text.Written
import CommitLint.Proofs.Config.Template
import CommitLint.Proofs.CommandLine.Starting
import CommitLint.Proofs.Pattern.Ordered
import CommitLint.Proofs.Lint.Ignoring
import CommitLint.Proofs.Text.UpperCase
import CommitLint.Proofs.Value.Severities
import CommitLint.Proofs.Rule.NamedDirectory
import CommitLint.Proofs.CommandLine.Creating
import CommitLint.Proofs.Message.Separators
import CommitLint.Proofs.Message.Blocks
import CommitLint.Proofs.Hook.Marker
import CommitLint.Proofs.Hook.Program
import CommitLint.Proofs.Rule.Limits
import CommitLint.Proofs.Rule.Instances
import CommitLint.Proofs.Rule.TrailingBlanks
import CommitLint.Proofs.Hook.Directory
