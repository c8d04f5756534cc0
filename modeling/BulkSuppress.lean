import BulkSuppress.Text.Blank
import BulkSuppress.Text.Lines
import BulkSuppress.Text.Utf8
import BulkSuppress.Text.Quoted
import BulkSuppress.Path.Order
import BulkSuppress.Glob.Match
import BulkSuppress.Log
import BulkSuppress.Disk.Resolve
import BulkSuppress.Exclusion.Filter
import BulkSuppress.Exclusion.IgnoreList
import BulkSuppress.Header
import BulkSuppress.Discovery
import BulkSuppress.Batch.Basic
import BulkSuppress.Batch.Run
import BulkSuppress.Batch.Dispatch
import BulkSuppress.Decimal.Shortest
import BulkSuppress.Json.Text
import BulkSuppress.Json.Number
import BulkSuppress.Json.Skip
import BulkSuppress.LintReport
import BulkSuppress.Config
import BulkSuppress.Report.Format
import BulkSuppress.Yaml.Token
import BulkSuppress.Yaml.Token.Block
import BulkSuppress.Yaml.Token.Flow
import BulkSuppress.Yaml.Token.Property
import BulkSuppress.Yaml.Token.Lexer
import BulkSuppress.Yaml.Node.Compose
import BulkSuppress.Options.Reading
import BulkSuppress.Shell.Launch
import BulkSuppress.Session
import BulkSuppress.CommandLine.Perform
import BulkSuppress.Main
import BulkSuppress.Proofs.Batch.Reachable
import BulkSuppress.Proofs.Batch.Progress
import BulkSuppress.Proofs.Disk.Shape
import BulkSuppress.Proofs.Pipeline.Alone
import BulkSuppress.Proofs.Batch.Refinement
import BulkSuppress.Proofs.Exclusion.Directory
import BulkSuppress.Proofs.Exclusion.IgnoreLines
import BulkSuppress.Proofs.Path.Components
import BulkSuppress.Proofs.Disk.Below
import BulkSuppress.Proofs.Discovery.Walk
import BulkSuppress.Proofs.Discovery.Pruning
import BulkSuppress.Proofs.Path.Order
import BulkSuppress.Proofs.Batch.Accounting
import BulkSuppress.Proofs.Discovery.Canonical
import BulkSuppress.Proofs.Discovery.Links
import BulkSuppress.Proofs.Batch.Frame
import BulkSuppress.Proofs.Session.Containment
import BulkSuppress.Proofs.Session.SingleWriter
import BulkSuppress.Proofs.Path.Settle
import BulkSuppress.Proofs.Disk.Settled
import BulkSuppress.Proofs.Discovery.Spelling
import BulkSuppress.Proofs.Discovery.SameDirectory
import BulkSuppress.Proofs.Config.Accepted
import BulkSuppress.Proofs.Session.Limits
import BulkSuppress.Proofs.Pipeline.DryRun
import BulkSuppress.Proofs.Session.DryRun
import BulkSuppress.Proofs.Header.Comment
import BulkSuppress.Proofs.Glob.Grammar
import BulkSuppress.Proofs.Session.Startup
import BulkSuppress.Proofs.Exclusion.Defaults
import BulkSuppress.Proofs.Discovery.Hidden
import BulkSuppress.Proofs.Header.Suppression
import BulkSuppress.Proofs.Text.Octets
import BulkSuppress.Proofs.Header.Decoding
import BulkSuppress.Proofs.Pipeline.Again
import BulkSuppress.Proofs.Batch.Convergence
import BulkSuppress.Proofs.Pipeline.Eslint
import BulkSuppress.Proofs.Json.Grammar
import BulkSuppress.Proofs.Json.Unambiguous
import BulkSuppress.Proofs.CommandLine.Exit
import BulkSuppress.Proofs.Exclusion.LastMatch
import BulkSuppress.Proofs.Exclusion.AnyDepth
import BulkSuppress.Proofs.Glob.Normalization
import BulkSuppress.Proofs.Discovery.Split
import BulkSuppress.Proofs.Json.Scanning
import BulkSuppress.Proofs.Json.Reading
import BulkSuppress.Proofs.LintReport.Reports
import BulkSuppress.Proofs.RuleSet.History
import BulkSuppress.Proofs.Config.LastWord
import BulkSuppress.Proofs.Report.Encoding
import BulkSuppress.Proofs.Json.Failing
import BulkSuppress.Proofs.LintReport.Wording
