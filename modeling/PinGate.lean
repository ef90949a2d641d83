import PinGate.Text.Keyword
import PinGate.Text.Quoted
import PinGate.Text.Integer
import PinGate.Text.Lines
import PinGate.Text.Utf8
import PinGate.Text.Word
import PinGate.Check.Node
import PinGate.Check.Requirements
import PinGate.Check.Gems
import PinGate.Check.Java
import PinGate.Check.Dockerfile
import PinGate.Check.Manifest
import PinGate.Check.Workflow
import PinGate.Check.Notes
import PinGate.Glob.Braces
import PinGate.Validator
import PinGate.Analysis
import PinGate.Report
import PinGate.Json.Reader
import PinGate.Json.Writer
import PinGate.PullRequest
import PinGate.LocalDiff
import PinGate.CommandLine.Command
import PinGate.Main
import PinGate.Proofs.Diff.Steps
import PinGate.Proofs.Diff.Boundary
import PinGate.Proofs.Diff.RemovedLines
import PinGate.Proofs.Diff.ReadBack
import PinGate.Proofs.Diff.Bare
import PinGate.Proofs.Dialogue
import PinGate.Proofs.GitHub.Requests
import PinGate.Proofs.Diff.Conservation
import PinGate.Proofs.GitHub.OneComment
import PinGate.Proofs.CommandLine.Scan
import PinGate.Proofs.Glob.Braces
import PinGate.Proofs.PullRequest
import PinGate.Proofs.Selection
import PinGate.Proofs.CommandLine.LocalScan
import PinGate.Proofs.Check.Migration
import PinGate.Proofs.Json.Grammar
import PinGate.Proofs.Json.RoundTrip
import PinGate.Proofs.CommandLine.JsonResult
import PinGate.Proofs.Text.Search
import PinGate.Proofs.Check.Image
import PinGate.Proofs.Check.Manifest
import PinGate.Proofs.Check.Registry
import PinGate.Proofs.Check.Block
import PinGate.Proofs.Check.Requirements
import PinGate.Proofs.Check.Node
import PinGate.Proofs.Check.Workflow
import PinGate.Proofs.Check.Strictness
import PinGate.Proofs.Check.Pin
import PinGate.Proofs.Check.Quoting
import PinGate.Proofs.Check.Layout
import PinGate.Proofs.Check.Java
import PinGate.Proofs.Check.Gems
import PinGate.Proofs.VisibleText
import PinGate.Proofs.GitHub.MarkerFilter
import PinGate.Proofs.CommandLine.Annotation
