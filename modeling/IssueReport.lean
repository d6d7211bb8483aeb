import IssueReport.Accessor
import IssueReport.Binary64.Basic
import IssueReport.Binary64.Shortest
import IssueReport.Collection
import IssueReport.Command.Program
import IssueReport.Command.Script
import IssueReport.Command.Shell
import IssueReport.CommandLine.Arguments
import IssueReport.CommandLine.Run
import IssueReport.Config
import IssueReport.Config.Yaml
import IssueReport.Diagnostic
import IssueReport.Diagnostic.Wire
import IssueReport.Event
import IssueReport.FileTree.Basic
import IssueReport.FileTree.Edit
import IssueReport.FileTree.Path
import IssueReport.FileTree.Resolve
import IssueReport.Glob.Depth
import IssueReport.Glob.Exclusions
import IssueReport.Glob.Expression
import IssueReport.Glob.Form
import IssueReport.Glob.Match
import IssueReport.Glob.Pattern
import IssueReport.Issue
import IssueReport.Issue.Json
import IssueReport.Json.Byte
import IssueReport.Json.Number
import IssueReport.Json.Parse
import IssueReport.Json.Printer
import IssueReport.Json.ReadError
import IssueReport.Json.Reader
import IssueReport.Json.Record
import IssueReport.Json.Skip
import IssueReport.Json.Value
import IssueReport.Main
import IssueReport.Payload
import IssueReport.Payload.Conversion
import IssueReport.Pipeline
import IssueReport.Plugin
import IssueReport.Plugin.Command
import IssueReport.Project.Basic
import IssueReport.Project.Load
import IssueReport.Project.PathCheck
import IssueReport.Proofs.Project.Numbering
import IssueReport.Proofs.Walker.Compilation
import IssueReport.Text.Blank
import IssueReport.Text.Hidden
import IssueReport.Text.Quoted
import IssueReport.Text.Utf8
import IssueReport.Walker
import IssueReport.Yaml.Lexer
import IssueReport.Yaml.Mark
import IssueReport.Yaml.Node
import IssueReport.Yaml.Scalar
import IssueReport.Yaml.Token
import IssueReport.Proofs.Walker.Cache
import IssueReport.Proofs.Walker.Steps
import IssueReport.Proofs.Walker.Snapshots
import IssueReport.Proofs.Pipeline.Scan
import IssueReport.Proofs.Pipeline.TwoPhase
import IssueReport.Proofs.Json.Reading
import IssueReport.Proofs.Json.Written
import IssueReport.Proofs.Json.Skipping
import IssueReport.Proofs.Json.Decoding
import IssueReport.Proofs.Payload.Conversion
import IssueReport.Proofs.Issue.Reading
import IssueReport.Proofs.Text.Utf8
import IssueReport.Proofs.Text.Lossy
import IssueReport.Proofs.Json.Printing
import IssueReport.Proofs.Issue.Printing
import IssueReport.Proofs.Diagnostic.Decoding
import IssueReport.Proofs.Diagnostic.Forms
import IssueReport.Proofs.Diagnostic.Listing
import IssueReport.Proofs.Pipeline.Reingestion
import IssueReport.Proofs.Collection.Reports
import IssueReport.Proofs.Diagnostic.Format
import IssueReport.Proofs.Pipeline.Isolation
import IssueReport.Proofs.FileTree.Names
import IssueReport.Proofs.Text.ByteOrder
import IssueReport.Proofs.Project.Enumeration
import IssueReport.Proofs.Project.Listings
import IssueReport.Proofs.Walker.Trace
import IssueReport.Proofs.Pipeline.Repetition
import IssueReport.Proofs.Project.Placement
import IssueReport.Proofs.Pipeline.Exclusion
import IssueReport.Proofs.Collection.Origin
import IssueReport.Proofs.Pipeline.Origin
import IssueReport.Proofs.Config.Validation
import IssueReport.Proofs.Config.Denotation
import IssueReport.Proofs.Issue.Validity
import IssueReport.Proofs.CommandLine.Stages
import IssueReport.Proofs.Payload.Coordinates
import IssueReport.Proofs.Project.ReturnedPath
import IssueReport.Proofs.Diagnostic.Acceptance
import IssueReport.Proofs.Walker.Alike
import IssueReport.Proofs.Pipeline.Padding
import IssueReport.Proofs.Pipeline.CompileOrder
import IssueReport.Proofs.Pipeline.FirstRun
import IssueReport.Proofs.Collection.Writing
import IssueReport.Proofs.Payload.Renditions
import IssueReport.Proofs.Config.FirstViolation
import IssueReport.Proofs.Walker.Cells
import IssueReport.Proofs.Project.SeenPaths
import IssueReport.Proofs.CommandLine.ConfigChoice
