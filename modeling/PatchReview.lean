import PatchReview.Cli.Arguments
import PatchReview.Cli.Program
import PatchReview.Cli.Review
import PatchReview.Cli.Table
import PatchReview.Config.Discovery
import PatchReview.Config.Environment
import PatchReview.Config.Extraction
import PatchReview.Config.Literal
import PatchReview.Config.Load
import PatchReview.Config.Settings
import PatchReview.Config.Sources
import PatchReview.Config.Value
import PatchReview.Digest.Sha256
import PatchReview.Fields
import PatchReview.Files.Tree
import PatchReview.Http.Client
import PatchReview.Http.Decoding
import PatchReview.Http.Link
import PatchReview.Http.Target
import PatchReview.Json.Basic
import PatchReview.Json.Parts
import PatchReview.Json.Printer
import PatchReview.Json.Reader
import PatchReview.Main
import PatchReview.Metadata.Framing
import PatchReview.Metadata.Line
import PatchReview.Metadata.Reader
import PatchReview.Metadata.Scalar
import PatchReview.Metadata.Value
import PatchReview.Pattern.Basic
import PatchReview.Pattern.CharSet
import PatchReview.Pattern.Class
import PatchReview.Pattern.Escape
import PatchReview.Pattern.Matcher
import PatchReview.Pattern.Property
import PatchReview.Pattern.Reader
import PatchReview.Proofs.Anchoring
import PatchReview.Proofs.Assessment
import PatchReview.Proofs.AtMostOnce
import PatchReview.Proofs.CommentScan
import PatchReview.Proofs.KeptThread
import PatchReview.Proofs.PostEffect
import PatchReview.Proofs.RepeatedPost
import PatchReview.Proofs.Retry
import PatchReview.Proofs.Submission
import PatchReview.Proofs.Trailer
import PatchReview.Results
import PatchReview.Review.Host
import PatchReview.Review.LogText
import PatchReview.Review.Patch
import PatchReview.Review.Posting
import PatchReview.Review.PullRequestRef
import PatchReview.Review.Report
import PatchReview.Review.Run
import PatchReview.Review.Signature
import PatchReview.Review.Thread
import PatchReview.Rules.Builtin
import PatchReview.Rules.Clause
import PatchReview.Rules.Directory
import PatchReview.Rules.Document
import PatchReview.Rules.Document.Reader
import PatchReview.Rules.Evaluation
import PatchReview.Rules.FilePattern
import PatchReview.Rules.Finding
import PatchReview.Rules.Severity
import PatchReview.Rules.Store
import PatchReview.Text.Base
import PatchReview.Text.Blank
import PatchReview.Text.Character
import PatchReview.Text.Chunks
import PatchReview.Text.Decimal
import PatchReview.Text.Lines
import PatchReview.Text.Number
import PatchReview.Text.Quoted
import PatchReview.Text.Split
import PatchReview.Toml.Node
import PatchReview.Toml.Quoted
import PatchReview.Toml.Reader
import PatchReview.Toml.Scalar
import PatchReview.Unicode.Binary
import PatchReview.Unicode.Category
import PatchReview.Unicode.Fold
import PatchReview.Unicode.Named
import PatchReview.Unicode.Script
import PatchReview.Unicode.Table
import PatchReview.Unicode.Uppercase
import PatchReview.Unicode.Width
import PatchReview.Unicode.Word
import PatchReview.Warning
import PatchReview.Yaml.Character
import PatchReview.Yaml.Cursor
import PatchReview.Yaml.Node
import PatchReview.Yaml.Printer
import PatchReview.Yaml.Scalar
import PatchReview.Yaml.Token.Basic
import PatchReview.Yaml.Token.Block
import PatchReview.Yaml.Token.Name
import PatchReview.Yaml.Token.Plain
import PatchReview.Yaml.Token.Quoted
import PatchReview.Yaml.Token.Reader
import PatchReview.Proofs.DryRun
import PatchReview.Proofs.Conversation
import PatchReview.Proofs.ReviewRequests
import PatchReview.Proofs.LiveSources
import PatchReview.Proofs.PostSwitch
import PatchReview.Proofs.MarkupLines
import PatchReview.Proofs.MarkupScalars
import PatchReview.Proofs.MarkupRoundTrip
import PatchReview.Proofs.DocumentRoundTrip
import PatchReview.Proofs.FilePatternText
import PatchReview.Proofs.PatternSearch
import PatchReview.Proofs.FilePatternMeaning
import PatchReview.Proofs.OrderedFields
import PatchReview.Proofs.MarkupArrangement
import PatchReview.Proofs.OrderedTables
import PatchReview.Proofs.OrderedToml
import PatchReview.Proofs.OrderedSources
import PatchReview.Proofs.SettingKeys
import PatchReview.Proofs.SettingValues
import PatchReview.Proofs.LoadedSettings
import PatchReview.Proofs.TrailerForm
import PatchReview.Proofs.TextLines
import PatchReview.Proofs.PatchLines
import PatchReview.Proofs.HunkPositions
import PatchReview.Proofs.MergedFindings
import PatchReview.Proofs.FileHeaders
import PatchReview.Proofs.FinalLine
import PatchReview.Proofs.ClauseIsolation
import PatchReview.Proofs.PageScan
import PatchReview.Proofs.LivePosting
import PatchReview.Proofs.RefusedBatch
import PatchReview.Proofs.SignificantLines
import PatchReview.Proofs.AppendedBlock
import PatchReview.Proofs.DocumentFraming
import PatchReview.Proofs.FilePatternShortcut
import PatchReview.Proofs.BuiltinRules
import PatchReview.Proofs.OptionalChaining
import PatchReview.Proofs.ClauseList
import PatchReview.Proofs.Layout
import PatchReview.Proofs.InlineLists
import PatchReview.Proofs.FieldLines
import PatchReview.Proofs.DecimalSpelling
import PatchReview.Proofs.PlainScalars
import PatchReview.Proofs.ChangedFiles
import PatchReview.Proofs.ReferenceSpellings
import PatchReview.Proofs.PrintedReferences
import PatchReview.Proofs.ByteOrder
import PatchReview.Proofs.DirectoryEntries
import PatchReview.Proofs.RuleDirectory
import PatchReview.Proofs.BackslashRuns
import PatchReview.Proofs.DocumentEdits
import PatchReview.Proofs.LiteralTexts
import PatchReview.Proofs.EnvironmentTexts
import PatchReview.Proofs.PercentDecoding
import PatchReview.Proofs.TargetPaths
import PatchReview.Proofs.RequestTargets
