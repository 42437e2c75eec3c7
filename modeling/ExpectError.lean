import ExpectError.Choice
import ExpectError.ColorMode
import ExpectError.CommandLine.Apply
import ExpectError.CommandLine.Command
import ExpectError.CommandLine.Help
import ExpectError.CommandLine.Program
import ExpectError.CommandLine.Similar
import ExpectError.CommandLine.Usage
import ExpectError.CommandLine.Value
import ExpectError.Comment
import ExpectError.Config.Basic
import ExpectError.Config.Layer
import ExpectError.Config.Load
import ExpectError.Console
import ExpectError.Diagnostic
import ExpectError.Diff.Matching
import ExpectError.Diff.Patch
import ExpectError.Diff.Unified
import ExpectError.Disk
import ExpectError.EditPlan
import ExpectError.Failure
import ExpectError.Fault
import ExpectError.History
import ExpectError.LineBuffer
import ExpectError.Log
import ExpectError.Main
import ExpectError.Markup
import ExpectError.Mutation
import ExpectError.Path
import ExpectError.Proofs.Ambiguity
import ExpectError.Proofs.Block
import ExpectError.Proofs.ColoredPatch
import ExpectError.Proofs.CompleteComment
import ExpectError.Proofs.ConfigLayers
import ExpectError.Proofs.Discovery
import ExpectError.Proofs.DiskFrame
import ExpectError.Proofs.DryRun
import ExpectError.Proofs.EditJournal
import ExpectError.Proofs.EventLog
import ExpectError.Proofs.FailedRun
import ExpectError.Proofs.FileLines
import ExpectError.Proofs.Grouping
import ExpectError.Proofs.Hunks
import ExpectError.Proofs.Interleave
import ExpectError.Proofs.LineEnds
import ExpectError.Proofs.LongestRun
import ExpectError.Proofs.Neighbours
import ExpectError.Proofs.Painting
import ExpectError.Proofs.Partition
import ExpectError.Proofs.Passes
import ExpectError.Proofs.PatchReading
import ExpectError.Proofs.Placement
import ExpectError.Proofs.PlanRun
import ExpectError.Proofs.Questions
import ExpectError.Proofs.RefusedEntries
import ExpectError.Proofs.ReportEffect
import ExpectError.Proofs.ReportLine
import ExpectError.Proofs.ReportOrder
import ExpectError.Proofs.ReportRender
import ExpectError.Proofs.RoundTrip
import ExpectError.Proofs.RunEffect
import ExpectError.Proofs.SampledRun
import ExpectError.Proofs.Script
import ExpectError.Proofs.SecondPass
import ExpectError.Proofs.SecondRun
import ExpectError.Proofs.SiteEntries
import ExpectError.Proofs.Spellings
import ExpectError.Proofs.ValidSettings
import ExpectError.Proofs.Window
import ExpectError.Question
import ExpectError.Random.Sample
import ExpectError.Random.Twister
import ExpectError.Run
import ExpectError.Style.Ansi
import ExpectError.Style.Emphasis
import ExpectError.Style.Paint
import ExpectError.Text.Blank
import ExpectError.Text.Case
import ExpectError.Text.Digit
import ExpectError.Text.Double
import ExpectError.Text.Integer
import ExpectError.Text.Printable
import ExpectError.Text.Quoted
import ExpectError.Text.Ranges
import ExpectError.Text.Split
import ExpectError.Text.Utf8
import ExpectError.Text.Word
import ExpectError.Toml.Document
import ExpectError.Toml.Fault
import ExpectError.Toml.Reader
import ExpectError.Toml.Section
import ExpectError.Toml.Value
