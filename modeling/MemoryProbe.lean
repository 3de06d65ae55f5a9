import MemoryProbe.BuildScript
import MemoryProbe.ByteCount.Basic
import MemoryProbe.ByteCount.Binary64
import MemoryProbe.ByteCount.Size
import MemoryProbe.Bytes.Utf8
import MemoryProbe.CommandLine.Help
import MemoryProbe.CommandLine.Parse
import MemoryProbe.CommandLine.Setting
import MemoryProbe.FileTree
import MemoryProbe.Git.Attributes
import MemoryProbe.Git.Clean
import MemoryProbe.Git.Glob
import MemoryProbe.Git.Ignore
import MemoryProbe.Git.Index
import MemoryProbe.Git.Object
import MemoryProbe.Git.PathPattern
import MemoryProbe.Git.Repository
import MemoryProbe.Git.Sha1
import MemoryProbe.Json.Quoted
import MemoryProbe.Library
import MemoryProbe.Log.Date
import MemoryProbe.Log.Directive
import MemoryProbe.Log.Event
import MemoryProbe.Log.Filter
import MemoryProbe.Log.Rotation
import MemoryProbe.LogPath
import MemoryProbe.Machine.MemInfo
import MemoryProbe.Machine.Metal
import MemoryProbe.Machine.Nvml
import MemoryProbe.Machine.Platform
import MemoryProbe.Main
import MemoryProbe.PanicHook
import MemoryProbe.Probe
import MemoryProbe.Proofs.Admission
import MemoryProbe.Proofs.Agreement
import MemoryProbe.Proofs.BuildScript
import MemoryProbe.Proofs.ByteCount.Rounding
import MemoryProbe.Proofs.ByteCount.SizeOrder
import MemoryProbe.Proofs.ByteCount.SizeReading
import MemoryProbe.Proofs.ByteCount.SizeRoundTrip
import MemoryProbe.Proofs.ByteCount.SizeText
import MemoryProbe.Proofs.Calls
import MemoryProbe.Proofs.Capture
import MemoryProbe.Proofs.CommandLine.Given
import MemoryProbe.Proofs.CommandLine.Grammar
import MemoryProbe.Proofs.CommandLine.Groups
import MemoryProbe.Proofs.CommandLine.Values
import MemoryProbe.Proofs.CommandLine.Variables
import MemoryProbe.Proofs.FailingSink
import MemoryProbe.Proofs.FileTree
import MemoryProbe.Proofs.FitTest
import MemoryProbe.Proofs.HelpText
import MemoryProbe.Proofs.Json.Reader
import MemoryProbe.Proofs.Json.RoundTrip
import MemoryProbe.Proofs.Json.Snapshot
import MemoryProbe.Proofs.Json.Value
import MemoryProbe.Proofs.JsonReport
import MemoryProbe.Proofs.Lines
import MemoryProbe.Proofs.Log.Date
import MemoryProbe.Proofs.Log.Filter
import MemoryProbe.Proofs.Log.Pruning
import MemoryProbe.Proofs.Log.Rotation
import MemoryProbe.Proofs.LogPath
import MemoryProbe.Proofs.LogPath.Components
import MemoryProbe.Proofs.LogPath.Division
import MemoryProbe.Proofs.NvmlSession
import MemoryProbe.Proofs.OneRead
import MemoryProbe.Proofs.PanicHook
import MemoryProbe.Proofs.PlatformSnapshot
import MemoryProbe.Proofs.Probe.Course
import MemoryProbe.Proofs.Probe.Refusal
import MemoryProbe.Proofs.Probe.Rotation
import MemoryProbe.Proofs.Probe.Samples
import MemoryProbe.Proofs.Queries
import MemoryProbe.Proofs.Reporting
import MemoryProbe.Proofs.Session.Answers
import MemoryProbe.Proofs.Session.CombinedRead
import MemoryProbe.Proofs.Session.Events
import MemoryProbe.Proofs.Session.Exchange
import MemoryProbe.Proofs.Session.FixedReplies
import MemoryProbe.Proofs.Session.History
import MemoryProbe.Proofs.Session.Reads
import MemoryProbe.Proofs.Session.Sides
import MemoryProbe.Proofs.Text.Decimal
import MemoryProbe.Proofs.Text.Marks
import MemoryProbe.Proofs.TextReport
import MemoryProbe.Proofs.Utf8
import MemoryProbe.Proofs.Version
import MemoryProbe.Query
import MemoryProbe.QueryError
import MemoryProbe.Regex.Bracket
import MemoryProbe.Regex.Check
import MemoryProbe.Regex.Escape
import MemoryProbe.Regex.Scope
import MemoryProbe.Report
import MemoryProbe.Session
import MemoryProbe.Snapshot.Basic
import MemoryProbe.Snapshot.Json
import MemoryProbe.Snapshot.Text
import MemoryProbe.Text.Alphabetic
import MemoryProbe.Text.Blank
import MemoryProbe.Text.Cut
import MemoryProbe.Text.Decimal
import MemoryProbe.Text.Fraction
import MemoryProbe.Text.Numeric
import MemoryProbe.Text.Printable
import MemoryProbe.Traced
import MemoryProbe.Version
