import CallBench.Clock.Duration
import CallBench.Clock.Reading
import CallBench.Clock.Timer
import CallBench.Command.Arguments
import CallBench.Command.Logging
import CallBench.Command.Program
import CallBench.Command.Transcript
import CallBench.Decimal.Shortest
import CallBench.Decimal.Written
import CallBench.Diagnostic.Basic
import CallBench.Diagnostic.Filter
import CallBench.Emitter.Basic
import CallBench.Emitter.History
import CallBench.Emitter.Shelf
import CallBench.Failure
import CallBench.Host
import CallBench.Library.Call
import CallBench.Library.Loan
import CallBench.Library.Suite
import CallBench.Main
import CallBench.Path
import CallBench.Path.Bytes
import CallBench.Path.Canonical
import CallBench.Path.Combine
import CallBench.Path.Parts
import CallBench.Path.Portion
import CallBench.Path.Segment
import CallBench.Path.Unit
import CallBench.Path.Walk
import CallBench.Proofs.Clock.Reading
import CallBench.Proofs.Command.Logging
import CallBench.Proofs.Command.Modes
import CallBench.Proofs.Emitter.Emission
import CallBench.Proofs.Emitter.Identity
import CallBench.Proofs.Emitter.Live
import CallBench.Proofs.Emitter.Refinement
import CallBench.Proofs.Emitter.Storage
import CallBench.Proofs.Library.Benchmarks
import CallBench.Proofs.Library.Events
import CallBench.Proofs.Library.Registration
import CallBench.Proofs.Library.TemporaryDirectory
import CallBench.Proofs.Path.Agreement
import CallBench.Proofs.Path.Bytes
import CallBench.Proofs.Path.Canonical
import CallBench.Proofs.Path.Climbing
import CallBench.Proofs.Path.Composition
import CallBench.Proofs.Path.Cut
import CallBench.Proofs.Path.Entry
import CallBench.Proofs.Path.Extension
import CallBench.Proofs.Path.Joining
import CallBench.Proofs.Path.LastDot
import CallBench.Proofs.Path.Meaning
import CallBench.Proofs.Path.NormalForm
import CallBench.Proofs.Path.Parts
import CallBench.Proofs.Path.Reassembly
import CallBench.Proofs.Path.Resolution
import CallBench.Proofs.Recording.Agreement
import CallBench.Proofs.Recording.Invariant
import CallBench.Proofs.Recording.Journal
import CallBench.Proofs.Recording.Refusal
import CallBench.Proofs.Registry.Calls
import CallBench.Proofs.Registry.Categories
import CallBench.Proofs.Registry.Emissions
import CallBench.Proofs.Registry.Growth
import CallBench.Proofs.Registry.InPlace
import CallBench.Proofs.Registry.Journal
import CallBench.Proofs.Registry.Lines
import CallBench.Proofs.Registry.Refusal
import CallBench.Proofs.Registry.Survival
import CallBench.Proofs.Registry.Watch
import CallBench.Proofs.Text.Boundary
import CallBench.Proofs.Text.Encoding
import CallBench.Proofs.Text.Trim
import CallBench.Recording
import CallBench.Registry.Basic
import CallBench.Registry.History
import CallBench.Registry.InPlace
import CallBench.Registry.Report
import CallBench.Registry.Run
import CallBench.Rehearsal.Script
import CallBench.Text.Alphanumeric
import CallBench.Text.Blank
import CallBench.Text.CodePoint
import CallBench.Text.Layout
import CallBench.Text.Printable
import CallBench.Text.Quoted
import CallBench.Text.Slice
import CallBench.Text.Utf8
