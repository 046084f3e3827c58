/-
# Diagnostics

What happens during a run is reported as diagnostics. A diagnostic says what
happened; its level, its target and its wording follow from that.
-/

import CallBench.Clock.Duration
import CallBench.Text.Layout

namespace CallBench

/-- How important a diagnostic is, from the most to the least important. -/
inductive Level where
  | error
  | warn
  | info
  | debug
  | trace
  deriving DecidableEq

namespace Level

/-- Errors have rank one, and every less important level the next rank. -/
def rank : Level → Nat
  | .error => 1
  | .warn => 2
  | .info => 3
  | .debug => 4
  | .trace => 5

/-- The name of a level in a log line. -/
def label : Level → String
  | .error => "ERROR"
  | .warn => "WARN"
  | .info => "INFO"
  | .debug => "DEBUG"
  | .trace => "TRACE"

end Level

/-- Something that happened during a run. -/
inductive Diagnostic where
  /-- A benchmark is about to be timed. -/
  | benchmarkStarted (category title : String)
  /-- A benchmark has been timed. -/
  | benchmarkDone (title : String) (elapsed : Duration)
  /-- All benchmarks of a registry have been timed. -/
  | batchFinished (entries : Nat) (total : Duration)
  /-- A suite has been registered; `total` entries are registered now. -/
  | suiteRegistered (suite : String) (total : Nat)
  /-- The listeners of an event are about to be called. -/
  | eventEmitted (event : String) (listeners : Nat)
  /-- A path has been resolved against the current directory. -/
  | pathResolved (resolved : String)
  /-- The current directory has been asked for. -/
  | directoryRead (dir : String)
  /-- The high-resolution clock has its reference instant. -/
  | clockStarted
  /-- The version of the kernel has been asked for. -/
  | kernelRead (version : String)
  /-- All benchmarks that were asked for are registered. -/
  | benchmarksRegistered (entries : Nat) (categories : List String)
  deriving DecidableEq

/-- What a field of a diagnostic holds. -/
inductive FieldValue where
  /-- Text that is written as it is. -/
  | plain (text : String)
  /-- Text that is written between quotes. -/
  | quoted (text : String)
  | count (number : Nat)
  | elapsed (time : Duration)
  | texts (values : List String)

namespace Diagnostic

/-- The level of a diagnostic. -/
def level : Diagnostic → Level
  | .benchmarkStarted .. | .benchmarkDone .. | .suiteRegistered .. | .clockStarted => .debug
  | .batchFinished .. | .benchmarksRegistered .. => .info
  | .eventEmitted .. | .pathResolved .. | .directoryRead .. | .kernelRead .. => .trace

/-- The part of the program that a diagnostic belongs to. -/
def target : Diagnostic → String
  | .benchmarkStarted .. | .benchmarkDone .. | .batchFinished .. => "yaso::bench"
  | .suiteRegistered .. => "yaso::suites"
  | .eventEmitted .. => "yaso::events"
  | .pathResolved .. => "yaso::path"
  | .directoryRead .. | .clockStarted => "yaso::process"
  | .kernelRead .. => "yaso::os"
  | .benchmarksRegistered .. => "yaso::cli"

/-- What a diagnostic says, apart from its fields. -/
def message : Diagnostic → String
  | .benchmarkStarted .. => "start"
  | .benchmarkDone .. => "done"
  | .batchFinished .. => "batch finished"
  | .suiteRegistered .. => "registered"
  | .eventEmitted .. => "emit"
  | .pathResolved .. => "resolve"
  | .directoryRead .. => "cwd"
  | .clockStarted => "hrtime clock started"
  | .kernelRead .. => "uname"
  | .benchmarksRegistered .. => "benchmarks registered"

/-- The fields of a diagnostic with their names, in the order they are written. -/
def fields : Diagnostic → List (String × FieldValue)
  | .benchmarkStarted category title => [("category", .plain category), ("title", .plain title)]
  | .benchmarkDone title elapsed => [("title", .plain title), ("elapsed_ms", .elapsed elapsed)]
  | .batchFinished entries total => [("entries", .count entries), ("total_ms", .elapsed total)]
  | .suiteRegistered suite total => [("suite", .quoted suite), ("total", .count total)]
  | .eventEmitted event listeners => [("event", .quoted event), ("listeners", .count listeners)]
  | .pathResolved resolved => [("resolved", .plain resolved)]
  | .directoryRead dir => [("dir", .plain dir)]
  | .clockStarted => []
  | .kernelRead version => [("version", .plain version)]
  | .benchmarksRegistered entries categories =>
      [("entries", .count entries), ("categories", .texts categories)]

end Diagnostic

/-- The text of a field, given how times are written. -/
def FieldValue.text (time : Duration → String) : FieldValue → String
  | .plain text => text
  | .quoted text => Text.quoted text
  | .count number => toString number
  | .elapsed duration => time duration
  | .texts values => (Text.Layout.texts values).inline

namespace Diagnostic

/-- A text moved to the right until it is five characters wide. -/
def alignRight (text : String) : String :=
  .ofList (List.replicate (5 - text.length) ' ') ++ text

/-- The line with which a log records a diagnostic: when it happened, its level,
target and message, and its fields. -/
def logLine (moment : String) (time : Duration → String) (diagnostic : Diagnostic) : String :=
  let fields := diagnostic.fields.map fun (name, value) => " " ++ name ++ "=" ++ value.text time
  moment ++ " " ++ alignRight diagnostic.level.label ++ " " ++ diagnostic.target ++ ": " ++
    diagnostic.message ++ "".intercalate fields

end Diagnostic

end CallBench
