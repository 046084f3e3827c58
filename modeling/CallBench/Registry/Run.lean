/-
# Running a registry

Every benchmark is announced, timed and reported, in the order of registration. The
first action that stops ends the run: nothing is reported for it, and its own reason
is passed on unchanged. After the last benchmark the time of the whole batch is
reported, which includes the time spent on reporting.
-/

import CallBench.Clock.Timer
import CallBench.Registry.InPlace
import CallBench.Registry.Report

namespace CallBench

variable {m : Type → Type} [Monad m] [MonadClock m] [MonadDiagnostics m] [MonadExceptOf Stop m]
  {α : Type}

/-- Runs one benchmark. `line` takes the lines of the report and `call` performs an
action. -/
def Entry.run (line : String → m Unit) (call : α → m Unit) (entry : Entry α) : m Unit := do
  line (Report.running entry.category entry.title)
  report (.benchmarkStarted entry.category entry.title)
  let elapsed ← timed (call entry.action)
  line (Report.tookSingle elapsed)
  line ""
  report (.benchmarkDone entry.title elapsed)

/-- Runs all benchmarks of a registry. -/
def Registry.runAll (line : String → m Unit) (call : α → m Unit) (registry : Registry α) :
    m Unit := do
  let total ← timed (registry.entries.forM (Entry.run line call))
  line (Report.tookBatch total)
  line ""
  report (.batchFinished registry.size total)

/-- Runs all benchmarks of a registry where they stand. -/
def Registry.runInPlace (line : String → m Unit) (call : α → m Unit) : InPlace α m Unit := do
  let registry ← getThe (Registry α)
  InPlace.beside (registry.runAll line call)

end CallBench
