/-
# The program

The program starts the clock, reads its arguments, registers the suites it is asked
for, and then lists or runs the benchmarks. A suite that does not exist stops it
before anything is written. How arguments are read is left open.
-/

import CallBench.Command.Arguments
import CallBench.Library.Suite
import CallBench.Registry.Run

namespace CallBench.Command

/-- How the program ends when it does not stop. -/
inductive Ending where
  | finished
  | interrupted (interruption : Interruption)
  deriving DecidableEq

section

variable {m : Type → Type} [Monad m] [MonadClock m] [MonadDiagnostics m] [MonadHost m]
  [MonadExceptOf Stop m] [MonadStateOf (Shelf Unit) m]

/-- Performs the job of a benchmark that is in a suite. -/
def performJob (job : Job Empty) : m Unit :=
  job.perform nofun

/-- The work of the program. `line` writes a line and `call` performs a job. -/
def work (line : String → m Unit) (call : Job Empty → m Unit) (arguments : Arguments) :
    m Unit := do
  let registry : Registry (Job Empty) ← Suite.registryOf arguments.suites
  report (.benchmarksRegistered registry.size registry.categories)
  if arguments.list then registry.listing.forM line
  else registry.runAll line call

/-- The program, given how arguments are read and those after its name. -/
def program (read : List String → Except Interruption Arguments) (line : String → m Unit)
    (texts : List String) : m Ending := do
  CurrentProcess.startClock
  match read texts with
  | .error interruption => pure (.interrupted interruption)
  | .ok arguments => do
      work line performJob arguments
      pure .finished

end

/-- What is left to do when the program has ended. -/
structure Farewell where
  /-- The exit status. -/
  status : UInt32
  /-- Lines for the standard output. -/
  output : List String := []
  /-- Lines for the standard error. -/
  errors : List String := []
  deriving DecidableEq

/-- What is left to do after an ending or a stop. -/
def farewell : Except Stop Ending → Farewell
  | .ok .finished => { status := 0 }
  | .ok (.interrupted .help) => { status := 0, output := helpLines }
  | .ok (.interrupted .version) => { status := 0, output := [versionLine] }
  | .ok (.interrupted (.misuse misuse)) => { status := 2, errors := misuse.text :: usageLines }
  | .error (.failed failure) => { status := 1, errors := failure.report }
  | .error (.panicked message) => { status := 101, errors := [message] }

end CallBench.Command
