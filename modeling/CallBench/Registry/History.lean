/-
# Histories of a registry

A registry grows by benchmarks and suites and is run any number of times. Each step is taken
on the registry that the step before has left, however that ended; what the actions keep and
what they share goes on from one step to the next.
-/

import CallBench.Library.Suite
import CallBench.Recording
import CallBench.Registry.Run

namespace CallBench.Registry

/-- One step in the life of a registry. -/
inductive Step (α : Type) where
  /-- A benchmark is registered. -/
  | register (category title : String) (action : α)
  /-- The suite of a name is registered, if there is one. -/
  | suite (name : String)
  /-- A suite is registered directly. -/
  | part (suite : Suite)
  /-- All suites are registered. -/
  | allSuites
  /-- All benchmarks are run, with a report that refuses the line of the given number;
  no line has the number zero. -/
  | run (refused : Nat)

variable {ν σ α : Type}

/-- The work of a step. `call` performs the job of a benchmark. -/
def advance (call : Job α → Recorded ν σ Unit) :
    Step α → InPlace (Job α) (Recorded ν σ) Unit
  | .register category title action => modifyThe (Registry (Job α))
      (·.register category title (.custom action))
  | .suite name => Suite.enroll name
  | .part suite => InPlace.update suite.register
  | .allSuites => InPlace.update Suite.registerAll
  | .run refused => runInPlace (Recorded.lineRefusing refused) call

/-- The registry that a step leaves, however it ends. -/
def follow (call : Job α → Recorded ν σ Unit) (registry : Registry (Job α)) (step : Step α) :
    Recorded ν σ (Registry (Job α)) :=
  Prod.snd <$> (advance call step).on registry

/-- The registry that a history leads to, from a new one. -/
def replay (call : Job α → Recorded ν σ Unit) (steps : List (Step α)) :
    Recorded ν σ (Registry (Job α)) :=
  steps.foldlM (follow call) {}

end CallBench.Registry
