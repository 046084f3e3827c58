/-
# What a run needs from its surroundings

The library is written for every monad that offers a clock, takes diagnostics and
answers questions about the host. A program runs it in a monad that asks the
operating system; a rehearsal runs the same definitions in one that records what
happens.
-/

import CallBench.Clock.Duration
import CallBench.Diagnostic.Basic
import CallBench.Failure

namespace CallBench

/-- Bytes as the operating system hands them over. -/
abbrev Bytes : Type := List UInt8

/-- How the kernel describes itself. -/
structure Kernel where
  machine : Bytes
  version : Bytes

/-- A monad with a clock. -/
class MonadClock (m : Type → Type) where
  /-- The time since the reference instant. -/
  now : m Duration

/-- A monad that takes diagnostics. -/
class MonadDiagnostics (m : Type → Type) where
  /-- Reports what has happened. -/
  report : Diagnostic → m Unit

/-- A monad that can ask about the host. -/
class MonadHost (m : Type → Type) where
  /-- The directory that relative paths start from. -/
  currentDirectory : m (Except SystemError Bytes)
  /-- The value of an environment variable, if it is set. -/
  environment : String → m (Option Bytes)
  /-- The running kernel. -/
  kernel : m (Except SystemError Kernel)

export MonadClock (now)
export MonadDiagnostics (report)

/-- Fails with a cause of the operating system, within a context. -/
def orFail {m : Type → Type} [Monad m] [MonadExceptOf Stop m] {α : Type} (context : String) :
    Except SystemError α → m α
  | .ok value => pure value
  | .error error => throw (.failed ⟨.system error, [context]⟩)

end CallBench
