/-
# Timing an action

The time an action takes is what the clock shows after it less what it showed
before. The clock is read again behind an action that fails as well, but then no time is
reported and the failure is passed on. Behind a panic nothing is done any more.
-/

import CallBench.Host

namespace CallBench

/-- Runs an action once and returns how long it took. -/
def timed {m : Type → Type} [Monad m] [MonadClock m] [MonadExceptOf Stop m] (action : m Unit) :
    m Duration := do
  let start ← now
  let result ← resultOf action
  let finish ← now
  ofResult result
  pure (finish.minus start)

end CallBench
