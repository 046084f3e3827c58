/-
# Readings of the high-resolution clock

A reading is a pair of seconds and nanoseconds since the reference instant. The
clock keeps the nanoseconds below one second, but a pair that comes from outside
need not: turning it into a duration carries whole seconds over and panics when
they no longer fit.
-/

import CallBench.Clock.Duration
import CallBench.Failure
import CallBench.Text.Layout

namespace CallBench

/-- A pair of seconds and nanoseconds. -/
structure Reading where
  seconds : UInt64
  nanos : UInt32
  deriving DecidableEq

namespace Reading

/-- The reading at a distance from the reference instant. -/
def ofDuration (duration : Duration) : Reading :=
  ⟨duration.seconds, duration.nanos⟩

/-- The number of nanoseconds; it stays below 2 ^ 128. -/
def toNanos (reading : Reading) : Nat :=
  reading.seconds.toNat * nanosPerSecond + reading.nanos.toNat

/-- The seconds after whole seconds have been carried over from the nanoseconds. -/
def carriedSeconds (reading : Reading) : Nat :=
  reading.seconds.toNat + reading.nanos.toNat / nanosPerSecond

/-- The distance from the reference instant, unless its seconds overflow. -/
def toDuration (reading : Reading) : Except Stop Duration :=
  if reading.carriedSeconds < UInt64.size then .ok (.ofNanos reading.toNanos)
  else .error (.panicked "overflow in Duration::new")

/-- The time from an earlier reading until now; none if that reading is in the
future. -/
def since (now : Duration) (previous : Reading) : Except Stop Reading :=
  previous.toDuration.map fun start => ofDuration (now.minus start)

/-- Readings are ordered by their seconds, then by their nanoseconds. -/
protected def compare (reading other : Reading) : Ordering :=
  (compare reading.seconds other.seconds).then (compare reading.nanos other.nanos)

/-- The reading as it is shown to a reader. -/
def layout (reading : Reading) : Text.Layout :=
  .record "HrTime"
    [("secs", .number reading.seconds.toNat), ("nanos", .number reading.nanos.toNat)] false

end Reading

end CallBench
