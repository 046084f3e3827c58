/-
# Durations

A duration is a whole number of seconds below 2 ^ 64 and less than one further
second in nanoseconds. Its length in milliseconds is its exact number of
nanoseconds, rounded to a double and divided by a million.
-/

import CallBench.Decimal.Written

namespace CallBench

/-- Nanoseconds in a second. -/
def nanosPerSecond : Nat :=
  1000000000

/-- A length of time. -/
structure Duration where
  seconds : UInt64
  nanos : UInt32
  nanos_lt : nanos.toNat < nanosPerSecond := by decide
  deriving DecidableEq

namespace Duration

/-- The number of nanoseconds. -/
def toNanos (duration : Duration) : Nat :=
  duration.seconds.toNat * nanosPerSecond + duration.nanos.toNat

/-- The duration of so many nanoseconds. Seconds are counted modulo 2 ^ 64. -/
def ofNanos (count : Nat) : Duration where
  seconds := .ofNat (count / nanosPerSecond)
  nanos := .ofNat (count % nanosPerSecond)
  nanos_lt := by
    have h : count % nanosPerSecond < nanosPerSecond := Nat.mod_lt _ (by decide)
    have hsize : nanosPerSecond < 2 ^ 32 := by decide
    rw [UInt32.toNat_ofNat_of_lt' (Nat.lt_trans h hsize)]
    exact h

/-- Nothing is lost as long as the seconds fit. -/
theorem toNanos_ofNanos {count : Nat} (seconds : count / nanosPerSecond < UInt64.size) :
    (ofNanos count).toNanos = count := by
  have nanos : count % nanosPerSecond < 2 ^ 32 :=
    Nat.lt_trans (Nat.mod_lt _ (by decide)) (by decide : nanosPerSecond < 2 ^ 32)
  rw [toNanos, ofNanos, UInt64.toNat_ofNat_of_lt' seconds, UInt32.toNat_ofNat_of_lt' nanos]
  exact Nat.div_add_mod' count nanosPerSecond

/-- What is left of one duration after another; nothing if the other is longer. -/
def minus (duration other : Duration) : Duration :=
  ofNanos (duration.toNanos - other.toNanos)

/-- The length in milliseconds. -/
def milliseconds (duration : Duration) : Float :=
  Float.ofNat duration.toNanos / 1000000.0

/-- The length in milliseconds, as the report writes it. -/
def millisText (duration : Duration) : String :=
  Decimal.plain duration.milliseconds

end Duration

end CallBench
