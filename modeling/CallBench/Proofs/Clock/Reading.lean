/-
# Readings and their nanoseconds

A reading that comes from outside may have more than a second of nanoseconds, and it may be
so late that its seconds overflow when whole seconds are carried over. Everything that is
computed with readings is known by numbers of nanoseconds all the same: they fit into 128
bits, a duration has exactly as many as the reading it is made from, and the time since a
reading is the difference of two of them. Only the order of readings needs the nanoseconds
to be below a second.
-/

import CallBench.Clock.Reading
import Mathlib.Algebra.Group.Nat.Defs

namespace CallBench

namespace Duration

theorem toNanos_div (duration : Duration) :
    duration.toNanos / nanosPerSecond = duration.seconds.toNat := by
  have hnanos := duration.nanos_lt
  rw [toNanos, nanosPerSecond] at *
  omega

theorem toNanos_mod (duration : Duration) :
    duration.toNanos % nanosPerSecond = duration.nanos.toNat := by
  have hnanos := duration.nanos_lt
  rw [toNanos, nanosPerSecond] at *
  omega

/-- Seconds and nanoseconds of a duration are found again in its number of nanoseconds. -/
theorem ofNanos_toNanos (duration : Duration) : ofNanos duration.toNanos = duration := by
  simp [ofNanos, toNanos_div, toNanos_mod]

/-- The seconds of a duration leave no room for an overflow when it is made shorter. -/
theorem toNanos_minus (duration other : Duration) :
    (duration.minus other).toNanos = duration.toNanos - other.toNanos := by
  have hseconds : (duration.toNanos - other.toNanos) / nanosPerSecond < UInt64.size :=
    calc (duration.toNanos - other.toNanos) / nanosPerSecond
        ≤ duration.toNanos / nanosPerSecond := Nat.div_le_div_right (Nat.sub_le _ _)
      _ = duration.seconds.toNat := duration.toNanos_div
      _ < UInt64.size := duration.seconds.toNat_lt_size
  exact toNanos_ofNanos hseconds

end Duration

namespace Reading

/-- The seconds of a reading in nanoseconds, in a word of 128 bits. -/
def secondsWord (reading : Reading) : BitVec 128 :=
  reading.seconds.toBitVec.setWidth 128 * .ofNat 128 nanosPerSecond

/-- The number of nanoseconds of a reading, in a word of 128 bits. -/
def nanosWord (reading : Reading) : BitVec 128 :=
  reading.secondsWord + reading.nanos.toBitVec.setWidth 128

theorem toNanos_lt (reading : Reading) : reading.toNanos < 2 ^ 128 := by
  have hseconds := reading.seconds.toNat_lt
  have hnanos := reading.nanos.toNat_lt
  rw [toNanos, nanosPerSecond]
  omega

/-- Neither the product nor the sum leaves the word. -/
theorem nanosWord_exact (reading : Reading) :
    BitVec.umulOverflow (reading.seconds.toBitVec.setWidth 128) (.ofNat 128 nanosPerSecond) =
        false ∧
      BitVec.uaddOverflow reading.secondsWord (reading.nanos.toBitVec.setWidth 128) = false ∧
      reading.nanosWord.toNat = reading.toNanos := by
  have hbound := reading.toNanos_lt
  rw [toNanos] at hbound
  have hseconds : (reading.seconds.toBitVec.setWidth 128).toNat = reading.seconds.toNat :=
    BitVec.toNat_setWidth_of_le (by decide)
  have hnanos : (reading.nanos.toBitVec.setWidth 128).toNat = reading.nanos.toNat :=
    BitVec.toNat_setWidth_of_le (by decide)
  have hunit : (BitVec.ofNat 128 nanosPerSecond).toNat = nanosPerSecond := rfl
  have hproduct : reading.secondsWord.toNat = reading.seconds.toNat * nanosPerSecond := by
    rw [secondsWord, BitVec.toNat_mul, hseconds, hunit]
    exact Nat.mod_eq_of_lt (by omega)
  refine ⟨?_, ?_, ?_⟩
  · simp only [BitVec.umulOverflow, hseconds, hunit, ge_iff_le, decide_eq_false_iff_not]
    omega
  · simp only [BitVec.uaddOverflow, hproduct, hnanos, ge_iff_le, decide_eq_false_iff_not]
    omega
  · rw [nanosWord, BitVec.toNat_add, hproduct, hnanos, toNanos]
    exact Nat.mod_eq_of_lt hbound

theorem carriedSeconds_eq (reading : Reading) :
    reading.carriedSeconds = reading.toNanos / nanosPerSecond := by
  rw [carriedSeconds, toNanos, nanosPerSecond]
  omega

/-- A reading whose seconds fit is as long as its duration. -/
theorem exists_toDuration {reading : Reading}
    (fits : reading.carriedSeconds < UInt64.size) :
    ∃ duration, reading.toDuration = .ok duration ∧ duration.toNanos = reading.toNanos := by
  refine ⟨.ofNanos reading.toNanos, if_pos fits, Duration.toNanos_ofNanos ?_⟩
  rwa [← carriedSeconds_eq]

theorem toDuration_eq_error_iff (reading : Reading) {stop : Stop} :
    reading.toDuration = .error stop ↔
      UInt64.size ≤ reading.carriedSeconds ∧ stop = .panicked "overflow in Duration::new" := by
  rw [toDuration]
  split <;> simp [eq_comm] <;> omega

/-- The time since a reading stops where the reading has no duration, and nowhere else. -/
theorem since_eq_error_iff (now : Duration) (reading : Reading) {stop : Stop} :
    since now reading = .error stop ↔ reading.toDuration = .error stop := by
  rw [since]
  cases reading.toDuration <;> simp [Except.map]

theorem exists_since (now : Duration) {reading : Reading}
    (fits : reading.carriedSeconds < UInt64.size) :
    ∃ left, since now reading = .ok left ∧ left.nanos.toNat < nanosPerSecond ∧
      left.toNanos = now.toNanos - reading.toNanos := by
  obtain ⟨start, hstart, hnanos⟩ := exists_toDuration fits
  refine ⟨ofDuration (now.minus start), ?_, (now.minus start).nanos_lt, ?_⟩
  · rw [since, hstart]
    rfl
  · rw [← hnanos]
    exact now.toNanos_minus start

/-- Below a second of nanoseconds nothing is carried over. -/
theorem toDuration_of_lt {reading : Reading} (hnanos : reading.nanos.toNat < nanosPerSecond) :
    reading.toDuration = .ok ⟨reading.seconds, reading.nanos, hnanos⟩ := by
  have fits : reading.carriedSeconds < UInt64.size := by
    rw [carriedSeconds, Nat.div_eq_of_lt hnanos]
    exact reading.seconds.toNat_lt_size
  rw [toDuration, if_pos fits]
  exact congrArg Except.ok (Duration.ofNanos_toNanos ⟨reading.seconds, reading.nanos, hnanos⟩)

/-- Only a reading with less than a second of nanoseconds comes back from its duration. -/
theorem ofDuration_toDuration_iff (reading : Reading) :
    reading.toDuration.map ofDuration = .ok reading ↔
      reading.nanos.toNat < nanosPerSecond := by
  constructor
  · intro hback
    cases hduration : reading.toDuration with
    | error stop =>
        rw [hduration] at hback
        cases hback
    | ok duration =>
        rw [hduration] at hback
        rw [← Except.ok.inj hback]
        exact duration.nanos_lt
  · intro hnanos
    rw [toDuration_of_lt hnanos]
    rfl

/-- Below a second of nanoseconds, later seconds make for more nanoseconds. -/
theorem toNanos_lt_of_seconds_lt {reading other : Reading}
    (hnanos : reading.nanos.toNat < nanosPerSecond) (hlt : reading.seconds < other.seconds) :
    reading.toNanos < other.toNanos := by
  rw [UInt64.lt_iff_toNat_lt] at hlt
  rw [toNanos, toNanos, nanosPerSecond] at *
  omega

theorem compare_eq_compare_toNanos {reading other : Reading}
    (hreading : reading.nanos.toNat < nanosPerSecond)
    (hother : other.nanos.toNat < nanosPerSecond) :
    Reading.compare reading other = compare reading.toNanos other.toNanos := by
  rw [Reading.compare]
  rcases Nat.lt_trichotomy reading.seconds.toNat other.seconds.toNat with hlt | heq | hgt
  · have hseconds := UInt64.lt_iff_toNat_lt.mpr hlt
    rw [Std.compare_eq_lt.mpr hseconds, Ordering.lt_then,
      Nat.compare_eq_lt.mpr (toNanos_lt_of_seconds_lt hreading hseconds)]
  · -- Within the same second the nanoseconds decide.
    have hnanos : compare reading.nanos other.nanos = compare reading.toNanos other.toNanos := by
      rw [toNanos, toNanos, heq]
      rcases Nat.lt_trichotomy reading.nanos.toNat other.nanos.toNat with hlt | heq | hgt
      · rw [Std.compare_eq_lt.mpr (UInt32.lt_iff_toNat_lt.mpr hlt),
          Nat.compare_eq_lt.mpr (Nat.add_lt_add_left hlt _)]
      · rw [UInt32.toNat_inj.mp heq, Std.compare_self, Std.compare_self]
      · rw [Std.compare_eq_gt.mpr (UInt32.lt_iff_toNat_lt.mpr hgt),
          Nat.compare_eq_gt.mpr (Nat.add_lt_add_left hgt _)]
    rw [UInt64.toNat_inj.mp heq, Std.compare_self, Ordering.eq_then, hnanos]
  · have hseconds := UInt64.lt_iff_toNat_lt.mpr hgt
    rw [Std.compare_eq_gt.mpr hseconds, Ordering.gt_then,
      Nat.compare_eq_gt.mpr (toNanos_lt_of_seconds_lt hother hseconds)]

theorem toNanos_inj {reading other : Reading}
    (hreading : reading.nanos.toNat < nanosPerSecond)
    (hother : other.nanos.toNat < nanosPerSecond) :
    reading.toNanos = other.toNanos ↔ reading = other := by
  constructor
  · intro hequal
    have hdurations : (⟨reading.seconds, reading.nanos, hreading⟩ : Duration) =
        ⟨other.seconds, other.nanos, hother⟩ := by
      rw [← Duration.ofNanos_toNanos ⟨reading.seconds, reading.nanos, hreading⟩,
        ← Duration.ofNanos_toNanos ⟨other.seconds, other.nanos, hother⟩]
      exact congrArg Duration.ofNanos hequal
    exact congrArg ofDuration hdurations
  · exact congrArg toNanos

/-- What is computed with a reading, told in nanoseconds. -/
structure Exact (reading : Reading) : Prop where
  toNanos_eq : reading.toNanos = reading.seconds.toNat * 10 ^ 9 + reading.nanos.toNat
  /-- In words of 128 bits neither the product nor the sum overflows. -/
  fits_word :
    BitVec.umulOverflow (reading.seconds.toBitVec.setWidth 128) (.ofNat 128 nanosPerSecond) =
      false ∧
    BitVec.uaddOverflow reading.secondsWord (reading.nanos.toBitVec.setWidth 128) = false ∧
    reading.nanosWord.toNat = reading.toNanos
  panics_iff : reading.toDuration = .error (.panicked "overflow in Duration::new") ↔
    2 ^ 64 ≤ reading.seconds.toNat + reading.nanos.toNat / 10 ^ 9
  duration : reading.seconds.toNat + reading.nanos.toNat / 10 ^ 9 < 2 ^ 64 →
    ∃ duration, reading.toDuration = .ok duration ∧ duration.toNanos = reading.toNanos
  since_panics_iff : ∀ now, since now reading = .error (.panicked "overflow in Duration::new") ↔
    2 ^ 64 ≤ reading.seconds.toNat + reading.nanos.toNat / 10 ^ 9
  /-- The time since the reading is the difference to the clock, or nothing. -/
  since : reading.seconds.toNat + reading.nanos.toNat / 10 ^ 9 < 2 ^ 64 →
    ∀ now, ∃ left, Reading.since now reading = .ok left ∧ left.nanos.toNat < 10 ^ 9 ∧
      (left.toNanos : Int) = max 0 ((now.toNanos : Int) - reading.toNanos)
  comes_back_iff : reading.toDuration.map ofDuration = .ok reading ↔ reading.nanos.toNat < 10 ^ 9
  /-- Readings below a second in their nanoseconds are ordered and told apart by their numbers. -/
  order : ∀ other : Reading, reading.nanos.toNat < 10 ^ 9 → other.nanos.toNat < 10 ^ 9 →
    Reading.compare reading other = compare reading.toNanos other.toNanos ∧
      (reading = other ↔ reading.toNanos = other.toNanos)

/-- **What is computed with readings is exact.** Their number of nanoseconds is an integer
that no step of its computation in 128 bits overflows. A reading has a duration, which is
exactly as long, unless its seconds and those in its nanoseconds come to 2 ^ 64 or more; then
there is a panic, also when the time since the reading is asked for. That time is otherwise
the difference to the clock, or nothing, and it is below a second in its nanoseconds. A
reading comes back from its duration exactly when its own nanoseconds are below a second, and
readings of this kind are ordered, and told apart, as their numbers of nanoseconds are. -/
theorem exact_in_nanos (reading : Reading) : reading.Exact := by
  have hpanics : reading.toDuration = .error (.panicked "overflow in Duration::new") ↔
      UInt64.size ≤ reading.carriedSeconds := by
    simp [toDuration_eq_error_iff]
  refine ⟨rfl, reading.nanosWord_exact, hpanics, exists_toDuration, ?sincePanics, ?since,
    reading.ofDuration_toDuration_iff, ?order⟩
  case sincePanics =>
    intro now
    rw [since_eq_error_iff, hpanics]
    rfl
  case since =>
    intro fits now
    obtain ⟨left, hleft, hnanos, htime⟩ := exists_since now fits
    refine ⟨left, hleft, hnanos, ?_⟩
    rw [htime]
    omega
  case order =>
    intro other hreading hother
    exact ⟨compare_eq_compare_toNanos hreading hother, (toNanos_inj hreading hother).symm⟩

/-- Four seconds are carried over into the last second there is, a nanosecond before the
clock. A reading with a second has more nanoseconds than one that just misses it. -/
theorem exact_in_nanos_in_last_second :
    let last : Reading := ⟨18446744073709551611, 4294967295⟩
    let clock : Duration := ⟨18446744073709551615, 294967296, by decide⟩
    let short : Reading := ⟨0, 999999999⟩
    let full : Reading := ⟨1, 0⟩
    (last.seconds.toNat + last.nanos.toNat / 10 ^ 9 < 2 ^ 64 ∧
      (∃ duration, last.toDuration = .ok duration ∧ duration.toNanos = last.toNanos) ∧
      ∃ left, since clock last = .ok left ∧ left.toNanos = 1) ∧
    short.nanos.toNat < 10 ^ 9 ∧ full.nanos.toNat < 10 ^ 9 ∧
      Reading.compare short full = .lt ∧ short ≠ full := by
  intro last clock short full
  have fits : last.seconds.toNat + last.nanos.toNat / 10 ^ 9 < 2 ^ 64 := by decide
  have hshort : short.nanos.toNat < 10 ^ 9 := by decide
  have hfull : full.nanos.toNat < 10 ^ 9 := by decide
  have exact_last := exact_in_nanos last
  obtain ⟨hcompare, hequal⟩ := (exact_in_nanos short).order full hshort hfull
  obtain ⟨left, hleft, -, htime⟩ := exact_last.since fits clock
  have hone : max 0 ((clock.toNanos : Int) - last.toNanos) = 1 := by decide
  refine ⟨⟨fits, exact_last.duration fits, left, hleft, ?_⟩, hshort, hfull, ?_, ?_⟩
  · exact Int.ofNat.inj (htime.trans hone)
  · rw [hcompare]
    decide
  · exact mt hequal.mp (by decide)

end Reading

end CallBench
