/-
# The report of a run

A run writes a report line by line. Times stand in two kinds of lines only; two
reports of the same run differ in nothing else, so they are compared with the times
masked.
-/

import CallBench.Clock.Duration

namespace CallBench.Report

/-- Announces a benchmark. -/
def running (category title : String) : String :=
  "Running " ++ title ++ " of " ++ category ++ " benchmarks.."

/-- A line with a time. -/
def took (time purpose : String) : String :=
  "Took " ++ time ++ "ms to run " ++ purpose

/-- What a line tells the time of: one benchmark. -/
def single : String :=
  "the benchmark"

/-- What a line tells the time of: the whole batch. -/
def batch : String :=
  "all benchmarks"

/-- Tells how long a benchmark took. -/
def tookSingle (elapsed : Duration) : String :=
  took elapsed.millisText single

/-- Tells how long all benchmarks together took. -/
def tookBatch (total : Duration) : String :=
  took total.millisText batch

/-- The end of a text after a given start. -/
def afterStart? (start text : List Char) : Option (List Char) :=
  if start.isPrefixOf text then some (text.drop start.length) else none

/-- The start of a text before a given end. -/
def beforeEnd? (finish text : List Char) : Option (List Char) :=
  if finish.isSuffixOf text then some (text.take (text.length - finish.length)) else none

/-- The time in a line of the given purpose. -/
def timeIn? (purpose : String) (line : String) : Option (List Char) :=
  (afterStart? "Took ".toList line.toList).bind
    (beforeEnd? ("ms to run " ++ purpose).toList)

/-- The line with its time masked, if it has one in the form the report writes. -/
def mask (line : String) : String :=
  let timed := [single, batch].find? fun purpose => (timeIn? purpose line).any Decimal.isPlain
  match timed with
  | some purpose => took "<ms>" purpose
  | none => line

end CallBench.Report
