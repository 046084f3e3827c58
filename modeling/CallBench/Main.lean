/-
# The command line

Runs the program against the operating system: the clock counts from the start of
the program, the report goes to the standard output, and the log to the standard
error as far as the environment asks for it.
-/

import CallBench.Command.Program
import CallBench.Command.Logging
import Std.Time.DateTime

namespace CallBench.Command

/-- What a run against the operating system knows throughout. -/
structure Session where
  /-- When the clock was started. -/
  start : Nat
  /-- What is logged, if anything. -/
  filter : Option Filter

/-- A run against the operating system. -/
abbrev Live : Type → Type :=
  ReaderT Session (ExceptT Stop (StateT (Shelf Unit) IO))

/-- A number with leading zeros. -/
def padded (width number : Nat) : String :=
  let digits := toString number
  .ofList (List.replicate (width - digits.length) '0') ++ digits

/-- The present moment, in universal time and to the microsecond. -/
def moment : IO String := do
  let stamp := Std.Time.PlainDateTime.ofWallTime
    ((← Std.Time.Timestamp.now).toWallTime Std.Time.TimeZone.Offset.zero)
  let date := padded 4 (stamp.year : Int).toNat ++ "-" ++ padded 2 stamp.month.toNat ++ "-" ++
    padded 2 stamp.day.val.toNat
  let time := padded 2 stamp.hour.val.toNat ++ ":" ++ padded 2 stamp.minute.val.toNat ++ ":" ++
    padded 2 stamp.second.val.toNat ++ "." ++ padded 6 (stamp.nanosecond.val.toNat / 1000)
  pure (date ++ "T" ++ time ++ "Z")

instance : MonadClock Live where
  now := do pure (.ofNanos ((← IO.monoNanosNow) - (← read).start))

instance : MonadDiagnostics Live where
  report diagnostic := do
    if (← read).filter.any (·.allows diagnostic) then
      let line := diagnostic.logLine (← (moment : IO String))
        fun elapsed => Decimal.marked elapsed.milliseconds
      (← (IO.getStderr : IO _)).putStrLn line

instance : MonadHost IO where
  currentDirectory := do
    try pure (.ok (Text.encode (← IO.currentDir).toString))
    catch _ => pure (.error .notFound)
  environment name := do pure ((← IO.getEnv name).map Text.encode)
  kernel := do
    try
      let version ← IO.FS.readFile "/proc/sys/kernel/version"
      pure (.ok ⟨Text.encode "x86_64", Text.encode version.trimAsciiEnd.toString⟩)
    catch _ => pure (.error .notFound)

instance : MonadHost Live where
  currentDirectory := (MonadHost.currentDirectory : IO _)
  environment name := (MonadHost.environment name : IO _)
  kernel := (MonadHost.kernel : IO _)

/-- Writes a line on the standard output. -/
def writeLine (line : String) : Live Unit := do
  (← (IO.getStdout : IO _)).putStrLn line

/-- Runs the program and does what is left to do after it. -/
def runLive (texts : List String) : IO UInt32 := do
  let filter ← (filterOfEnvironment : IO _)
  let session : Session := ⟨← IO.monoNanosNow, filter⟩
  let (outcome, _) ← ((program Arguments.read writeLine texts : Live Ending) session).run.run {}
  let farewell := farewell outcome
  farewell.output.forM IO.println
  farewell.errors.forM IO.eprintln
  pure farewell.status

end CallBench.Command

/-- Runs the program with the arguments it was started with. -/
def main (arguments : List String) : IO UInt32 :=
  CallBench.Command.runLive arguments
