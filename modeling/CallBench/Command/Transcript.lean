/-
# Transcripts

A transcript is what a run of the program leaves behind: its exit status and the
lines on its two streams. It is made from a recorded run, so the log has neither the
moment nor the times of an actual run in it.
-/

import CallBench.Command.Program
import CallBench.Command.Logging
import CallBench.Recording

namespace CallBench.Command

/-- What a run leaves behind. -/
structure Transcript where
  status : UInt32
  /-- The lines on the standard output. -/
  output : List String
  /-- The lines of the log, which come first on the standard error. -/
  log : List String
  /-- The lines that follow the log. -/
  errors : List String

/-- How a transcript writes what differs from run to run. -/
structure Placeholders where
  moment : String
  time : Duration → String

/-- The transcript of a run, given how arguments are read and what it finds around it. -/
def rehearseReading (read : List String → Except Interruption Arguments)
    (placeholders : Placeholders) (surroundings : Surroundings) (texts : List String) :
    Transcript :=
  let run : Recorded Empty Unit Ending := program read Recorded.line texts
  let (outcome, recording) := run.runFrom surroundings { state := () }
  let (filter, _) :=
    (filterOfEnvironment : Recorded Empty Unit _).runFrom surroundings { state := () }
  let logged := match filter with
    | .ok (some filter) => recording.diagnostics.filter filter.allows
    | _ => []
  let farewell := farewell outcome
  { status := farewell.status
    output := recording.lines ++ farewell.output
    log := logged.map fun diagnostic =>
      diagnostic.logLine placeholders.moment placeholders.time
    errors := farewell.errors }

/-- The transcript of a run on the command line. -/
def rehearse (placeholders : Placeholders) (surroundings : Surroundings) (texts : List String) :
    Transcript :=
  rehearseReading Arguments.read placeholders surroundings texts

end CallBench.Command
