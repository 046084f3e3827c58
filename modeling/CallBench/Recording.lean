/-
# Recorded runs

A run can be recorded instead of acting on the world. The recording keeps in one
journal what the run wrote, reported and noted, so that their order can be told; it
survives failures and panics. The surroundings of a recorded run are given
beforehand, including what the clock will show.
-/

import CallBench.Emitter.Shelf

namespace CallBench

/-- What a recorded run finds around it. -/
structure Surroundings where
  directory : Except SystemError Bytes
  environment : String → Option Bytes
  kernel : Except SystemError Kernel
  /-- What the clock shows when it is read for the first time, the second time and
  so on. -/
  clock : Nat → Duration

/-- Something that a run did. Notes are of the caller's choosing. -/
inductive Signal (ν : Type) where
  /-- The run wrote a line of its report. -/
  | line (text : String)
  /-- The run reported a diagnostic. -/
  | diagnostic (content : Diagnostic)
  /-- The run noted something. -/
  | note (value : ν)
  deriving DecidableEq

namespace Signal

variable {ν : Type}

/-- The line of the report, if the signal is one. -/
def line? : Signal ν → Option String
  | .line text => some text
  | _ => none

/-- The diagnostic, if the signal is one. -/
def diagnostic? : Signal ν → Option Diagnostic
  | .diagnostic content => some content
  | _ => none

/-- The note, if the signal is one. -/
def note? : Signal ν → Option ν
  | .note value => some value
  | _ => none

end Signal

/-- What has been recorded so far. -/
structure Recording (ν σ : Type) where
  /-- What the run did, in order. -/
  journal : Array (Signal ν) := #[]
  /-- How often the clock has been read. -/
  readings : Nat := 0
  /-- The emitters that library calls share. -/
  shelf : Shelf Unit := {}
  /-- What the actions of the run keep from one call to the next. -/
  state : σ

namespace Recording

variable {ν σ : Type}

/-- The recording with one more signal. -/
def push (recording : Recording ν σ) (signal : Signal ν) : Recording ν σ :=
  { recording with journal := recording.journal.push signal }

/-- The recording with an empty journal. -/
def cleared (recording : Recording ν σ) : Recording ν σ :=
  { recording with journal := #[] }

/-- The lines of the report. -/
def lines (recording : Recording ν σ) : List String :=
  recording.journal.toList.filterMap Signal.line?

/-- The diagnostics. -/
def diagnostics (recording : Recording ν σ) : List Diagnostic :=
  recording.journal.toList.filterMap Signal.diagnostic?

/-- The notes. -/
def notes (recording : Recording ν σ) : List ν :=
  recording.journal.toList.filterMap Signal.note?

end Recording

/-- A run that is recorded. What has been recorded stays when the run stops. -/
abbrev Recorded (ν σ : Type) : Type → Type :=
  ReaderT Surroundings (ExceptT Stop (StateM (Recording ν σ)))

namespace Recorded

variable {ν σ α : Type}

/-- Records a signal. -/
def signal (signal : Signal ν) : Recorded ν σ Unit :=
  modify (·.push signal)

/-- Writes a line of the report. -/
def line (text : String) : Recorded ν σ Unit :=
  signal (.line text)

/-- Notes something. -/
def note (value : ν) : Recorded ν σ Unit :=
  signal (.note value)

/-- Writes a line of the report, but panics instead of taking the line of the given
number. -/
def lineRefusing (number : Nat) (text : String) : Recorded ν σ Unit := do
  if (← get).lines.length + 1 = number then
    throw (.panicked ("sink refused line " ++ toString number))
  line text

instance : MonadClock (Recorded ν σ) where
  now := do
    let recording ← get
    set { recording with readings := recording.readings + 1 }
    pure ((← read).clock recording.readings)

instance : MonadDiagnostics (Recorded ν σ) where
  report diagnostic := signal (.diagnostic diagnostic)

instance : MonadHost (Recorded ν σ) where
  currentDirectory := do pure (← read).directory
  environment name := do pure ((← read).environment name)
  kernel := do pure (← read).kernel

instance : MonadStateOf (Shelf Unit) (Recorded ν σ) where
  get := do pure (← getThe (Recording ν σ)).shelf
  set shelf := modifyThe (Recording ν σ) ({ · with shelf })
  modifyGet change := modifyGetThe (Recording ν σ) fun recording =>
    let (value, shelf) := change recording.shelf
    (value, { recording with shelf })

/-- Changes what the actions keep. -/
def updateState (change : σ → α × σ) : Recorded ν σ α :=
  modifyGetThe (Recording ν σ) fun recording =>
    let (value, state) := change recording.state
    (value, { recording with state })

/-- Runs from a recording on: the outcome, and the recording after it. -/
def runFrom (action : Recorded ν σ α) (surroundings : Surroundings)
    (recording : Recording ν σ) : Except Stop α × Recording ν σ :=
  Id.run ((action surroundings).run.run recording)

end Recorded

end CallBench
