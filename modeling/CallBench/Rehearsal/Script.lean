/-
# Scripted actions

A script stands in for the body of a benchmark or a listener where a run is
rehearsed. It notes that it was called, fails or panics as it is told, calls other
scripts, or runs a registry of its own. Every script counts its calls over all runs;
its count is kept under its position among the scripts it belongs to.
-/

import CallBench.Recording
import CallBench.Registry.Run

namespace CallBench.Rehearsal

mutual

/-- What a scripted action does when it is called. -/
inductive Script where
  /-- Nothing. -/
  | idle
  /-- Notes its label, and the argument if there is one. -/
  | log
  /-- Notes its label and the number of the call. -/
  | count
  /-- Fails. -/
  | fail (failure : Failure)
  /-- Panics. -/
  | panic (message : String)
  /-- Fails at one call, counts the others. -/
  | failOnCall (number : Nat) (failure : Failure)
  /-- Panics at one call, counts the others. -/
  | panicOnCall (number : Nat) (message : String)
  /-- Fails for one argument, counts the calls with others. -/
  | failIf (argument : String) (failure : Failure)
  /-- Calls scripts in order, up to the first that stops. -/
  | sequence (scripts : List Script)
  /-- Runs a registry of scripts, then notes the lines of its report. -/
  | nest (entries : List ScriptEntry)

/-- A scripted benchmark. -/
inductive ScriptEntry where
  | mk (category title : String) (script : Script)

end

instance : Inhabited Script :=
  ⟨.idle⟩

/-- What scripts keep from one call to the next. -/
structure Memory where
  /-- The positions of the scripts that have been called, with their counts. -/
  counts : List (List Nat × Nat) := []
  /-- The report of the innermost registry that is running inside a script. -/
  pad : Array String := #[]

/-- A rehearsed run. -/
abbrev Stage : Type → Type :=
  Recorded String Memory

/-- Adds one to the count of a position, and gives the new count. -/
def bump (position : List Nat) : List (List Nat × Nat) → Nat × List (List Nat × Nat)
  | [] => (1, [(position, 1)])
  | (other, count) :: rest =>
      if other = position then (count + 1, (other, count + 1) :: rest)
      else
        let (number, counts) := bump position rest
        (number, (other, count) :: counts)

/-- The number of the call that a script is in. -/
def countCall (position : List Nat) : Stage Nat :=
  Recorded.updateState fun memory =>
    let (number, counts) := bump position memory.counts
    (number, { memory with counts })

/-- Puts a new pad in the place of the old one, which it gives. -/
def exchangePad (pad : Array String) : Stage (Array String) :=
  Recorded.updateState fun memory => (memory.pad, { memory with pad })

/-- Writes a line on the pad. -/
def writePad (line : String) : Stage Unit :=
  Recorded.updateState fun memory => ((), { memory with pad := memory.pad.push line })

/-- Runs a registry whose report goes to a pad of its own. When the run returns or
fails, the lines of the report are noted under a label, with their times masked. -/
def runNested (label : String) (registry : Registry (Stage Unit)) : Stage Unit := do
  let outer ← exchangePad #[]
  let outcome ← attempt (registry.runAll writePad id)
  let lines ← exchangePad outer
  match outcome with
  | .error (.panicked message) => throw (.panicked message)
  | outcome => do
      lines.toList.forM fun line => Recorded.note (label ++ ">" ++ Report.mask line)
      conclude outcome

mutual

/-- Performs a script under a label, with the argument of the emission if it is a
listener. -/
def Script.perform (position : List Nat) (label : String) (argument : Option String) :
    Script → Stage Unit
  | .idle => discard (countCall position)
  | .log => do
      discard (countCall position)
      Recorded.note (match argument with
        | some argument => label ++ ":" ++ argument
        | none => label)
  | .count => do
      Recorded.note (label ++ "#" ++ toString (← countCall position))
  | .fail failure => do
      discard (countCall position)
      throw (.failed failure)
  | .panic message => do
      discard (countCall position)
      throw (.panicked message)
  | .failOnCall number failure => do
      let call ← countCall position
      if call = number then throw (.failed failure)
      Recorded.note (label ++ "#" ++ toString call)
  | .panicOnCall number message => do
      let call ← countCall position
      if call = number then throw (.panicked message)
      Recorded.note (label ++ "#" ++ toString call)
  | .failIf trigger failure => do
      let call ← countCall position
      if argument = some trigger then throw (.failed failure)
      Recorded.note (label ++ "#" ++ toString call)
  | .sequence scripts => do
      discard (countCall position)
      performEach position label argument 0 scripts
  | .nest entries => do
      discard (countCall position)
      runNested label ⟨entryActions position 0 entries⟩

/-- Performs scripts in order, as the parts of one script from `index` on. -/
def performEach (position : List Nat) (label : String) (argument : Option String) (index : Nat) :
    List Script → Stage Unit
  | [] => pure ()
  | script :: rest => do
      script.perform (index :: position) label argument
      performEach position label argument (index + 1) rest

/-- The benchmarks of a script's own registry from `index` on. -/
def entryActions (position : List Nat) (index : Nat) :
    List ScriptEntry → List (Entry (Stage Unit))
  | [] => []
  | entry :: rest =>
      entry.benchmark (index :: position) :: entryActions position (index + 1) rest

/-- A scripted benchmark at a position. It is labelled by its title. -/
def ScriptEntry.benchmark (position : List Nat) : ScriptEntry → Entry (Stage Unit)
  | .mk category title script => ⟨category, title, script.perform position title none⟩

end

/-- A script with its label and its position. -/
structure Performer where
  position : List Nat
  label : String
  script : Script

/-- Performs a script, with the argument of the emission if it is a listener. -/
def Performer.perform (argument : Option String) (performer : Performer) : Stage Unit :=
  performer.script.perform performer.position performer.label argument

end CallBench.Rehearsal
