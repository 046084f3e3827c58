/-
# Calls seen from outside

A call is noted with what can be seen of it from outside: how it ended, what it reported, and
the shared emitters before and after it. What the action writes into the journal on its own is
dropped.
-/

import CallBench.Proofs.Registry.Calls

namespace CallBench

/-- What is seen of a call from outside. -/
structure Sighting (α : Type) where
  job : Job α
  outcome : Except Stop Unit
  /-- The diagnostics that were reported during the call. -/
  reported : List Diagnostic
  /-- The shared emitters before the call. -/
  before : Shelf Unit
  /-- The shared emitters after the call. -/
  after : Shelf Unit

namespace Registry

open Recorded

variable {α σ : Type}

/-- Performs a job and notes what is seen of it. The job's own signals are not kept. -/
def watching (perform : Job α → Recorded (Sighting α) σ Unit) (job : Job α) :
    Recorded (Sighting α) σ Unit := do
  let before ← getThe (Recording (Sighting α) σ)
  let outcome ← attempt (perform job)
  let after ← getThe (Recording (Sighting α) σ)
  modifyThe (Recording (Sighting α) σ) ({ · with journal := before.journal })
  note ⟨job, outcome, reportedSince before after, before.shelf, after.shelf⟩
  conclude outcome

/-- A call that is watched ends as the job does, and is one signal. -/
theorem runFrom_watching (perform : Job α → Recorded (Sighting α) σ Unit) (job : Job α)
    (surroundings : Surroundings) (recording : Recording (Sighting α) σ) :
    (watching perform job).runFrom surroundings recording =
      let (outcome, later) := (perform job).runFrom surroundings recording
      (outcome, { later with
        journal := recording.journal.push (.note
          ⟨job, outcome, reportedSince recording later, recording.shelf, later.shelf⟩) }) := by
  simp only [watching, runFrom_bind, runFrom_getThe, runFrom_attempt, runFrom_modifyThe,
    runFrom_note, runFrom_conclude, Recording.push]

theorem notes_watching (perform : Job α → Recorded (Sighting α) σ Unit) :
    Notes Sighting.job (watching perform) := by
  intro job surroundings recording
  have hrun := runFrom_watching perform job surroundings recording
  generalize (perform job).runFrom surroundings recording = run at hrun
  obtain ⟨outcome, later⟩ := run
  refine ⟨outcome, ⟨job, outcome, reportedSince recording later, recording.shelf, later.shelf⟩,
    ⟨?_, ?_⟩, rfl⟩
  · rw [hrun]
  · rw [hrun]
    exact Array.toList_push

end Registry

end CallBench
