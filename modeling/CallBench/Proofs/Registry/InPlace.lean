/-
# Runs of work on a registry

Work on a registry is gone through like any other run, but for one thing more: beside the
outcome each part leaves a registry, and the next part goes on with it. Where the work stops,
the registry is the one that has been left by then. So a registry that has been changed and
one that has been left alone can be told apart also behind a stop.
-/

import CallBench.Proofs.Recording.Journal
import CallBench.Registry.Run

namespace CallBench.Registry

open Recorded

variable {α β γ ν σ : Type}

namespace InPlace

theorem runFrom_on_bind (work : InPlace α (Recorded ν σ) β)
    (next : β → InPlace α (Recorded ν σ) γ) (registry : Registry α) (surroundings : Surroundings)
    (recording : Recording ν σ) :
    (on (work >>= next) registry).runFrom surroundings recording =
      match (work.on registry).runFrom surroundings recording with
      | (.ok (.ok value, left), later) => ((next value).on left).runFrom surroundings later
      | (.ok (.error stop, left), later) => (.ok (.error stop, left), later)
      | (.error stop, later) => (.error stop, later) := by
  rw [on, ExceptT.run_bind, StateT.run_bind, ← on, runFrom_bind]
  rcases (work.on registry).runFrom surroundings recording with ⟨stop | ⟨stop | value, left⟩, later⟩
    <;> rfl

/-- Work that stops at once has left the registry alone. -/
theorem runFrom_on_throw (stop : Stop) (registry : Registry α) (surroundings : Surroundings)
    (recording : Recording ν σ) :
    (on (throw stop : InPlace α (Recorded ν σ) β) registry).runFrom surroundings recording =
      (.ok (.error stop, registry), recording) :=
  rfl

theorem runFrom_on_getThe (registry : Registry α) (surroundings : Surroundings)
    (recording : Recording ν σ) :
    (on (getThe (Registry α) : InPlace α (Recorded ν σ) _) registry).runFrom surroundings
      recording = (.ok (.ok registry, registry), recording) :=
  rfl

/-- What has nothing to do with the registry may stop, and leaves the registry alone. -/
theorem runFrom_on_beside (action : Recorded ν σ β) (registry : Registry α)
    (surroundings : Surroundings) (recording : Recording ν σ) :
    ((beside action).on registry).runFrom surroundings recording =
      (.ok ((action.runFrom surroundings recording).1, registry),
        (action.runFrom surroundings recording).2) := by
  rw [beside, on, ExceptT.run_mk, StateT.run_lift, runFrom_bind, runFrom_attempt]
  rfl

/-- A change that stops has not been made. -/
theorem runFrom_on_update (change : Registry α → Recorded ν σ (Registry α))
    (registry : Registry α) (surroundings : Surroundings) (recording : Recording ν σ) :
    ((update change).on registry).runFrom surroundings recording =
      match (change registry).runFrom surroundings recording with
      | (.ok changed, later) => (.ok (.ok (), changed), later)
      | (.error stop, later) => (.ok (.error stop, registry), later) := by
  rw [update, runFrom_on_bind, runFrom_on_getThe]
  dsimp only
  rw [runFrom_on_bind, runFrom_on_beside]
  rcases (change registry).runFrom surroundings recording with ⟨stop | changed, later⟩ <;> rfl

theorem runFrom_orDrop (work : InPlace α (Recorded ν σ) Unit) (registry : Registry α)
    (surroundings : Surroundings) (recording : Recording ν σ) :
    (work.orDrop registry).runFrom surroundings recording =
      match (work.on registry).runFrom surroundings recording with
      | (.ok (outcome, left), later) => (outcome.map fun _ => left, later)
      | (.error stop, later) => (.error stop, later) := by
  rw [orDrop, runFrom_bind]
  rcases (work.on registry).runFrom surroundings recording with ⟨stop | ⟨stop | value, left⟩, later⟩
    <;> rfl

end InPlace

/-- A run leaves the registry alone, however it ends. -/
theorem runFrom_on_runInPlace (line : String → Recorded ν σ Unit) (call : α → Recorded ν σ Unit)
    (registry : Registry α) (surroundings : Surroundings) (recording : Recording ν σ) :
    ((runInPlace line call).on registry).runFrom surroundings recording =
      (.ok (((registry.runAll line call).runFrom surroundings recording).1, registry),
        ((registry.runAll line call).runFrom surroundings recording).2) := by
  rw [runInPlace, InPlace.runFrom_on_bind, InPlace.runFrom_on_getThe]
  exact InPlace.runFrom_on_beside _ _ _ _

end CallBench.Registry
