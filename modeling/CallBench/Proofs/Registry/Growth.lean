/-
# How a registry grows

A history of a registry always leads on: a step that fails and a run that stops leave a
registry too, and it is the one they were given. So what a history leads to can be spoken of
without a case for failure, and its benchmarks are those that its steps have registered, in
order. What the runs of a history do is left open here, but for the recordings they leave: a
property of recordings that neither a line nor a call can end is kept by the whole history.
-/

import CallBench.Proofs.Library.Registration
import CallBench.Proofs.Recording.Agreement
import CallBench.Registry.History

namespace CallBench.Registry

open Recorded

variable {α ν σ : Type}

/-- The benchmarks that a step registers. `place` is where the next emitter will stand. A
name that no suite has registers nothing. -/
def Step.registered (place : Nat) : Step α → List (Entry (Job α))
  | .register category title action => [⟨category, title, .custom action⟩]
  | .suite name => (Suite.ofName? name).toList.flatMap (Suite.benchmarks place)
  | .part chosen => chosen.benchmarks place
  | .allSuites => Suite.all.flatMap (Suite.benchmarks place)
  | .run _ => []

section

variable (call : Job α → Recorded ν σ Unit) (registry : Registry (Job α))
  (surroundings : Surroundings) (recording : Recording ν σ)

theorem runFrom_follow (step : Step α) :
    (follow call registry step).runFrom surroundings recording =
      match ((advance call step).on registry).runFrom surroundings recording with
      | (.ok (_, left), later) => (.ok left, later)
      | (.error stop, later) => (.error stop, later) := by
  rw [follow, runFrom_map]
  rcases ((advance call step).on registry).runFrom surroundings recording with
    ⟨stop | ⟨outcome, left⟩, later⟩ <;> rfl

theorem runFrom_follow_register (category title : String) (action : α) :
    (follow call registry (.register category title action)).runFrom surroundings recording =
      (.ok (registry.register category title (.custom action)), recording) :=
  rfl

theorem runFrom_follow_suite (suite : Suite) :
    (follow call registry (.suite suite.name)).runFrom surroundings recording =
      (.ok ⟨registry.entries ++ suite.benchmarks recording.shelf.emitters.length⟩,
        ({ recording with shelf := suite.stock recording.shelf } : Recording ν σ).push
          (.diagnostic (.suiteRegistered suite.name (registry.size + suite.size)))) := by
  rw [runFrom_follow, advance, Suite.runFrom_enroll]

theorem runFrom_follow_unknown {name : String} (unknown : name ∉ Suite.names) :
    (follow call registry (.suite name)).runFrom surroundings recording =
      (.ok registry, recording) := by
  rw [runFrom_follow, advance, Suite.runFrom_enroll_of_unknown unknown]

theorem runFrom_follow_part (suite : Suite) :
    (follow call registry (.part suite)).runFrom surroundings recording =
      (.ok ⟨registry.entries ++ suite.benchmarks recording.shelf.emitters.length⟩,
        { recording with shelf := suite.stock recording.shelf }) := by
  rw [runFrom_follow, advance, InPlace.runFrom_on_update, Suite.runFrom_register]

theorem runFrom_follow_allSuites :
    (follow call registry .allSuites).runFrom surroundings recording =
      (.ok ⟨registry.entries ++ Suite.all.flatMap (Suite.benchmarks
          recording.shelf.emitters.length)⟩,
        { recording with shelf := (recording.shelf.add Suite.dummyEmitter).2 }) := by
  rw [runFrom_follow, advance, InPlace.runFrom_on_update, Suite.runFrom_registerAll]

/-- A run leaves the registry it has been given, and what the run itself records. -/
theorem runFrom_follow_run (refused : Nat) :
    (follow call registry (.run refused)).runFrom surroundings recording =
      (.ok registry,
        ((registry.runAll (lineRefusing refused) call).runFrom surroundings recording).2) := by
  rw [runFrom_follow, advance, runFrom_on_runInPlace]

/-- Only a run makes calls. -/
theorem follow_of_ne_run (other : Job α → Recorded ν σ Unit) {step : Step α}
    (quiet : ∀ refused, step ≠ .run refused) :
    follow call registry step = follow other registry step := by
  cases step with
  | run refused => exact absurd rfl (quiet refused)
  | register | suite | part | allSuites => rfl

/-- Every step leaves the registry with the benchmarks it registers at the end. -/
theorem outcome_follow (step : Step α) :
    ((follow call registry step).runFrom surroundings recording).1 =
      .ok ⟨registry.entries ++ step.registered recording.shelf.emitters.length⟩ := by
  cases step with
  | register category title action =>
      rw [runFrom_follow_register, Step.registered, Registry.register]
  | suite name =>
      by_cases hname : name ∈ Suite.names
      · obtain ⟨suite, -, rfl⟩ := List.mem_map.mp hname
        rw [runFrom_follow_suite, Step.registered, Suite.ofName?_eq_some_iff.mpr rfl,
          Option.toList_some, List.flatMap_singleton]
      · rw [runFrom_follow_unknown call registry _ _ hname, Step.registered,
          Suite.ofName?_eq_none_iff.mpr hname, Option.toList_none, List.flatMap_nil,
          List.append_nil]
  | part suite => rw [runFrom_follow_part, Step.registered]
  | allSuites => rw [runFrom_follow_allSuites, Step.registered]
  | run refused => rw [runFrom_follow_run, Step.registered, List.append_nil]

end

/-- The registry and the recording that a history leads to. -/
def reached (call : Job α → Recorded ν σ Unit) (surroundings : Surroundings)
    (recording : Recording ν σ) (steps : List (Step α)) : Registry (Job α) × Recording ν σ :=
  match (replay call steps).runFrom surroundings recording with
  | (.ok registry, later) => (registry, later)
  | (.error _, later) => ({}, later)

/-- Where the next emitter will stand after a history. -/
def nextPlace (call : Job α → Recorded ν σ Unit) (surroundings : Surroundings)
    (recording : Recording ν σ) (steps : List (Step α)) : Nat :=
  (reached call surroundings recording steps).2.shelf.emitters.length

section

variable (call : Job α → Recorded ν σ Unit) (surroundings : Surroundings)
  (recording : Recording ν σ)

theorem replay_append_singleton (steps : List (Step α)) (step : Step α) :
    replay call (steps ++ [step]) =
      replay call steps >>= fun registry => follow call registry step := by
  simp [replay, List.foldlM_append]

/-- A history returns, whatever its runs come to. -/
theorem runFrom_replay (steps : List (Step α)) :
    (replay call steps).runFrom surroundings recording =
      (.ok (reached call surroundings recording steps).1,
        (reached call surroundings recording steps).2) := by
  have hreturns : ∃ registry later,
      (replay call steps).runFrom surroundings recording = (.ok registry, later) := by
    induction steps using List.reverseRecOn with
    | nil => exact ⟨_, _, rfl⟩
    | append_singleton steps step ih =>
        obtain ⟨registry, later, hsteps⟩ := ih
        rw [replay_append_singleton, runFrom_bind, hsteps]
        exact ⟨_, _, Prod.ext (outcome_follow call registry surroundings later step) rfl⟩
  obtain ⟨registry, later, hrun⟩ := hreturns
  rw [reached, hrun]

theorem reached_append_singleton (steps : List (Step α)) (step : Step α) :
    reached call surroundings recording (steps ++ [step]) =
      (⟨(reached call surroundings recording steps).1.entries ++
          step.registered (nextPlace call surroundings recording steps)⟩,
        ((follow call (reached call surroundings recording steps).1 step).runFrom surroundings
          (reached call surroundings recording steps).2).2) := by
  have hrun := runFrom_replay call surroundings recording (steps ++ [step])
  rw [replay_append_singleton, runFrom_bind, runFrom_replay] at hrun
  dsimp only at hrun
  have houtcome := outcome_follow call (reached call surroundings recording steps).1 surroundings
    (reached call surroundings recording steps).2 step
  rw [hrun] at houtcome ⊢
  exact Prod.ext (Except.ok.inj houtcome) rfl

/-- A registry has the benchmarks that the steps of its history have registered, in order. -/
theorem entries_reached (steps : List (Step α)) :
    (reached call surroundings recording steps).1.entries =
      (steps.mapIdx fun index step =>
        step.registered (nextPlace call surroundings recording (steps.take index))).flatten := by
  induction steps using List.reverseRecOn with
  | nil => rfl
  | append_singleton steps last ih =>
      have hfront : steps.mapIdx (fun index step => step.registered
            (nextPlace call surroundings recording ((steps ++ [last]).take index))) =
          steps.mapIdx (fun index step => step.registered
            (nextPlace call surroundings recording (steps.take index))) := by
        apply List.mapIdx_eq_mapIdx_iff.mpr
        intro index hindex
        rw [List.take_append_of_le_length (Nat.le_of_lt hindex)]
      rw [reached_append_singleton, List.mapIdx_concat, List.flatten_append, hfront, ← ih,
        List.take_left, List.flatten_singleton]

/-- Whatever happens later, the benchmarks of a registry stay where they are. -/
theorem entries_grow (earlier later : List (Step α)) :
    (reached call surroundings recording earlier).1.entries <+:
      (reached call surroundings recording (earlier ++ later)).1.entries := by
  induction later using List.reverseRecOn with
  | nil => exact (List.append_nil earlier).symm ▸ List.prefix_rfl
  | append_singleton later step ih =>
      rw [← List.append_assoc, reached_append_singleton]
      exact ih.trans (List.prefix_append _ _)

end

/-- A property of recordings that a run does not end by itself: neither a line nor a diagnostic
nor a look at the clock does. Only a call can. -/
structure Spared (property : Recording ν σ → Prop) : Prop where
  push_line {recording : Recording ν σ} (text : String) :
    property recording → property (recording.push (.line text))
  push_diagnostic {recording : Recording ν σ} (diagnostic : Diagnostic) :
    property recording → property (recording.push (.diagnostic diagnostic))
  reread {recording : Recording ν σ} (readings : Nat) :
    property recording → property { recording with readings }

namespace Spared

variable {property : Recording ν σ → Prop} (spared : Spared property)

include spared

theorem keeps_line (refused : Nat) (text : String) :
    Keeps property (lineRefusing refused text : Recorded ν σ Unit) := by
  refine (keeps_of_asks fun _ _ => rfl).bind fun recording => ?_
  split
  · exact Keeps.throw _
  · exact fun _ _ => spared.push_line text

theorem keeps_report (diagnostic : Diagnostic) :
    Keeps property (report diagnostic : Recorded ν σ Unit) :=
  fun _ _ => spared.push_diagnostic diagnostic

theorem keeps_now : Keeps property (now : Recorded ν σ Duration) :=
  fun _ _ => spared.reread _

/-- After the call of its action a benchmark only reports. -/
theorem keeps_told (refused : Nat) (title : String) (elapsed : Duration) :
    Keeps property (do
      lineRefusing refused (Report.tookSingle elapsed)
      lineRefusing refused ""
      report (.benchmarkDone title elapsed) : Recorded ν σ Unit) :=
  (spared.keeps_line refused _).bind fun _ =>
    (spared.keeps_line refused _).bind fun _ => spared.keeps_report _

/-- After the last benchmark a run only reports. -/
theorem keeps_summary (refused : Nat) (entries : Nat) (total : Duration) :
    Keeps property (do
      lineRefusing refused (Report.tookBatch total)
      lineRefusing refused ""
      report (.batchFinished entries total) : Recorded ν σ Unit) :=
  (spared.keeps_line refused _).bind fun _ =>
    (spared.keeps_line refused _).bind fun _ => spared.keeps_report _

theorem agree_timed {first second : Recorded ν σ Unit} (agree : Agree property first second) :
    Agree property (timed first) (timed second) :=
  spared.keeps_now.agree.bind fun _ => agree.resultOf.bind fun _ =>
    spared.keeps_now.agree.bind fun _ => (keeps_ofResult _).agree.bind fun _ =>
      (Keeps.pure _).agree

/-- Runs do the same if their calls do. -/
theorem agree_runAll {call other : α → Recorded ν σ Unit} {registry : Registry α}
    (calls : ∀ entry ∈ registry.entries, Agree property (call entry.action) (other entry.action))
    (refused : Nat) :
    Agree property (registry.runAll (lineRefusing refused) call)
      (registry.runAll (lineRefusing refused) other) := by
  have hentry (entry : Entry α) (hmem : entry ∈ registry.entries) :
      Agree property (entry.run (lineRefusing refused) call)
        (entry.run (lineRefusing refused) other) :=
    (spared.keeps_line refused _).agree.bind fun _ => (spared.keeps_report _).agree.bind fun _ =>
      (spared.agree_timed (calls entry hmem)).bind fun _ => (spared.keeps_told refused _ _).agree
  exact (spared.agree_timed (Agree.forM hentry)).bind fun _ =>
    (spared.keeps_summary refused _ _).agree

end Spared

section

variable {property : Recording ν σ → Prop} (spared : Spared property) (inward : Inward property)

include spared

theorem keeps_runAll {call : α → Recorded ν σ Unit}
    (calls : ∀ action, Keeps property (call action)) (registry : Registry α) (refused : Nat) :
    Keeps property (registry.runAll (lineRefusing refused) call) :=
  (spared.agree_runAll (fun entry _ => (calls entry.action).agree) refused).keeps

include inward

/-- Only a run makes calls, so every other step keeps what its lines keep. -/
theorem keeps_follow {call : Job α → Recorded ν σ Unit} {step : Step α}
    (calls : ∀ refused, step = .run refused → ∀ job, Keeps property (call job))
    (registry : Registry (Job α)) : Keeps property (follow call registry step) := by
  intro surroundings recording holds
  cases step with
  | register category title action =>
      rw [runFrom_follow_register]
      exact holds
  | suite name =>
      by_cases hname : name ∈ Suite.names
      · obtain ⟨suite, -, rfl⟩ := List.mem_map.mp hname
        rw [runFrom_follow_suite]
        exact inward.push _ (inward.reshelve _ holds)
      · rw [runFrom_follow_unknown call registry _ _ hname]
        exact holds
  | part suite =>
      rw [runFrom_follow_part]
      exact inward.reshelve _ holds
  | allSuites =>
      rw [runFrom_follow_allSuites]
      exact inward.reshelve _ holds
  | run refused =>
      rw [runFrom_follow_run]
      exact keeps_runAll spared (calls refused rfl) registry refused surroundings recording holds

/-- What holds at the start of a history and is kept by every call holds at its end. -/
theorem holds_reached {call : Job α → Recorded ν σ Unit}
    (calls : ∀ job, Keeps property (call job)) (surroundings : Surroundings)
    {recording : Recording ν σ} (start : property recording) (steps : List (Step α)) :
    property (reached call surroundings recording steps).2 := by
  induction steps using List.reverseRecOn with
  | nil => exact start
  | append_singleton steps step ih =>
      rw [reached_append_singleton]
      exact keeps_follow spared inward (fun _ _ => calls) _ surroundings _ ih

end

end CallBench.Registry
