/-
# The journal of a whole run

What a run of a registry writes, reports and calls, in the order in which it does so.
The pieces are written out here word by word, without the functions that produce them:
a benchmark is begun, its action is called, and what it took is told; after the last one
comes a summary. A run that is stopped by an action ends with the call of that action.

Nothing is assumed of the actions. They can keep a state of their own, read the clock,
use what other actions have left, write into the journal and end in any way. The journal
tells of every call how it ended, so it also tells which action was the first to stop.
-/

import CallBench.Proofs.Recording.Journal
import CallBench.Registry.Run

namespace CallBench.Registry

open Recorded

variable {α σ : Type}

/-- A benchmark up to the end of the call of its action. -/
def begun (entry : Entry α) (outcome : Except Stop Unit) : List (Signal (Call α)) :=
  [.line ("Running " ++ entry.title ++ " of " ++ entry.category ++ " benchmarks.."),
    .diagnostic (.benchmarkStarted entry.category entry.title),
    .note ⟨entry.action, outcome⟩]

/-- A benchmark whose action has returned, with the time it took. -/
def finished (timing : Entry α × Duration) : List (Signal (Call α)) :=
  begun timing.1 (.ok ()) ++
    [.line ("Took " ++ timing.2.millisText ++ "ms to run the benchmark"),
      .line "",
      .diagnostic (.benchmarkDone timing.1.title timing.2)]

/-- The end of a run that no action has stopped. -/
def summary (entries : Nat) (total : Duration) : List (Signal (Call α)) :=
  [.line ("Took " ++ total.millisText ++ "ms to run all benchmarks"),
    .line "",
    .diagnostic (.batchFinished entries total)]

theorem tookSingle_eq (elapsed : Duration) :
    Report.tookSingle elapsed = "Took " ++ elapsed.millisText ++ "ms to run the benchmark" := by
  rw [Report.tookSingle, Report.took, String.append_assoc]
  rfl

theorem tookBatch_eq (total : Duration) :
    Report.tookBatch total = "Took " ++ total.millisText ++ "ms to run all benchmarks" := by
  rw [Report.tookBatch, Report.took, String.append_assoc]
  rfl

section Views

variable {κ : Type} {view : Signal (Call α) → Option κ} {call : α → Recorded (Call α) σ Unit}
  {surroundings : Surroundings}

/-- Where a view shows of a call only the call itself, one benchmark is seen to be finished, or
to end with the call of its action. -/
theorem viewed_run
    (calls : ∀ action recording, ∃ outcome, Adds view (call action) surroundings recording outcome
      ([Signal.note ⟨action, outcome⟩].filterMap view))
    (entry : Entry α) (recording : Recording (Call α) σ) :
    (∃ elapsed, Adds view (entry.run Recorded.line call) surroundings recording (.ok ())
      ((finished (entry, elapsed)).filterMap view)) ∨
    ∃ stop, Adds view (entry.run Recorded.line call) surroundings recording (.error stop)
      ((begun entry (.error stop)).filterMap view) := by
  -- The clock is started on the announced benchmark, so the call is made from there.
  let announced := (recording.push (.line (Report.running entry.category entry.title))).push
    (.diagnostic (.benchmarkStarted entry.category entry.title))
  obtain ⟨outcome, hcall⟩ := calls entry.action
    { announced with readings := announced.readings + 1 }
  obtain ⟨elapsed, htimed⟩ := hcall.timed
  cases outcome with
  | ok value =>
      have hrun : Adds view (entry.run Recorded.line call) surroundings recording (.ok ()) _ :=
        (Adds.line _ _ _).bind ((Adds.report _ _ _).bind (htimed.bind ((Adds.line _ _ _).bind
          ((Adds.line _ _ _).bind (Adds.report _ _ _)))))
      simp only [← List.filterMap_append] at hrun
      refine .inl ⟨elapsed, ?_⟩
      rw [finished, ← tookSingle_eq]
      exact hrun
  | error stop =>
      have hrun : Adds view (entry.run Recorded.line call) surroundings recording (.error stop) _ :=
        (Adds.line _ _ _).bind ((Adds.report _ _ _).bind (htimed.bind_error _))
      simp only [← List.filterMap_append] at hrun
      exact .inr ⟨stop, hrun⟩

/-- All benchmarks are seen to be finished and summed up, or the run ends with the call that
stops. -/
theorem viewed_runAll
    (calls : ∀ action recording, ∃ outcome, Adds view (call action) surroundings recording outcome
      ([Signal.note ⟨action, outcome⟩].filterMap view))
    (registry : Registry α) (recording : Recording (Call α) σ) :
    (∃ (timings : List (Entry α × Duration)) (total : Duration),
      timings.map Prod.fst = registry.entries ∧
      Adds view (registry.runAll Recorded.line call) surroundings recording (.ok ())
        ((timings.flatMap finished ++ summary registry.entries.length total).filterMap view)) ∨
    ∃ (timings : List (Entry α × Duration)) (entry : Entry α) (rest : List (Entry α))
      (stop : Stop),
      registry.entries = timings.map Prod.fst ++ entry :: rest ∧
      Adds view (registry.runAll Recorded.line call) surroundings recording (.error stop)
        ((timings.flatMap finished ++ begun entry (.error stop)).filterMap view) := by
  have hentries := adds_forM (fun timing => (finished timing).filterMap view)
    (fun entry stop => (begun entry (.error stop)).filterMap view) (viewed_run calls)
    registry.entries { recording with readings := recording.readings + 1 }
  simp only [← List.filterMap_flatMap, ← List.filterMap_append] at hentries
  rcases hentries with ⟨timings, hall, hruns⟩ | ⟨timings, entry, rest, stop, hsplit, hruns⟩
  · obtain ⟨total, htimed⟩ := hruns.timed
    have hrun : Adds view (registry.runAll Recorded.line call) surroundings recording (.ok ()) _ :=
      htimed.bind ((Adds.line _ _ _).bind ((Adds.line _ _ _).bind (Adds.report _ _ _)))
    simp only [← List.filterMap_append] at hrun
    refine .inl ⟨timings, total, hall, ?_⟩
    rw [summary, ← tookBatch_eq]
    exact hrun
  · obtain ⟨total, htimed⟩ := hruns.timed
    exact .inr ⟨timings, entry, rest, stop, hsplit, htimed.bind_error _⟩

end Views

/-- All benchmarks are finished and summed up, or the run ends with the call that stops. -/
theorem writes_runAll (perform : α → Recorded (Call α) σ Unit) (registry : Registry α)
    (surroundings : Surroundings) (recording : Recording (Call α) σ) :
    (∃ (timings : List (Entry α × Duration)) (total : Duration),
      timings.map Prod.fst = registry.entries ∧
      Writes (registry.runAll Recorded.line (noting perform)) surroundings recording (.ok ())
        (timings.flatMap finished ++ summary registry.entries.length total)) ∨
    ∃ (timings : List (Entry α × Duration)) (entry : Entry α) (rest : List (Entry α))
      (stop : Stop),
      registry.entries = timings.map Prod.fst ++ entry :: rest ∧
      Writes (registry.runAll Recorded.line (noting perform)) surroundings recording
        (.error stop) (timings.flatMap finished ++ begun entry (.error stop)) := by
  have hcalls (action : α) (recording : Recording (Call α) σ) :
      ∃ outcome, Adds some (noting perform action) surroundings recording outcome
        ([Signal.note ⟨action, outcome⟩].filterMap some) := by
    obtain ⟨outcome, hcall⟩ := writes_noting perform action surroundings recording
    exact ⟨outcome, hcall.adds some⟩
  simpa only [writes_iff_adds, List.filterMap_some] using viewed_runAll hcalls registry recording

/-- When a view shows equally much of every finished benchmark, they only have to be counted. -/
theorem length_view_finished {κ : Type} {view : Signal (Call α) → Option κ} {count : Nat}
    (each : ∀ timing : Entry α × Duration, ((finished timing).filterMap view).length = count)
    (timings : List (Entry α × Duration)) :
    ((timings.flatMap finished).filterMap view).length = count * timings.length := by
  induction timings with
  | nil => rfl
  | cons timing timings ih =>
      rw [List.flatMap_cons, List.filterMap_append, List.length_append, ih, each timing,
        List.length_cons, Nat.mul_succ, Nat.add_comm]

theorem length_lines_finished (timings : List (Entry α × Duration)) :
    ((timings.flatMap finished).filterMap Signal.line?).length = 3 * timings.length :=
  length_view_finished (fun _ => rfl) timings

theorem length_diagnostics_finished (timings : List (Entry α × Duration)) :
    ((timings.flatMap finished).filterMap Signal.diagnostic?).length = 2 * timings.length :=
  length_view_finished (fun _ => rfl) timings

theorem notes_finished (timings : List (Entry α × Duration)) :
    (timings.flatMap finished).filterMap Signal.note? =
      timings.map fun timing => ⟨timing.1.action, .ok ()⟩ := by
  induction timings with
  | nil => rfl
  | cons timing timings ih =>
      rw [List.flatMap_cons, List.filterMap_append, ih, List.map_cons]
      rfl

/-- **A run does exactly what its benchmarks say, up to the first action that stops.** For
whatever the actions do, the signals that a run adds are those of its finished benchmarks
in the order of registration. When every call returns, the summary follows and the run
returns. Otherwise they are followed by the beginning of the benchmark whose call stops,
by nothing else, and the run ends with the very reason of that call. -/
theorem runAll_adds_benchmarks (perform : α → Recorded (Call α) σ Unit) (registry : Registry α)
    (surroundings : Surroundings) (recording : Recording (Call α) σ) :
    let run := (registry.runAll Recorded.line (noting perform)).runFrom surroundings recording
    ∃ added : List (Signal (Call α)),
      run.2.journal.toList = recording.journal.toList ++ added ∧
      ((∃ (timings : List (Entry α × Duration)) (total : Duration),
          timings.map Prod.fst = registry.entries ∧
          added = timings.flatMap finished ++ summary registry.entries.length total ∧
          run.1 = .ok () ∧
          (added.filterMap Signal.line?).length = 3 * registry.entries.length + 2 ∧
          (added.filterMap Signal.diagnostic?).length = 2 * registry.entries.length + 1) ∨
        ∃ (timings : List (Entry α × Duration)) (entry : Entry α) (rest : List (Entry α))
          (stop : Stop),
          registry.entries = timings.map Prod.fst ++ entry :: rest ∧
          added = timings.flatMap finished ++ begun entry (.error stop) ∧
          run.1 = .error stop ∧
          (added.filterMap Signal.line?).length = 3 * timings.length + 1 ∧
          (added.filterMap Signal.diagnostic?).length = 2 * timings.length + 1) := by
  intro run
  rcases writes_runAll perform registry surroundings recording with
    ⟨timings, total, hall, hruns⟩ | ⟨timings, entry, rest, stop, hsplit, hruns⟩
  · have hlength : registry.entries.length = timings.length := by
      rw [← hall, List.length_map]
    refine ⟨_, hruns.journal_eq, .inl ⟨timings, total, hall, rfl, hruns.outcome_eq, ?_, ?_⟩⟩
    · rw [List.filterMap_append, List.length_append, length_lines_finished, hlength]
      rfl
    · rw [List.filterMap_append, List.length_append, length_diagnostics_finished, hlength]
      rfl
  · refine ⟨_, hruns.journal_eq,
      .inr ⟨timings, entry, rest, stop, hsplit, rfl, hruns.outcome_eq, ?_, ?_⟩⟩
    · rw [List.filterMap_append, List.length_append, length_lines_finished]
      rfl
    · rw [List.filterMap_append, List.length_append, length_diagnostics_finished]
      rfl

end CallBench.Registry
