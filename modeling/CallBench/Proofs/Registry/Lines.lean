/-
# The lines of a run

Where the calls of the benchmarks write no lines of their own and it is known how each of
them ends, so are the lines of a run but for the times: three for a benchmark that is done,
one for a benchmark that stops, and two at the end. The announcements among them can be told
from the rest by how they begin.
-/

import CallBench.Proofs.Recording.Journal
import CallBench.Registry.Run

namespace CallBench.Registry

open Recorded

variable {α ν σ : Type} {surroundings : Surroundings}

/-- The lines of a benchmark that is done, with the time it took. -/
def told (timing : Entry α × Duration) : List String :=
  [Report.running timing.1.category timing.1.title, Report.tookSingle timing.2, ""]

theorem adds_run_of_ok {call : α → Recorded ν σ Unit} {entry : Entry α}
    (returns : ∀ recording, Adds Signal.line? (call entry.action) surroundings recording
      (.ok ()) [])
    (recording : Recording ν σ) :
    ∃ elapsed, Adds Signal.line? (entry.run Recorded.line call) surroundings recording (.ok ())
      (told (entry, elapsed)) := by
  obtain ⟨elapsed, htimed⟩ := (returns _).timed
  exact ⟨elapsed, (adds_line _ _).bind ((adds_report _ _).bind (htimed.bind
    ((adds_line _ _).bind ((adds_line _ _).bind (adds_report _ _)))))⟩

theorem adds_run_of_error {call : α → Recorded ν σ Unit} {entry : Entry α} {stop : Stop}
    (stops : ∀ recording, Adds Signal.line? (call entry.action) surroundings recording
      (.error stop) [])
    (recording : Recording ν σ) :
    Adds Signal.line? (entry.run Recorded.line call) surroundings recording (.error stop)
      [Report.running entry.category entry.title] := by
  obtain ⟨elapsed, htimed⟩ := (stops _).timed
  exact (adds_line _ _).bind ((adds_report _ _).bind (htimed.bind_error _))

theorem adds_forM_of_ok {call : α → Recorded ν σ Unit} {entries : List (Entry α)}
    (returns : ∀ entry ∈ entries, ∀ recording,
      Adds Signal.line? (call entry.action) surroundings recording (.ok ()) [])
    (recording : Recording ν σ) :
    ∃ timings : List (Entry α × Duration), timings.map Prod.fst = entries ∧
      Adds Signal.line? (entries.forM (Entry.run Recorded.line call)) surroundings recording
        (.ok ()) (timings.flatMap told) := by
  induction entries generalizing recording with
  | nil => exact ⟨[], rfl, Adds.pure ()⟩
  | cons entry entries ih =>
      obtain ⟨hfirst, hrest⟩ := List.forall_mem_cons.mp returns
      obtain ⟨elapsed, hentry⟩ := adds_run_of_ok hfirst recording
      obtain ⟨timings, rfl, hentries⟩ := ih hrest
        ((entry.run Recorded.line call).runFrom surroundings recording).2
      exact ⟨(entry, elapsed) :: timings, rfl, hentry.bind hentries⟩

/-- When every call returns, all benchmarks are told and summed up. -/
theorem adds_runAll_of_ok {call : α → Recorded ν σ Unit} {registry : Registry α}
    (returns : ∀ entry ∈ registry.entries, ∀ recording,
      Adds Signal.line? (call entry.action) surroundings recording (.ok ()) [])
    (recording : Recording ν σ) :
    ∃ (timings : List (Entry α × Duration)) (total : Duration),
      timings.map Prod.fst = registry.entries ∧
      Adds Signal.line? (registry.runAll Recorded.line call) surroundings recording (.ok ())
        (timings.flatMap told ++ [Report.tookBatch total, ""]) := by
  obtain ⟨timings, htimings, hentries⟩ := adds_forM_of_ok returns
    { recording with readings := recording.readings + 1 }
  obtain ⟨total, htimed⟩ := hentries.timed
  exact ⟨timings, total, htimings,
    htimed.bind ((adds_line _ _).bind ((adds_line _ _).bind (adds_report _ _)))⟩

/-- The first call that stops ends the run with the announcement of its benchmark. -/
theorem adds_runAll_of_error {call : α → Recorded ν σ Unit} {registry : Registry α}
    {earlier later : List (Entry α)} {entry : Entry α} {stop : Stop}
    (hentries : registry.entries = earlier ++ entry :: later)
    (returns : ∀ entry ∈ earlier, ∀ recording,
      Adds Signal.line? (call entry.action) surroundings recording (.ok ()) [])
    (stops : ∀ recording,
      Adds Signal.line? (call entry.action) surroundings recording (.error stop) [])
    (recording : Recording ν σ) :
    ∃ timings : List (Entry α × Duration), timings.map Prod.fst = earlier ∧
      Adds Signal.line? (registry.runAll Recorded.line call) surroundings recording
        (.error stop)
        (timings.flatMap told ++ [Report.running entry.category entry.title]) := by
  obtain ⟨timings, htimings, hearlier⟩ := adds_forM_of_ok returns
    { recording with readings := recording.readings + 1 }
  have hsplit : registry.entries.forM (Entry.run Recorded.line call) =
      (earlier.forM (Entry.run Recorded.line call) >>= fun _ =>
        entry.run Recorded.line call >>= fun _ => later.forM (Entry.run Recorded.line call)) := by
    rw [hentries]
    exact List.forM_append
  obtain ⟨total, htimed⟩ := (hsplit ▸ hearlier.bind
    ((adds_run_of_error stops _).bind_error _)).timed
  exact ⟨timings, htimings, htimed.bind_error _⟩

/-- Whether a line announces a benchmark. -/
def announces (line : String) : Bool :=
  "Running ".toList.isPrefixOf line.toList

theorem announces_running (category title : String) :
    announces (Report.running category title) = true := by
  simp [announces, Report.running, String.toList_append]

theorem announces_took (time purpose : String) :
    announces (Report.took time purpose) = false := by
  simp only [announces, Report.took, String.toList_append]
  rfl

theorem announces_empty : announces "" = false := by
  decide

/-- The announcements come in the order of the benchmarks. -/
theorem filter_announces_told (timings : List (Entry α × Duration)) :
    (timings.flatMap told).filter announces =
      (timings.map Prod.fst).map fun entry => Report.running entry.category entry.title := by
  induction timings with
  | nil => rfl
  | cons timing timings ih =>
      rw [List.flatMap_cons, List.filter_append, ih, List.map_cons, List.map_cons, told]
      simp [announces_running, announces_empty, Report.tookSingle, announces_took]

theorem length_told (timings : List (Entry α × Duration)) :
    (timings.flatMap told).length = 3 * timings.length := by
  induction timings with
  | nil => rfl
  | cons timing timings ih =>
      rw [List.flatMap_cons, List.length_append, ih, List.length_cons, told]
      simp only [List.length_cons, List.length_nil]
      omega

/-- A line ends as its last part does. -/
theorem getLast?_toList_append (start : String) {finish : String} {last : Char}
    (hfinish : finish.toList.getLast? = some last) :
    (start ++ finish).toList.getLast? = some last := by
  rw [String.toList_append, List.getLast?_append, hfinish, Option.some_or]

/-- The time of the whole batch is told by no line of a benchmark. -/
theorem tookBatch_notMem (timings : List (Entry α × Duration)) (category title : String)
    (total : Duration) :
    Report.tookBatch total ∉ timings.flatMap told ++ [Report.running category title] := by
  have hbatch : (Report.tookBatch total).toList.getLast? = some 's' :=
    getLast?_toList_append _ (by decide)
  have hrunning (category title : String) :
      (Report.running category title).toList.getLast? = some '.' :=
    getLast?_toList_append _ (by decide)
  have hsingle (elapsed : Duration) : (Report.tookSingle elapsed).toList.getLast? = some 'k' :=
    getLast?_toList_append _ (by decide)
  intro hmem
  rw [List.mem_append, List.mem_flatMap, List.mem_singleton] at hmem
  rcases hmem with ⟨timing, -, htold⟩ | heq
  · rw [told, List.mem_cons, List.mem_cons, List.mem_singleton] at htold
    rcases htold with heq | heq | heq
    · simp [heq, hrunning] at hbatch
    · simp [heq, hsingle] at hbatch
    · simp [heq] at hbatch
  · simp [heq, hrunning] at hbatch

end CallBench.Registry
