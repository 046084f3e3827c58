/-
# A run whose report refuses a line

The lines of a run are written between the calls of its actions, and the report is passed to
nothing else. So refusing one of them cuts the run short at that line and has no other effect.
Which line it is tells how many calls have been made: a finished benchmark has three lines, and
its call stands behind the first of them. What the actions report themselves is in the journal
as well, but it makes no difference to lines and calls.
-/

import CallBench.Proofs.Recording.Refusal
import CallBench.Proofs.Registry.Journal
import Mathlib.Algebra.Order.Floor.Div
import Mathlib.GroupTheory.GroupAction.Ring

namespace CallBench.Registry

open Recorded

variable {α ν σ : Type} {refused : Nat}

theorem cutShort_run {call : α → Recorded ν σ Unit} (mute : ∀ action, Mute (call action))
    (entry : Entry α) :
    CutShort refused (entry.run Recorded.line call) (entry.run (lineRefusing refused) call) :=
  (cutShort_line _).bind fun _ => (mute_report _).cutShort.bind fun _ =>
    (mute entry.action).cutShort.timed.bind fun _ => (cutShort_line _).bind fun _ =>
      (cutShort_line _).bind fun _ => (mute_report _).cutShort

/-- Where the calls write no lines to the report, refusing a line only cuts a run short. -/
theorem cutShort_runAll {call : α → Recorded ν σ Unit} (mute : ∀ action, Mute (call action))
    (registry : Registry α) :
    CutShort refused (registry.runAll Recorded.line call)
      (registry.runAll (lineRefusing refused) call) :=
  (CutShort.forM (cutShort_run mute) registry.entries).timed.bind fun _ =>
    (cutShort_line _).bind fun _ => (cutShort_line _).bind fun _ => (mute_report _).cutShort

theorem mute_overhearing (perform : α → Recorded (Call α) σ Unit) (action : α) :
    Mute (overhearing perform action) := by
  intro surroundings recording
  obtain ⟨outcome, reported, hwrites⟩ :=
    writes_overhearing perform action surroundings recording
  refine ⟨outcome, _, hwrites, ?_⟩
  simp [lineCount, Signal.line?, Function.comp_def]

/-- The signal itself, if it is a line of the report or a note. -/
def lineOrNote? : Signal ν → Option (Signal ν)
  | .diagnostic _ => none
  | signal => some signal

@[simp]
theorem filterMap_lineOrNote?_line (text : String) (signals : List (Signal ν)) :
    (.line text :: signals).filterMap lineOrNote? = .line text :: signals.filterMap lineOrNote? :=
  rfl

@[simp]
theorem filterMap_lineOrNote?_diagnostic (diagnostic : Diagnostic) (signals : List (Signal ν)) :
    (.diagnostic diagnostic :: signals).filterMap lineOrNote? = signals.filterMap lineOrNote? :=
  rfl

@[simp]
theorem filterMap_lineOrNote?_note (value : ν) (signals : List (Signal ν)) :
    (.note value :: signals).filterMap lineOrNote? = .note value :: signals.filterMap lineOrNote? :=
  rfl

/-- Of an overheard call only the call itself is a line or a note. -/
theorem viewed_overhearing (perform : α → Recorded (Call α) σ Unit) (surroundings : Surroundings)
    (action : α) (recording : Recording (Call α) σ) :
    ∃ outcome, Adds lineOrNote? (overhearing perform action) surroundings recording outcome
      ([Signal.note ⟨action, outcome⟩].filterMap lineOrNote?) := by
  obtain ⟨outcome, reported, hwrites⟩ :=
    writes_overhearing perform action surroundings recording
  have hcall := hwrites.adds lineOrNote?
  have hreported : (reported.map (Signal.diagnostic : _ → Signal (Call α))).filterMap
      lineOrNote? = [] := by
    simp [lineOrNote?, Function.comp_def]
  rw [List.filterMap_append, hreported] at hcall
  exact ⟨outcome, hcall⟩

/-- What shows no diagnostics shows the same of the lines and notes alone. -/
theorem filterMap_filterMap_lineOrNote? {κ : Type} (view : Signal ν → Option κ)
    (silent : ∀ diagnostic, view (.diagnostic diagnostic) = none) (signals : List (Signal ν)) :
    (signals.filterMap lineOrNote?).filterMap view = signals.filterMap view := by
  rw [List.filterMap_filterMap]
  apply List.filterMap_congr
  intro signal _
  cases signal with
  | line text => rfl
  | note value => rfl
  | diagnostic diagnostic => exact (silent diagnostic).symm

theorem lineCount_lineOrNote? (signals : List (Signal ν)) :
    lineCount (signals.filterMap lineOrNote?) = lineCount signals :=
  congrArg List.length (filterMap_filterMap_lineOrNote? Signal.line? (fun _ => rfl) signals)

/-- The calls of benchmarks that have all returned. -/
def returned (entries : List (Entry α)) : List (Call α) :=
  entries.map fun entry => ⟨entry.action, .ok ()⟩

@[simp]
theorem filterMap_note?_line (text : String) (signals : List (Signal ν)) :
    (.line text :: signals).filterMap Signal.note? = signals.filterMap Signal.note? :=
  rfl

@[simp]
theorem filterMap_note?_note (value : ν) (signals : List (Signal ν)) :
    (.note value :: signals).filterMap Signal.note? = value :: signals.filterMap Signal.note? :=
  rfl

theorem ceilDiv_three_add (count : Nat) : (count + 3) ⌈/⌉ 3 = count ⌈/⌉ 3 + 1 := by
  rw [Nat.ceilDiv_eq_add_pred_div, Nat.ceilDiv_eq_add_pred_div]
  omega

/-- Three lines of a run are those of a benchmark, and its call stands behind the first of
them. -/
theorem notes_before_line {timings : List (Entry α × Duration)}
    {ending before after : List (Signal (Call α))} {text : String}
    (silent : ∀ before text after, ending = before ++ .line text :: after →
      before.filterMap Signal.note? = [])
    (hsplit : (timings.flatMap finished).filterMap lineOrNote? ++ ending =
      before ++ .line text :: after) :
    before.filterMap Signal.note? =
      returned ((timings.map Prod.fst).take (lineCount before ⌈/⌉ 3)) := by
  induction timings generalizing before with
  | nil =>
      rw [List.map_nil, List.take_nil]
      exact silent before text after hsplit
  | cons timing timings ih =>
      rw [List.flatMap_cons, List.filterMap_append, List.append_assoc] at hsplit
      match before with
      | [] => simp [returned]
      | [_] => simp [finished, begun] at hsplit
      | [_, _] =>
          obtain ⟨rfl, rfl, -⟩ := by simpa [finished, begun] using hsplit
          simp [returned, Nat.ceilDiv_eq_add_pred_div]
      | [_, _, _] =>
          obtain ⟨rfl, rfl, rfl, -⟩ := by simpa [finished, begun] using hsplit
          simp [returned, Nat.ceilDiv_eq_add_pred_div]
      | _ :: _ :: _ :: _ :: before =>
          obtain ⟨rfl, rfl, rfl, rfl, hrest⟩ := by simpa [finished, begun] using hsplit
          simpa [returned, ceilDiv_three_add] using ih hrest

/-- The calls in front of a line of a run have all returned, and they are those of as many
benchmarks as have begun in front of it. -/
theorem calls_before_line {perform : α → Recorded (Call α) σ Unit} {registry : Registry α}
    {surroundings : Surroundings} {recording : Recording (Call α) σ}
    {outcome : Except Stop Unit} {before after : List (Signal (Call α))} {text : String}
    (writes : Writes (registry.runAll Recorded.line (overhearing perform)) surroundings recording
      outcome (before ++ .line text :: after)) :
    before.filterMap Signal.note? =
      returned (registry.entries.take (lineCount before ⌈/⌉ 3)) := by
  have hadded := (writes.adds lineOrNote?).view_eq
  rw [List.filterMap_append] at hadded
  rw [← filterMap_filterMap_lineOrNote? Signal.note? (fun _ => rfl) before,
    ← lineCount_lineOrNote? before]
  rcases viewed_runAll (viewed_overhearing perform surroundings) registry recording with
    ⟨timings, total, hall, hruns⟩ | ⟨timings, entry, rest, stop, hentries, hruns⟩
  · have hsplit := List.append_cancel_left (hruns.view_eq.symm.trans hadded)
    rw [List.filterMap_append] at hsplit
    rw [← hall]
    refine notes_before_line ?_ hsplit
    intro before text after hending
    rcases before with _ | ⟨first, _ | ⟨second, before⟩⟩
    · rfl
    · obtain ⟨rfl, -⟩ := by simpa [summary] using hending
      rfl
    · simp [summary] at hending
  · have hsplit := List.append_cancel_left (hruns.view_eq.symm.trans hadded)
    have hbegun : lineCount (before.filterMap lineOrNote?) ⌈/⌉ 3 ≤
        (timings.map Prod.fst).length := by
      have hlines := congrArg lineCount hsplit
      have hfinished : lineCount (timings.flatMap finished) = 3 * timings.length :=
        length_lines_finished timings
      have hlast : lineCount (begun entry (.error stop)) = 1 := rfl
      have hline : 0 < lineCount ((Signal.line text :: after).filterMap lineOrNote?) :=
        Nat.succ_pos _
      rw [lineCount_lineOrNote?, lineCount_append, lineCount_append, hfinished, hlast] at hlines
      rw [Nat.ceilDiv_eq_add_pred_div, List.length_map]
      omega
    rw [List.filterMap_append] at hsplit
    rw [hentries, List.take_append_of_le_length hbegun]
    refine notes_before_line ?_ hsplit
    intro before text after hending
    rcases before with _ | ⟨first, _ | ⟨second, before⟩⟩
    · rfl
    · simp [begun] at hending
    · simp [begun] at hending

/-- **A report that refuses a line only cuts a run short.** Let a run start with some lines, and
let its report refuse the line of the given number behind them. For whatever the actions do, if
the run with a report that takes every line has fewer lines, then the two runs are the same: how
they end, what they add to the journal, and what the actions keep. Otherwise the refusing run
adds to the journal what the other adds in front of that line, with lines, calls and diagnostics
in their order, and ends with the panic of the report. A call is made for every three lines in
front of it, begun or complete, as long as there are benchmarks, and all these calls have
returned. -/
theorem runAll_cut_at_refused_line (perform : α → Recorded (Call α) σ Unit)
    (registry : Registry α) (surroundings : Surroundings) (recording : Recording (Call α) σ)
    {number : Nat} (positive : 0 < number) :
    let refused := recording.lines.length + number
    let accepting :=
      (registry.runAll Recorded.line (overhearing perform)).runFrom surroundings recording
    let refusing :=
      (registry.runAll (lineRefusing refused) (overhearing perform)).runFrom surroundings recording
    ∃ added : List (Signal (Call α)),
      accepting.2.journal.toList = recording.journal.toList ++ added ∧
      (lineCount added < number → refusing = accepting) ∧
      (number ≤ lineCount added → ∃ before text after,
        added = before ++ .line text :: after ∧ lineCount before + 1 = number ∧
        refusing.1 = .error (.panicked ("sink refused line " ++ toString refused)) ∧
        refusing.2.journal.toList = recording.journal.toList ++ before ∧
        before.filterMap Signal.note? =
          (registry.entries.take ((number - 1) ⌈/⌉ 3)).map (fun entry => ⟨entry.action, .ok ()⟩) ∧
        (before.filterMap Signal.note?).length = min registry.size ((number - 1) ⌈/⌉ 3)) := by
  intro refused accepting refusing
  have hshort : CutShort refused (registry.runAll Recorded.line (overhearing perform))
      (registry.runAll (lineRefusing refused) (overhearing perform)) :=
    cutShort_runAll (mute_overhearing perform) registry
  obtain ⟨outcome, added, hwrites, hsame, hcut⟩ := hshort surroundings recording
  refine ⟨added, hwrites.journal_eq, fun hfew => hsame (Nat.add_lt_add_left hfew _), ?_⟩
  intro hmany
  have hbehind : recording.lines.length < refused := Nat.lt_add_of_pos_right positive
  obtain ⟨before, text, after, rfl, hline, hrefused⟩ :=
    hcut hbehind (Nat.add_le_add_left hmany _)
  have hnumber : lineCount before + 1 = number := by omega
  have hcount : number - 1 = lineCount before := by omega
  have hcalls := calls_before_line hwrites
  rw [← hcount] at hcalls
  refine ⟨before, text, after, rfl, hnumber, hrefused.outcome_eq, hrefused.journal_eq, hcalls, ?_⟩
  rw [hcalls, returned, List.length_map, List.length_take, Nat.min_comm]
  rfl

/-- Three benchmarks. -/
def trio : Registry Unit :=
  ⟨[⟨"a", "x", ()⟩, ⟨"a", "y", ()⟩, ⟨"b", "z", ()⟩]⟩

/-- The run of three benchmarks that return, where the second has its time refused. -/
theorem runAll_cut_at_fifth_line :
    let surroundings : Surroundings :=
      ⟨.error .notFound, fun _ => none, .error .notFound, fun _ => .ofNanos 0⟩
    let start : Recording (Call Unit) Unit := { state := () }
    let refusing := (trio.runAll (lineRefusing (start.lines.length + 5))
      (overhearing fun _ => pure ())).runFrom surroundings start
    0 < 5 ∧ refusing.1 = .error (.panicked "sink refused line 5") ∧
      lineCount refusing.2.journal.toList = 4 ∧ refusing.2.notes.length = 2 := by
  intro surroundings start refusing
  have positive : 0 < 5 := by decide
  have hstart : lineCount start.journal.toList = 0 := rfl
  obtain ⟨added, hjournal, -, hcut⟩ :=
    runAll_cut_at_refused_line (fun _ => pure ()) trio surroundings start positive
  have hmany : 5 ≤ lineCount added := by
    have hlines : lineCount ((trio.runAll Recorded.line (overhearing fun _ => pure ())).runFrom
        surroundings start).2.journal.toList = 11 := by
      decide +kernel
    rw [hjournal, lineCount_append, hstart] at hlines
    omega
  obtain ⟨before, text, after, -, hbefore, houtcome, hrefused, -, hcalls⟩ := hcut hmany
  refine ⟨positive, ?_, ?_, ?_⟩
  · have htext : "sink refused line " ++ toString 5 = "sink refused line 5" := by decide
    rw [houtcome, ← htext]
    rfl
  · rw [hrefused, lineCount_append, hstart]
    omega
  · rw [Recording.notes, hrefused, List.filterMap_append, List.length_append, hcalls]
    rfl

end CallBench.Registry
