/-
# A report that refuses a line

A run whose report takes every line and the same run with a report that refuses one are the
same up to that line, since nothing before it depends on which of the two reports is given.
Behind it the refusing run does nothing more: its panic is passed on by everything that the
runs are put together from. `CutShort` says this of two runs, and has one rule for each way of
putting runs together, so it holds of whole runs as soon as it holds of their lines and of
what is done between them.
-/

import CallBench.Proofs.Recording.Journal

namespace CallBench.Recorded

variable {ν σ α β : Type}

/-- How many lines of the report are among some signals. -/
def lineCount (signals : List (Signal ν)) : Nat :=
  (signals.filterMap Signal.line?).length

@[simp]
theorem lineCount_nil : lineCount ([] : List (Signal ν)) = 0 :=
  rfl

@[simp]
theorem lineCount_cons_line (text : String) (signals : List (Signal ν)) :
    lineCount (.line text :: signals) = lineCount signals + 1 :=
  rfl

@[simp]
theorem lineCount_cons_note (value : ν) (signals : List (Signal ν)) :
    lineCount (.note value :: signals) = lineCount signals :=
  rfl

@[simp]
theorem lineCount_append (first second : List (Signal ν)) :
    lineCount (first ++ second) = lineCount first + lineCount second := by
  simp [lineCount]

theorem Writes.length_lines {action : Recorded ν σ α} {surroundings : Surroundings}
    {recording : Recording ν σ} {outcome : Except Stop α} {added : List (Signal ν)}
    (writes : Writes action surroundings recording outcome added) :
    (action.runFrom surroundings recording).2.lines.length =
      recording.lines.length + lineCount added := by
  rw [Recording.lines, writes.journal_eq, List.filterMap_append, List.length_append]
  rfl

/-- What ends a run whose report refuses the line of a number. -/
def refusal (number : Nat) : Stop :=
  .panicked ("sink refused line " ++ toString number)

/-- From a recording, a run goes like an accepting one, but for the line of a number that it
refuses. Without that line the two runs are the same in all that is recorded. With it, the
refusing run adds what the accepting one adds in front of the line, and ends with the
refusal. -/
structure CutFrom (refused : Nat) (accepting refusing : Recorded ν σ α)
    (surroundings : Surroundings) (recording : Recording ν σ) (outcome : Except Stop α)
    (added : List (Signal ν)) : Prop where
  writes : Writes accepting surroundings recording outcome added
  same : recording.lines.length + lineCount added < refused →
    refusing.runFrom surroundings recording = accepting.runFrom surroundings recording
  cut : recording.lines.length < refused → refused ≤ recording.lines.length + lineCount added →
    ∃ before text after, added = before ++ .line text :: after ∧
      recording.lines.length + lineCount before + 1 = refused ∧
      Writes refusing surroundings recording (.error (refusal refused)) before

/-- Whether a run is cut short by a refused line, from wherever it starts. -/
def CutShort (refused : Nat) (accepting refusing : Recorded ν σ α) : Prop :=
  ∀ surroundings recording, ∃ outcome added,
    CutFrom refused accepting refusing surroundings recording outcome added

/-- Whether an action writes no line of the report. It may report and note anything, and end in
any way. -/
def Mute (action : Recorded ν σ α) : Prop :=
  ∀ surroundings recording, ∃ outcome added,
    Writes action surroundings recording outcome added ∧ lineCount added = 0

theorem mute_pure (value : α) : Mute (pure value : Recorded ν σ α) :=
  fun _ _ => ⟨_, _, Writes.pure value, rfl⟩

theorem mute_report (diagnostic : Diagnostic) : Mute (report diagnostic : Recorded ν σ Unit) :=
  fun _ _ => ⟨_, _, Writes.report diagnostic, rfl⟩

theorem mute_ofResult (result : Except Failure α) : Mute (ofResult result : Recorded ν σ α) := by
  intro surroundings recording
  cases result with
  | ok value => exact mute_pure value surroundings recording
  | error failure => exact ⟨_, [], ⟨rfl, (List.append_nil _).symm⟩, rfl⟩

theorem mute_now : Mute (now : Recorded ν σ Duration) :=
  fun _ _ => ⟨_, [], ⟨rfl, (List.append_nil _).symm⟩, rfl⟩

variable {refused : Nat}

/-- Where there is no line, none is refused. -/
theorem Mute.cutShort {action : Recorded ν σ α} (mute : Mute action) :
    CutShort refused action action := by
  intro surroundings recording
  obtain ⟨outcome, added, hwrites, hmute⟩ := mute surroundings recording
  refine ⟨outcome, added, hwrites, fun _ => rfl, ?_⟩
  intro hbefore hbehind
  omega

theorem runFrom_lineRefusing (text : String) (surroundings : Surroundings)
    (recording : Recording ν σ) :
    (lineRefusing refused text : Recorded ν σ Unit).runFrom surroundings recording =
      if recording.lines.length + 1 = refused then (.error (refusal refused), recording)
      else (.ok (), recording.push (.line text)) := by
  show (do
      if recording.lines.length + 1 = refused then throw (refusal refused)
      line text : Recorded ν σ Unit).runFrom surroundings recording = _
  split <;> rfl

theorem cutShort_line (text : String) :
    CutShort refused (line text : Recorded ν σ Unit) (lineRefusing refused text) := by
  intro surroundings recording
  refine ⟨_, _, Writes.line text, ?_, ?_⟩
  · intro hfew
    have hother : recording.lines.length + 1 ≠ refused := Nat.ne_of_lt hfew
    rw [runFrom_lineRefusing, if_neg hother]
    rfl
  · intro hbefore hbehind
    have hthis : recording.lines.length + 1 = refused := Nat.le_antisymm hbefore hbehind
    have hrun : (lineRefusing refused text).runFrom surroundings recording =
        (.error (refusal refused), recording) := by
      rw [runFrom_lineRefusing, if_pos hthis]
    refine ⟨[], text, [], rfl, hthis, ?_, ?_⟩
    · rw [hrun]
    · rw [hrun, List.append_nil]

section Bind

variable {accepting refusing : Recorded ν σ α} {next nextRefusing : α → Recorded ν σ β}
  {surroundings : Surroundings} {recording : Recording ν σ} {added : List (Signal ν)}

theorem CutFrom.bind_error {stop : Stop}
    (stopped : CutFrom refused accepting refusing surroundings recording (.error stop) added) :
    CutFrom refused (accepting >>= next) (refusing >>= nextRefusing) surroundings recording
      (.error stop) added := by
  have haccepting := stopped.writes.outcome_eq
  refine ⟨stopped.writes.bind_error next, ?_, ?_⟩
  · intro hfew
    have hsame := stopped.same hfew
    have hrefusing : (refusing.runFrom surroundings recording).1 = .error stop := by
      rw [hsame, haccepting]
    rw [runFrom_bind_of_error haccepting, runFrom_bind_of_error hrefusing, hsame]
  · intro hbefore hbehind
    obtain ⟨before, text, after, hsplit, hline, hrefused⟩ := stopped.cut hbefore hbehind
    exact ⟨before, text, after, hsplit, hline, hrefused.bind_error nextRefusing⟩

/-- The line is refused in the first part of a run or in the second. -/
theorem CutFrom.bind {value : α}
    (returned : CutFrom refused accepting refusing surroundings recording (.ok value) added)
    {outcome : Except Stop β} {later : List (Signal ν)}
    (rest : CutFrom refused (next value) (nextRefusing value) surroundings
      (accepting.runFrom surroundings recording).2 outcome later) :
    CutFrom refused (accepting >>= next) (refusing >>= nextRefusing) surroundings recording
      outcome (added ++ later) := by
  obtain ⟨hlater, hsameLater, hcutLater⟩ := rest
  rw [returned.writes.length_lines] at hsameLater hcutLater
  have haccepting := returned.writes.outcome_eq
  -- When the first part goes the same way, both runs are at the same place behind it.
  have hrefusing (hfew : recording.lines.length + lineCount added < refused) :
      (refusing.runFrom surroundings recording).1 = .ok value := by
    rw [returned.same hfew, haccepting]
  refine ⟨returned.writes.bind hlater, ?_, ?_⟩
  · intro hfew
    rw [lineCount_append, ← Nat.add_assoc] at hfew
    have hfirst := Nat.lt_of_le_of_lt (Nat.le_add_right _ _) hfew
    rw [runFrom_bind_of_ok haccepting, runFrom_bind_of_ok (hrefusing hfirst),
      returned.same hfirst, hsameLater hfew]
  · intro hbefore hbehind
    rw [lineCount_append, ← Nat.add_assoc] at hbehind
    rcases Nat.lt_or_ge (recording.lines.length + lineCount added) refused with hfew | hmany
    · obtain ⟨before, text, after, rfl, hline, hrefused⟩ := hcutLater hfew hbehind
      have hfirst : Writes refusing surroundings recording (.ok value) added :=
        ⟨hrefusing hfew, by rw [returned.same hfew, returned.writes.journal_eq]⟩
      rw [← returned.same hfew] at hrefused
      refine ⟨added ++ before, text, after, (List.append_assoc _ _ _).symm, ?_,
        hfirst.bind hrefused⟩
      rw [lineCount_append, ← Nat.add_assoc]
      exact hline
    · obtain ⟨before, text, after, rfl, hline, hrefused⟩ := returned.cut hbefore hmany
      refine ⟨before, text, after ++ later, ?_, hline, hrefused.bind_error nextRefusing⟩
      rw [List.append_assoc, List.cons_append]

theorem CutShort.bind (first : CutShort refused accepting refusing)
    (second : ∀ value, CutShort refused (next value) (nextRefusing value)) :
    CutShort refused (accepting >>= next) (refusing >>= nextRefusing) := by
  intro surroundings recording
  obtain ⟨outcome, added, hfirst⟩ := first surroundings recording
  cases outcome with
  | error stop => exact ⟨_, _, hfirst.bind_error⟩
  | ok value =>
      obtain ⟨ending, later, hsecond⟩ :=
        second value surroundings (accepting.runFrom surroundings recording).2
      exact ⟨_, _, hfirst.bind hsecond⟩

end Bind

/-- A refusal is a panic, so it is no result. -/
theorem CutShort.resultOf {accepting refusing : Recorded ν σ α}
    (cutShort : CutShort refused accepting refusing) :
    CutShort refused (CallBench.resultOf accepting) (CallBench.resultOf refusing) := by
  intro surroundings recording
  obtain ⟨outcome, added, hwrites, hsame, hcut⟩ := cutShort surroundings recording
  refine ⟨_, added, hwrites.resultOf, ?_, ?_⟩
  · intro hfew
    rw [runFrom_resultOf, runFrom_resultOf, hsame hfew]
  · intro hbefore hbehind
    obtain ⟨before, text, after, hsplit, hline, hrefused⟩ := hcut hbefore hbehind
    exact ⟨before, text, after, hsplit, hline, hrefused.resultOf⟩

theorem CutShort.timed {accepting refusing : Recorded ν σ Unit}
    (cutShort : CutShort refused accepting refusing) :
    CutShort refused (CallBench.timed accepting) (CallBench.timed refusing) :=
  mute_now.cutShort.bind fun _ => cutShort.resultOf.bind fun _ => mute_now.cutShort.bind fun _ =>
    (mute_ofResult _).cutShort.bind fun _ => (mute_pure _).cutShort

theorem CutShort.forM {ι : Type} {accepting refusing : ι → Recorded ν σ Unit}
    (each : ∀ item, CutShort refused (accepting item) (refusing item)) (items : List ι) :
    CutShort refused (items.forM accepting) (items.forM refusing) := by
  induction items with
  | nil => exact (mute_pure ()).cutShort
  | cons item items ih => exact (each item).bind fun _ => ih

end CallBench.Recorded
