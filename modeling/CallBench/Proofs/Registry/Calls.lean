/-
# The calls that a run makes

A run calls the actions of a front of its benchmarks, in order and each once; it may end after
any of them, through the call itself or through the report. That can be told from the notes of
the run if each call is noted when it has ended, and if nothing else is. What is noted of a
call may differ, as long as the note says which action was called.
-/

import CallBench.Proofs.Registry.Growth

namespace CallBench.Registry

open Recorded

variable {α ν σ : Type}

theorem inward_notes (shown : List ν) :
    Inward fun recording : Recording ν σ => recording.notes = shown :=
  inward_view (fun _ => rfl) shown

theorem notes_push_line (recording : Recording ν σ) (text : String) :
    (recording.push (.line text)).notes = recording.notes := by
  simp [Recording.notes, Recording.push, Signal.note?]

/-- A run notes nothing by itself. -/
theorem spared_notes (shown : List ν) :
    Spared fun recording : Recording ν σ => recording.notes = shown where
  push_line text holds := (notes_push_line _ text).trans holds
  push_diagnostic diagnostic := (inward_notes shown).push diagnostic
  reread _ := id

/-- Each call is noted when it has ended, and writes nothing else. From the note `key` tells the
action. -/
def Notes (key : ν → α) (call : α → Recorded ν σ Unit) : Prop :=
  ∀ action surroundings recording, ∃ outcome note,
    Writes (call action) surroundings recording outcome [.note note] ∧ key note = action

theorem notes_noting (perform : α → Recorded (Call α) σ Unit) :
    Notes Call.action (noting perform) := by
  intro action surroundings recording
  obtain ⟨outcome, hwrites⟩ := writes_noting perform action surroundings recording
  exact ⟨outcome, _, hwrites, rfl⟩

variable {key : ν → α} {call : α → Recorded ν σ Unit}

/-- A benchmark makes one call, unless its announcement is refused. -/
theorem adds_run (notes : Notes key call) (refused : Nat) (entry : Entry α)
    (surroundings : Surroundings) (recording : Recording ν σ) :
    ∃ outcome calls,
      Adds Signal.note? (entry.run (lineRefusing refused) call) surroundings recording outcome
        calls ∧
      ((calls = [] ∧ ∃ stop, outcome = .error stop) ∨ calls.map key = [entry.action]) := by
  have hkept (shown : List ν) := (spared_notes (σ := σ) shown).keeps_line refused
    (Report.running entry.category entry.title)
  have hline := Keeps.adds hkept surroundings recording
  generalize ((lineRefusing refused (Report.running entry.category entry.title)).runFrom
    surroundings recording).1 = announced at hline
  cases announced with
  | error stop => exact ⟨_, [], hline.bind_error _, .inl ⟨rfl, stop, rfl⟩⟩
  | ok value =>
      -- The announcement has been taken, so the call is made, and what follows it only reports.
      obtain ⟨ending, note, hcall, hnote⟩ := notes entry.action surroundings _
      obtain ⟨elapsed, htimed⟩ := (hcall.adds Signal.note?).timed
      obtain ⟨outcome, hcalled⟩ := htimed.bind_keeps fun elapsed shown =>
        (spared_notes shown).keeps_told refused entry.title elapsed
      refine ⟨outcome, _, hline.bind (((Writes.report _).adds Signal.note?).bind hcalled),
        .inr ?_⟩
      show [key note] = [entry.action]
      rw [hnote]

/-- The benchmarks that are called are a front of those that are to be called. -/
theorem adds_forM_run (notes : Notes key call) (refused : Nat) (entries : List (Entry α))
    (surroundings : Surroundings) (recording : Recording ν σ) :
    ∃ called ≤ entries.length, ∃ outcome calls,
      Adds Signal.note? (entries.forM (Entry.run (lineRefusing refused) call)) surroundings
        recording outcome calls ∧
      calls.map key = (entries.take called).map Entry.action := by
  induction entries generalizing recording with
  | nil => exact ⟨0, Nat.le_refl 0, _, _, Adds.pure (), rfl⟩
  | cons entry entries ih =>
      have hcons : (entry :: entries).forM (Entry.run (lineRefusing refused) call) =
          (entry.run (lineRefusing refused) call >>= fun _ =>
            entries.forM (Entry.run (lineRefusing refused) call)) := rfl
      obtain ⟨outcome, first, hentry, hfirst⟩ := adds_run notes refused entry surroundings recording
      rw [hcons]
      cases outcome with
      | error stop =>
          rcases hfirst with ⟨rfl, -⟩ | hcalled
          · exact ⟨0, Nat.zero_le _, _, _, hentry.bind_error _, rfl⟩
          · exact ⟨1, Nat.succ_le_succ (Nat.zero_le _), _, _, hentry.bind_error _, by
              rw [hcalled, List.take_succ_cons, List.take_zero, List.map_singleton]⟩
      | ok value =>
          have hcalled : first.map key = [entry.action] :=
            hfirst.resolve_left fun ⟨_, _, hstop⟩ => nomatch hstop
          obtain ⟨called, hle, outcome, later, hrest, hlater⟩ := ih
            ((entry.run (lineRefusing refused) call).runFrom surroundings recording).2
          refine ⟨called + 1, Nat.succ_le_succ hle, outcome, _, hentry.bind hrest, ?_⟩
          rw [List.map_append, hcalled, hlater, List.take_succ_cons, List.map_cons,
            List.singleton_append]

theorem adds_runAll (notes : Notes key call) (refused : Nat) (registry : Registry α)
    (surroundings : Surroundings) (recording : Recording ν σ) :
    ∃ called ≤ registry.size, ∃ outcome calls,
      Adds Signal.note? (registry.runAll (lineRefusing refused) call) surroundings recording
        outcome calls ∧
      calls.map key = (registry.entries.take called).map Entry.action := by
  obtain ⟨called, hle, outcome, calls, hentries, hcalls⟩ := adds_forM_run notes refused
    registry.entries surroundings { recording with readings := recording.readings + 1 }
  obtain ⟨total, htimed⟩ := hentries.timed
  obtain ⟨ending, hrun⟩ := htimed.bind_keeps fun total shown =>
    (spared_notes shown).keeps_summary refused registry.size total
  exact ⟨called, hle, ending, calls, hrun, hcalls⟩

/-- The calls of a step: those of a front of the benchmarks when it is a run, none otherwise. -/
theorem notes_follow {key : ν → Job α} {call : Job α → Recorded ν σ Unit}
    (notes : Notes key call) (registry : Registry (Job α)) (step : Step α)
    (surroundings : Surroundings) (recording : Recording ν σ) :
    ∃ called ≤ registry.size, ∃ calls,
      ((follow call registry step).runFrom surroundings recording).2.notes =
        recording.notes ++ calls ∧
      calls.map key = (registry.entries.take called).map Entry.action ∧
      ((∀ refused, step ≠ .run refused) → called = 0) := by
  by_cases hrun : ∃ refused, step = .run refused
  · obtain ⟨refused, rfl⟩ := hrun
    obtain ⟨called, hle, outcome, calls, hadds, hcalls⟩ :=
      adds_runAll notes refused registry surroundings recording
    refine ⟨called, hle, calls, ?_, hcalls, fun hother => absurd rfl (hother refused)⟩
    rw [runFrom_follow_run]
    exact hadds.view_eq
  · have hkept : Keeps (fun later => later.notes = recording.notes) (follow call registry step) :=
      keeps_follow (spared_notes recording.notes) (inward_notes recording.notes)
        (fun refused hstep => absurd ⟨refused, hstep⟩ hrun) registry
    have hnotes := hkept surroundings recording rfl
    exact ⟨0, Nat.zero_le _, [], by rw [hnotes, List.append_nil], rfl, fun _ => rfl⟩

/-- One step more calls a front of the benchmarks that are registered by then. -/
theorem notes_reached_append_singleton {key : ν → Job α} {call : Job α → Recorded ν σ Unit}
    (notes : Notes key call) (surroundings : Surroundings) (recording : Recording ν σ)
    (steps : List (Step α)) (step : Step α) :
    ∃ called ≤ (reached call surroundings recording steps).1.size, ∃ calls,
      (reached call surroundings recording (steps ++ [step])).2.notes =
        (reached call surroundings recording steps).2.notes ++ calls ∧
      calls.map key =
        ((reached call surroundings recording steps).1.entries.take called).map Entry.action ∧
      ((∀ refused, step ≠ .run refused) → called = 0) := by
  rw [reached_append_singleton]
  exact notes_follow notes _ step surroundings _

end CallBench.Registry
