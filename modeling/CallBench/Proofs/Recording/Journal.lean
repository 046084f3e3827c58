/-
# What a run adds to its journal

A recorded run keeps its journal when it stops, so what it has done up to there can be
told from its outcome and from the signals it has added. Both are said together by
`Writes`, which follows the structure of the run: one rule for going on after a value,
one for stopping, and one for doing the same for each item of a list. Where only the lines
or only the notes of a run matter, `Adds` says the same of a view of the journal; all
signals are one such view.

The actions that a run calls are left open. To tell their calls from what the run does
itself, each call is noted with how it ended, and what the action writes into the journal
on its own is dropped.
-/

import CallBench.Clock.Timer
import CallBench.Recording

namespace CallBench

theorem Recording.journal_foldl_push {ν σ : Type} (signals : List (Signal ν))
    (recording : Recording ν σ) :
    (signals.foldl push recording).journal.toList = recording.journal.toList ++ signals := by
  induction signals generalizing recording with
  | nil => exact (List.append_nil _).symm
  | cons signal signals ih => rw [List.foldl_cons, ih, push, Array.toList_push, List.append_assoc,
      List.singleton_append]

namespace Recorded

variable {ν σ α β κ : Type}

theorem runFrom_bind (action : Recorded ν σ α) (next : α → Recorded ν σ β)
    (surroundings : Surroundings) (recording : Recording ν σ) :
    (action >>= next).runFrom surroundings recording =
      match action.runFrom surroundings recording with
      | (.ok value, later) => (next value).runFrom surroundings later
      | (.error stop, later) => (.error stop, later) := by
  simp only [runFrom, bind, ReaderT.bind, ExceptT.bind, ExceptT.run, ExceptT.mk, StateT.bind,
    StateT.run, Id.run, ExceptT.bindCont]
  rcases action surroundings recording with ⟨outcome | outcome, later⟩ <;> rfl

theorem runFrom_bind_of_ok {action : Recorded ν σ α} {surroundings : Surroundings}
    {recording : Recording ν σ} {value : α}
    (returned : (action.runFrom surroundings recording).1 = .ok value)
    (next : α → Recorded ν σ β) :
    (action >>= next).runFrom surroundings recording =
      (next value).runFrom surroundings (action.runFrom surroundings recording).2 := by
  rw [runFrom_bind]
  cases hrun : action.runFrom surroundings recording with
  | mk outcome later =>
      rw [hrun] at returned
      cases returned
      rfl

theorem runFrom_bind_of_error {action : Recorded ν σ α} {surroundings : Surroundings}
    {recording : Recording ν σ} {stop : Stop}
    (stopped : (action.runFrom surroundings recording).1 = .error stop)
    (next : α → Recorded ν σ β) :
    (action >>= next).runFrom surroundings recording =
      (.error stop, (action.runFrom surroundings recording).2) := by
  rw [runFrom_bind]
  cases hrun : action.runFrom surroundings recording with
  | mk outcome later =>
      rw [hrun] at stopped
      cases stopped
      rfl

theorem runFrom_map (action : Recorded ν σ α) (change : α → β) (surroundings : Surroundings)
    (recording : Recording ν σ) :
    (change <$> action).runFrom surroundings recording =
      ((action.runFrom surroundings recording).1.map change,
        (action.runFrom surroundings recording).2) := by
  rw [← bind_pure_comp, runFrom_bind]
  rcases action.runFrom surroundings recording with ⟨outcome | outcome, later⟩ <;> rfl

/-- An attempt returns however the action ends, and keeps what has been recorded. -/
theorem runFrom_attempt (action : Recorded ν σ α) (surroundings : Surroundings)
    (recording : Recording ν σ) :
    (attempt action).runFrom surroundings recording =
      (.ok (action.runFrom surroundings recording).1,
        (action.runFrom surroundings recording).2) := by
  simp only [attempt, runFrom, tryCatch, tryCatchThe, MonadExceptOf.tryCatch, ExceptT.tryCatch,
    Functor.map, ExceptT.map, StateT.bind, bind, ExceptT.run, ExceptT.mk, StateT.run, Id.run]
  rcases action surroundings recording with ⟨outcome | outcome, later⟩ <;> rfl

theorem runFrom_conclude (outcome : Except Stop α) (surroundings : Surroundings)
    (recording : Recording ν σ) :
    (conclude outcome : Recorded ν σ α).runFrom surroundings recording =
      (outcome, recording) := by
  cases outcome <;> rfl

theorem runFrom_resultOf (action : Recorded ν σ α) (surroundings : Surroundings)
    (recording : Recording ν σ) :
    (resultOf action).runFrom surroundings recording =
      (asResult (action.runFrom surroundings recording).1,
        (action.runFrom surroundings recording).2) := by
  rw [resultOf, runFrom_bind, runFrom_attempt]
  exact runFrom_conclude _ _ _

/-- Timing an action reads the clock before it, and once more if it returns or fails. A failure
is passed on behind the second reading, and a panic without it. -/
theorem runFrom_timed (action : Recorded ν σ Unit) (surroundings : Surroundings)
    (recording : Recording ν σ) :
    (CallBench.timed action).runFrom surroundings recording =
      match action.runFrom surroundings { recording with readings := recording.readings + 1 } with
      | (.ok _, later) =>
          (.ok ((surroundings.clock later.readings).minus
            (surroundings.clock recording.readings)),
            { later with readings := later.readings + 1 })
      | (.error (.failed failure), later) =>
          (.error (.failed failure), { later with readings := later.readings + 1 })
      | (.error (.panicked message), later) => (.error (.panicked message), later) := by
  have hnow (later : Recording ν σ) : (now : Recorded ν σ Duration).runFrom surroundings later =
      (.ok (surroundings.clock later.readings),
        { later with readings := later.readings + 1 }) := rfl
  rw [CallBench.timed, runFrom_bind, hnow]
  dsimp only
  rw [runFrom_bind, runFrom_resultOf]
  rcases action.runFrom surroundings { recording with readings := recording.readings + 1 } with
    ⟨(failure | message) | value, later⟩
  · dsimp only [asResult]
    rw [runFrom_bind, hnow]
    rfl
  · rfl
  · dsimp only [asResult]
    rw [runFrom_bind, hnow]
    rfl

theorem runFrom_getThe (surroundings : Surroundings) (recording : Recording ν σ) :
    (getThe (Recording ν σ) : Recorded ν σ _).runFrom surroundings recording =
      (.ok recording, recording) :=
  rfl

theorem runFrom_modifyThe (change : Recording ν σ → Recording ν σ) (surroundings : Surroundings)
    (recording : Recording ν σ) :
    (modifyThe (Recording ν σ) change : Recorded ν σ _).runFrom surroundings recording =
      (.ok (), change recording) :=
  rfl

theorem runFrom_note (value : ν) (surroundings : Surroundings) (recording : Recording ν σ) :
    (note value : Recorded ν σ _).runFrom surroundings recording =
      (.ok (), recording.push (.note value)) :=
  rfl

/-- From a recording, an action ends with an outcome and adds to what a view shows of the
journal. -/
structure Adds (view : Signal ν → Option κ) (action : Recorded ν σ α)
    (surroundings : Surroundings) (recording : Recording ν σ) (outcome : Except Stop α)
    (added : List κ) : Prop where
  outcome_eq : (action.runFrom surroundings recording).1 = outcome
  view_eq : (action.runFrom surroundings recording).2.journal.toList.filterMap view =
    recording.journal.toList.filterMap view ++ added

variable {view : Signal ν → Option κ} {surroundings : Surroundings} {recording : Recording ν σ}

theorem Adds.pure (value : α) :
    Adds view (Pure.pure value : Recorded ν σ α) surroundings recording (.ok value) [] :=
  ⟨rfl, (List.append_nil _).symm⟩

/-- An action that returns is followed by the next one. -/
theorem Adds.bind {action : Recorded ν σ α} {value : α} {first : List κ}
    (returned : Adds view action surroundings recording (.ok value) first)
    {next : α → Recorded ν σ β} {outcome : Except Stop β} {second : List κ}
    (rest : Adds view (next value) surroundings (action.runFrom surroundings recording).2 outcome
      second) :
    Adds view (action >>= next) surroundings recording outcome (first ++ second) := by
  have hrun := runFrom_bind_of_ok returned.outcome_eq next
  constructor
  · rw [hrun]
    exact rest.outcome_eq
  · rw [hrun, rest.view_eq, returned.view_eq, List.append_assoc]

/-- An action that stops is not followed by anything. -/
theorem Adds.bind_error {action : Recorded ν σ α} {stop : Stop} {added : List κ}
    (stopped : Adds view action surroundings recording (.error stop) added)
    (next : α → Recorded ν σ β) :
    Adds view (action >>= next) surroundings recording (.error stop) added := by
  have hrun := runFrom_bind_of_error stopped.outcome_eq next
  constructor
  · rw [hrun]
  · rw [hrun]
    exact stopped.view_eq

theorem Adds.map {action : Recorded ν σ α} {outcome : Except Stop α} {added : List κ}
    (ends : Adds view action surroundings recording outcome added) (change : α → β) :
    Adds view (change <$> action) surroundings recording (outcome.map change) added := by
  constructor
  · rw [runFrom_map, ends.outcome_eq]
  · rw [runFrom_map, ends.view_eq]

/-- Timing an action adds nothing to what it adds. An action that returns gets a time, and
one that stops passes its own reason on. -/
theorem Adds.timed {action : Recorded ν σ Unit} {outcome : Except Stop Unit} {added : List κ}
    (ends : Adds view action surroundings { recording with readings := recording.readings + 1 }
      outcome added) :
    ∃ elapsed, Adds view (CallBench.timed action) surroundings recording
      (outcome.map fun _ => elapsed) added := by
  have hrun := runFrom_timed action surroundings recording
  obtain ⟨houtcome, hview⟩ := ends
  revert hrun houtcome hview
  rcases action.runFrom surroundings { recording with readings := recording.readings + 1 } with
    ⟨ending, later⟩
  rintro hrun rfl hview
  rcases ending with (failure | message) | value
  · exact ⟨.ofNanos 0, by rw [hrun]; rfl, by rw [hrun]; exact hview⟩
  · exact ⟨.ofNanos 0, by rw [hrun]; rfl, by rw [hrun]; exact hview⟩
  · exact ⟨_, by rw [hrun]; rfl, by rw [hrun]; exact hview⟩

/-- From a recording, an action ends with an outcome and adds signals to the journal. -/
structure Writes (action : Recorded ν σ α) (surroundings : Surroundings)
    (recording : Recording ν σ) (outcome : Except Stop α) (added : List (Signal ν)) : Prop where
  outcome_eq : (action.runFrom surroundings recording).1 = outcome
  journal_eq : (action.runFrom surroundings recording).2.journal.toList =
    recording.journal.toList ++ added

/-- All signals are one view of the journal. -/
theorem writes_iff_adds {action : Recorded ν σ α} {outcome : Except Stop α}
    {added : List (Signal ν)} :
    Writes action surroundings recording outcome added ↔
      Adds some action surroundings recording outcome added := by
  constructor
  · exact fun ⟨houtcome, hjournal⟩ => ⟨houtcome, by simpa using hjournal⟩
  · exact fun ⟨houtcome, hview⟩ => ⟨houtcome, by simpa using hview⟩

theorem Writes.adds {action : Recorded ν σ α} {outcome : Except Stop α}
    {added : List (Signal ν)} (writes : Writes action surroundings recording outcome added)
    (view : Signal ν → Option κ) :
    Adds view action surroundings recording outcome (added.filterMap view) :=
  ⟨writes.outcome_eq, by rw [writes.journal_eq, List.filterMap_append]⟩

theorem Writes.pure (value : α) :
    Writes (Pure.pure value : Recorded ν σ α) surroundings recording (.ok value) [] :=
  writes_iff_adds.mpr (Adds.pure value)

theorem Writes.line (text : String) :
    Writes (Recorded.line text : Recorded ν σ Unit) surroundings recording (.ok ())
      [.line text] :=
  ⟨rfl, Array.toList_push⟩

theorem Writes.report (diagnostic : Diagnostic) :
    Writes (CallBench.report diagnostic : Recorded ν σ Unit) surroundings recording (.ok ())
      [.diagnostic diagnostic] :=
  ⟨rfl, Array.toList_push⟩

theorem Writes.bind {action : Recorded ν σ α} {value : α} {first : List (Signal ν)}
    (returned : Writes action surroundings recording (.ok value) first)
    {next : α → Recorded ν σ β} {outcome : Except Stop β} {second : List (Signal ν)}
    (rest : Writes (next value) surroundings (action.runFrom surroundings recording).2 outcome
      second) :
    Writes (action >>= next) surroundings recording outcome (first ++ second) :=
  writes_iff_adds.mpr ((writes_iff_adds.mp returned).bind (writes_iff_adds.mp rest))

theorem Writes.bind_error {action : Recorded ν σ α} {stop : Stop} {added : List (Signal ν)}
    (stopped : Writes action surroundings recording (.error stop) added)
    (next : α → Recorded ν σ β) :
    Writes (action >>= next) surroundings recording (.error stop) added :=
  writes_iff_adds.mpr ((writes_iff_adds.mp stopped).bind_error next)

/-- An attempt returns the outcome of the action, and writes what the action writes. -/
theorem Writes.attempt {action : Recorded ν σ α} {outcome : Except Stop α}
    {added : List (Signal ν)} (ends : Writes action surroundings recording outcome added) :
    Writes (CallBench.attempt action) surroundings recording (.ok outcome) added := by
  constructor
  · rw [runFrom_attempt, ends.outcome_eq]
  · rw [runFrom_attempt, ends.journal_eq]

theorem Writes.resultOf {action : Recorded ν σ α} {outcome : Except Stop α}
    {added : List (Signal ν)} (ends : Writes action surroundings recording outcome added) :
    Writes (CallBench.resultOf action) surroundings recording (asResult outcome) added := by
  constructor
  · rw [runFrom_resultOf, ends.outcome_eq]
  · rw [runFrom_resultOf, ends.journal_eq]

theorem Writes.timed {action : Recorded ν σ Unit} {outcome : Except Stop Unit}
    {added : List (Signal ν)}
    (ends : Writes action surroundings { recording with readings := recording.readings + 1 }
      outcome added) :
    ∃ elapsed, Writes (CallBench.timed action) surroundings recording
      (outcome.map fun _ => elapsed) added := by
  obtain ⟨elapsed, htimed⟩ := (writes_iff_adds.mp ends).timed
  exact ⟨elapsed, writes_iff_adds.mpr htimed⟩

theorem Adds.line (view : Signal ν → Option κ) (text : String) (recording : Recording ν σ) :
    Adds view (Recorded.line text) surroundings recording (.ok ())
      ([Signal.line text].filterMap view) :=
  (Writes.line text).adds view

theorem Adds.report (view : Signal ν → Option κ) (diagnostic : Diagnostic)
    (recording : Recording ν σ) :
    Adds view (CallBench.report diagnostic) surroundings recording (.ok ())
      ([Signal.diagnostic diagnostic].filterMap view) :=
  (Writes.report diagnostic).adds view

theorem adds_line (text : String) (recording : Recording ν σ) :
    Adds Signal.line? (Recorded.line text) surroundings recording (.ok ()) [text] :=
  Adds.line Signal.line? text recording

theorem adds_forM_line (texts : List String) (recording : Recording ν σ) :
    Adds Signal.line? (texts.forM Recorded.line) surroundings recording (.ok ()) texts := by
  induction texts generalizing recording with
  | nil => exact Adds.pure ()
  | cons text texts ih => exact (adds_line _ _).bind (ih _)

theorem adds_report (diagnostic : Diagnostic) (recording : Recording ν σ) :
    Adds Signal.line? (CallBench.report diagnostic) surroundings recording (.ok ()) [] :=
  Adds.report Signal.line? diagnostic recording

/-- Does the same for each item of a list, in order. Whatever an item adds to a view when it
is done with, and whatever it adds up to where it stops: the whole list adds the first for all
of its items, or else the first for some front of it and the second for the item that comes
next. -/
theorem adds_forM {ι τ : Type} {act : ι → Recorded ν σ Unit} (whole : ι × τ → List κ)
    (part : ι → Stop → List κ)
    (each : ∀ item recording,
      (∃ mark, Adds view (act item) surroundings recording (.ok ()) (whole (item, mark))) ∨
        ∃ stop, Adds view (act item) surroundings recording (.error stop) (part item stop))
    (items : List ι) (recording : Recording ν σ) :
    (∃ done : List (ι × τ), done.map Prod.fst = items ∧
      Adds view (items.forM act) surroundings recording (.ok ()) (done.flatMap whole)) ∨
    ∃ (done : List (ι × τ)) (item : ι) (rest : List ι) (stop : Stop),
      items = done.map Prod.fst ++ item :: rest ∧
        Adds view (items.forM act) surroundings recording (.error stop)
          (done.flatMap whole ++ part item stop) := by
  induction items generalizing recording with
  | nil => exact .inl ⟨[], rfl, Adds.pure ()⟩
  | cons item items ih =>
      have hcons : (item :: items).forM act = (act item >>= fun _ => items.forM act) := rfl
      rw [hcons]
      rcases each item recording with ⟨mark, returned⟩ | ⟨stop, stopped⟩
      · rcases ih ((act item).runFrom surroundings recording).2 with
          ⟨done, hdone, hrest⟩ | ⟨done, last, rest, stop, hitems, hrest⟩
        · refine .inl ⟨(item, mark) :: done, by rw [List.map_cons, hdone], ?_⟩
          rw [List.flatMap_cons]
          exact returned.bind hrest
        · refine .inr ⟨(item, mark) :: done, last, rest, stop, ?_, ?_⟩
          · rw [hitems, List.map_cons, List.cons_append]
          · rw [List.flatMap_cons, List.append_assoc]
            exact returned.bind hrest
      · exact .inr ⟨[], item, items, stop, rfl, stopped.bind_error _⟩

theorem writes_forM {ι τ : Type} {act : ι → Recorded ν σ Unit}
    (whole : ι × τ → List (Signal ν)) (part : ι → Stop → List (Signal ν))
    (each : ∀ item recording,
      (∃ mark, Writes (act item) surroundings recording (.ok ()) (whole (item, mark))) ∨
        ∃ stop, Writes (act item) surroundings recording (.error stop) (part item stop))
    (items : List ι) (recording : Recording ν σ) :
    (∃ done : List (ι × τ), done.map Prod.fst = items ∧
      Writes (items.forM act) surroundings recording (.ok ()) (done.flatMap whole)) ∨
    ∃ (done : List (ι × τ)) (item : ι) (rest : List ι) (stop : Stop),
      items = done.map Prod.fst ++ item :: rest ∧
        Writes (items.forM act) surroundings recording (.error stop)
          (done.flatMap whole ++ part item stop) := by
  simp only [writes_iff_adds] at each ⊢
  exact adds_forM whole part each items recording

end Recorded

/-! ## Calls of actions that are left open -/

/-- A call of an action, and how it ended. -/
structure Call (α : Type) where
  action : α
  outcome : Except Stop Unit

namespace Recorded

variable {α σ : Type}

/-- Performs an action and notes the call. Whatever the action does besides, its own
signals are not kept. -/
def noting (perform : α → Recorded (Call α) σ Unit) (action : α) :
    Recorded (Call α) σ Unit := do
  let before ← getThe (Recording (Call α) σ)
  let outcome ← attempt (perform action)
  modifyThe (Recording (Call α) σ) ({ · with journal := before.journal })
  note ⟨action, outcome⟩
  conclude outcome

/-- A noted call ends as the action does, and is one signal. -/
theorem runFrom_noting (perform : α → Recorded (Call α) σ Unit) (action : α)
    (surroundings : Surroundings) (recording : Recording (Call α) σ) :
    (noting perform action).runFrom surroundings recording =
      (((perform action).runFrom surroundings recording).1,
        { ((perform action).runFrom surroundings recording).2 with
          journal := recording.journal.push
            (.note ⟨action, ((perform action).runFrom surroundings recording).1⟩) }) := by
  simp only [noting, runFrom_bind, runFrom_getThe, runFrom_attempt, runFrom_modifyThe,
    runFrom_note, runFrom_conclude, Recording.push]

/-- What a call adds to the journal does not depend on the action, but for how it ends. -/
theorem writes_noting (perform : α → Recorded (Call α) σ Unit) (action : α)
    (surroundings : Surroundings) (recording : Recording (Call α) σ) :
    ∃ outcome, Writes (noting perform action) surroundings recording outcome
      [.note ⟨action, outcome⟩] := by
  refine ⟨_, ⟨rfl, ?_⟩⟩
  rw [runFrom_noting]
  exact Array.toList_push

/-- The diagnostics in a recording behind those of an earlier one. -/
def reportedSince (earlier later : Recording ν σ) : List Diagnostic :=
  later.diagnostics.drop earlier.diagnostics.length

/-- Performs an action and notes the call, behind the diagnostics that the action has reported
meanwhile. Its own lines and notes are not kept. -/
def overhearing (perform : α → Recorded (Call α) σ Unit) (action : α) :
    Recorded (Call α) σ Unit := do
  let before ← getThe (Recording (Call α) σ)
  let outcome ← attempt (perform action)
  modifyThe (Recording (Call α) σ) fun after =>
    { after with
      journal := before.journal ++ ((reportedSince before after).map Signal.diagnostic).toArray }
  note ⟨action, outcome⟩
  conclude outcome

/-- An overheard call ends as the action does. -/
theorem runFrom_overhearing (perform : α → Recorded (Call α) σ Unit) (action : α)
    (surroundings : Surroundings) (recording : Recording (Call α) σ) :
    (overhearing perform action).runFrom surroundings recording =
      let (outcome, later) := (perform action).runFrom surroundings recording
      (outcome, { later with
        journal := (recording.journal ++
          ((reportedSince recording later).map Signal.diagnostic).toArray).push
            (.note ⟨action, outcome⟩) }) := by
  simp only [overhearing, runFrom_bind, runFrom_getThe, runFrom_attempt, runFrom_modifyThe,
    runFrom_note, runFrom_conclude, Recording.push]

/-- An overheard call adds what the action reports, and itself. -/
theorem writes_overhearing (perform : α → Recorded (Call α) σ Unit) (action : α)
    (surroundings : Surroundings) (recording : Recording (Call α) σ) :
    ∃ (outcome : Except Stop Unit) (reported : List Diagnostic),
      Writes (overhearing perform action) surroundings recording outcome
        (reported.map Signal.diagnostic ++ [.note ⟨action, outcome⟩]) := by
  have hrun := runFrom_overhearing perform action surroundings recording
  generalize (perform action).runFrom surroundings recording = run at hrun
  obtain ⟨outcome, later⟩ := run
  refine ⟨outcome, reportedSince recording later, ?_, ?_⟩
  · rw [hrun]
  · rw [hrun, Array.toList_push, Array.toList_append, List.append_assoc]

end Recorded

end CallBench
