/-
# A registry and its runs

A run begins at the first benchmark, whatever became of the run before it, and calls the
actions of the benchmarks in order; it may end after any number of them, through an action
or through its report. So a run is known by how many calls it makes, and how often a
benchmark has been called can be counted over the runs of a history. What an action keeps
for itself from call to call is changed by these calls and by nothing else, so it has been
changed exactly as often.
-/

import CallBench.Proofs.Registry.Calls
import CallBench.Proofs.Registry.Journal
import Mathlib.Logic.Function.Iterate

namespace CallBench.Registry

open Recorded

variable {α κ ν σ : Type}

theorem lineRefusing_zero : (lineRefusing 0 : String → Recorded ν σ Unit) = Recorded.line :=
  rfl

/-- A run whose report refuses no line calls all benchmarks, unless a call stops. -/
theorem length_calls_follow {perform : Job α → Recorded (Call (Job α)) σ Unit}
    {registry : Registry (Job α)} {surroundings : Surroundings}
    {recording : Recording (Call (Job α)) σ} {calls : List (Call (Job α))}
    (hnotes : ((follow (noting perform) registry (.run 0)).runFrom surroundings recording).2.notes =
      recording.notes ++ calls)
    (returned : ∀ call ∈ calls, call.outcome = .ok ()) : calls.length = registry.size := by
  rw [runFrom_follow_run, lineRefusing_zero] at hnotes
  rcases writes_runAll perform registry surroundings recording with
    ⟨timings, total, hall, hwrites⟩ | ⟨timings, entry, rest, stop, -, hwrites⟩
  · have hcalls := List.append_cancel_left
      (hnotes.symm.trans (hwrites.adds Signal.note?).view_eq)
    rw [hcalls, List.filterMap_append, notes_finished, Registry.size, ← hall]
    simp [summary, Signal.note?]
  · have hcalls := List.append_cancel_left
      (hnotes.symm.trans (hwrites.adds Signal.note?).view_eq)
    have hlast : ⟨entry.action, .error stop⟩ ∈ calls := by
      rw [hcalls, List.filterMap_append]
      exact List.mem_append_right _ List.mem_cons_self
    cases returned _ hlast

/-- The calls that one step of a history makes. -/
def callsAt (call : Job α → Recorded ν σ Unit) (surroundings : Surroundings)
    (recording : Recording ν σ) (steps : List (Step α)) (index : Nat) : List ν :=
  (reached call surroundings recording (steps.take (index + 1))).2.notes.drop
    (reached call surroundings recording (steps.take index)).2.notes.length

/-- How often a history calls the benchmark at a place of its registry. A step begins with the
first benchmark, so it comes to a place when it makes more calls than there are benchmarks
before it. -/
def callCount (call : Job α → Recorded ν σ Unit) (surroundings : Surroundings)
    (recording : Recording ν σ) (steps : List (Step α)) (place : Nat) : Nat :=
  (List.range steps.length).countP fun index =>
    place < (callsAt call surroundings recording steps index).length

theorem callsAt_append (call : Job α → Recorded ν σ Unit) (surroundings : Surroundings)
    (recording : Recording ν σ) {steps : List (Step α)} {index : Nat}
    (hindex : index < steps.length) (later : List (Step α)) :
    callsAt call surroundings recording (steps ++ later) index =
      callsAt call surroundings recording steps index := by
  rw [callsAt, callsAt, List.take_append_of_le_length hindex,
    List.take_append_of_le_length (Nat.le_of_lt hindex)]

section

variable (perform : Job α → Recorded (Call (Job α)) σ Unit) (surroundings : Surroundings)
  (recording : Recording (Call (Job α)) σ)

/-- Each step of a history calls a front of the benchmarks that are registered when it is
taken, which are still in their places at the end. -/
theorem exists_callsAt {steps : List (Step α)} {index : Nat} (hindex : index < steps.length) :
    ∃ called ≤ (reached (noting perform) surroundings recording (steps.take index)).1.size,
      (reached (noting perform) surroundings recording (steps.take (index + 1))).2.notes =
        (reached (noting perform) surroundings recording (steps.take index)).2.notes ++
          callsAt (noting perform) surroundings recording steps index ∧
      (callsAt (noting perform) surroundings recording steps index).map Call.action =
        ((reached (noting perform) surroundings recording steps).1.entries.take called).map
          Entry.action ∧
      ((∀ refused, steps[index] ≠ .run refused) → called = 0) ∧
      (steps[index] = .run 0 →
        (∀ call ∈ callsAt (noting perform) surroundings recording steps index,
          call.outcome = .ok ()) →
        called = (reached (noting perform) surroundings recording (steps.take index)).1.size) := by
  obtain ⟨called, hle, calls, hnotes, hcalls, hother⟩ := notes_reached_append_singleton
    (notes_noting perform) surroundings recording (steps.take index) steps[index]
  have hcallsAt : callsAt (noting perform) surroundings recording steps index = calls := by
    rw [callsAt, List.take_succ_eq_append_getElem hindex, hnotes, List.drop_left]
  have hprefix := entries_grow (noting perform) surroundings recording (steps.take index)
    (steps.drop index)
  rw [List.take_append_drop] at hprefix
  obtain ⟨later, hlater⟩ := hprefix
  refine ⟨called, hle, ?_, ?_, hother, ?_⟩
  · rw [hcallsAt, List.take_succ_eq_append_getElem hindex, hnotes]
  · rw [hcallsAt, hcalls, ← hlater, List.take_append_of_le_length hle]
  · rintro hunrefused returned
    rw [hunrefused, reached_append_singleton] at hnotes
    rw [hcallsAt] at returned
    rw [← length_calls_follow hnotes returned, ← List.length_map Call.action, hcalls,
      List.length_map, List.length_take]
    exact (Nat.min_eq_left hle).symm

theorem notes_reached (steps : List (Step α)) :
    (reached (noting perform) surroundings recording steps).2.notes =
      recording.notes ++ (List.range steps.length).flatMap
        (callsAt (noting perform) surroundings recording steps) := by
  induction steps using List.reverseRecOn with
  | nil => exact (List.append_nil _).symm
  | append_singleton steps step ih =>
      obtain ⟨-, -, hlast, -⟩ := exists_callsAt perform surroundings recording
        (show steps.length < (steps ++ [step]).length by simp)
      have hall : (steps ++ [step]).take (steps.length + 1) = steps ++ [step] :=
        List.take_of_length_le (by simp)
      -- A step makes the same calls in the longer history.
      have hfront : (List.range steps.length).flatMap
            (callsAt (noting perform) surroundings recording (steps ++ [step])) =
          (List.range steps.length).flatMap
            (callsAt (noting perform) surroundings recording steps) := by
        apply List.flatMap_congr
        intro index hindex
        exact callsAt_append _ _ _ (List.mem_range.mp hindex) _
      rw [hall, List.take_left] at hlast
      rw [hlast, ih, List.length_append, List.length_singleton, List.range_succ,
        List.flatMap_append, hfront, List.flatMap_singleton, List.append_assoc]

end

/-! ## What an action keeps for itself -/

/-- An action with something of its own: given what it keeps, how a call ends and what the call
leaves. -/
abbrev Keeper (κ : Type) : Type :=
  κ → Except Stop Unit × κ

/-- The number of a job that keeps something. -/
def number? : Job (Nat × α) → Option Nat
  | .custom (number, _) => some number
  | .library _ => none

/-- What is kept under each number, after a call. -/
def leave (kept : Nat → κ) : Job (Nat × Keeper κ) → Nat → κ
  | .custom (number, keeper) => Function.update kept number (keeper (kept number)).2
  | .library _ => kept

/-- Performs jobs of which each keeps something under its number. -/
def performKeeping : Job (Nat × Keeper κ) → Recorded ν (Nat → κ) Unit :=
  Job.perform fun (number, keeper) => do
    let outcome ← Recorded.updateState fun kept =>
      ((keeper (kept number)).1, Function.update kept number (keeper (kept number)).2)
    conclude outcome

/-- A step whose actions have been changed. -/
def Step.map {β : Type} (change : α → β) : Step α → Step β
  | .register category title action => .register category title (change action)
  | .suite name => .suite name
  | .part chosen => .part chosen
  | .allSuites => .allSuites
  | .run refused => .run refused

/-- Actions are told apart by the number of the step that registers them. -/
def numbered (steps : List (Step α)) : List (Step (Nat × α)) :=
  steps.mapIdx fun number step => step.map (number, ·)

theorem state_performKeeping (job : Job (Nat × Keeper κ)) (surroundings : Surroundings)
    (recording : Recording ν (Nat → κ)) :
    ((performKeeping job).runFrom surroundings recording).2.state = leave recording.state job := by
  cases job with
  | library call =>
      have hcall := (inward_state recording.state).keeps_perform (ν := ν) call
      exact (hcall.map _) surroundings recording rfl
  | custom action =>
      obtain ⟨number, keeper⟩ := action
      rw [performKeeping, Job.perform, runFrom_bind]
      exact congrArg (fun run => Recording.state run.2)
        (runFrom_conclude (keeper (recording.state number)).1 surroundings _)

/-- What is kept in a recording comes from what was kept before by the calls that have been
noted since. -/
def LeftByCalls (before after : Recording (Call (Job (Nat × Keeper κ))) (Nat → κ)) : Prop :=
  ∃ calls, after.notes = before.notes ++ calls ∧
    after.state = (calls.map Call.action).foldl leave before.state

theorem inward_leftByCalls (before : Recording (Call (Job (Nat × Keeper κ))) (Nat → κ)) :
    Inward (LeftByCalls before) := by
  refine ⟨?_, fun _ => id, fun _ => id⟩
  rintro after diagnostic ⟨calls, hnotes, hstate⟩
  exact ⟨calls, (inward_notes _).push diagnostic hnotes, hstate⟩

theorem spared_leftByCalls (before : Recording (Call (Job (Nat × Keeper κ))) (Nat → κ)) :
    Spared (LeftByCalls before) where
  push_line := by
    rintro after text ⟨calls, hnotes, hstate⟩
    exact ⟨calls, (notes_push_line after text).trans hnotes, hstate⟩
  push_diagnostic diagnostic := (inward_leftByCalls before).push diagnostic
  reread _ := id

theorem LeftByCalls.keeps_call (before : Recording (Call (Job (Nat × Keeper κ))) (Nat → κ))
    (job : Job (Nat × Keeper κ)) : Keeps (LeftByCalls before) (noting performKeeping job) := by
  rintro surroundings after ⟨calls, hnotes, hstate⟩
  rw [runFrom_noting]
  refine ⟨calls ++ [⟨job, ((performKeeping job).runFrom surroundings after).1⟩], ?_, ?_⟩
  · rw [← List.append_assoc, ← hnotes]
    simp [Recording.notes, Signal.note?]
  · rw [state_performKeeping, List.map_append, List.foldl_append, ← hstate]
    rfl

/-- What is kept at the end of a history follows from its calls alone. -/
theorem leftByCalls_reached (surroundings : Surroundings)
    (recording : Recording (Call (Job (Nat × Keeper κ))) (Nat → κ))
    (steps : List (Step (Nat × Keeper κ))) :
    LeftByCalls recording
      (reached (noting performKeeping) surroundings recording steps).2 := by
  refine holds_reached (spared_leftByCalls recording) (inward_leftByCalls recording)
    (LeftByCalls.keeps_call recording) surroundings ?_ steps
  exact ⟨[], (List.append_nil _).symm, rfl⟩

/-- What is kept under a number is changed by the calls of the job with this number. -/
theorem foldl_leave {number : Nat} {keeper : Keeper κ} {jobs : List (Job (Nat × Keeper κ))}
    (only : ∀ job ∈ jobs, number? job = some number → job = .custom (number, keeper))
    (kept : Nat → κ) :
    jobs.foldl leave kept number =
      (fun left => (keeper left).2)^[jobs.countP (number? · = some number)] (kept number) := by
  induction jobs generalizing kept with
  | nil => rfl
  | cons job jobs ih =>
      obtain ⟨hfirst, hrest⟩ := List.forall_mem_cons.mp only
      rw [List.foldl_cons, ih hrest, List.countP_cons]
      by_cases hnumber : number? job = some number
      · rw [hfirst hnumber]
        simp [number?, leave]
      · have hleave : leave kept job number = kept number := by
          cases job with
          | library call => rfl
          | custom action =>
              have hother : number ≠ action.1 :=
                fun heq => hnumber (congrArg some heq.symm)
              exact Function.update_of_ne hother _ _
        simp [hnumber, hleave]

theorem numbered_append_singleton (steps : List (Step α)) (step : Step α) :
    numbered (steps ++ [step]) = numbered steps ++ [step.map (steps.length, ·)] := by
  rw [numbered, List.mapIdx_concat, numbered]

/-- A step registers one benchmark with its number, or only benchmarks without. -/
theorem registered_map (number place : Nat) (step : Step α) :
    (∃ category title action,
      (step.map (number, ·)).registered place = [⟨category, title, .custom (number, action)⟩]) ∨
    ∀ entry ∈ (step.map (number, ·)).registered place, number? entry.action = none := by
  have hsuite (suite : Suite) (entry : Entry (Job (Nat × α)))
      (hmem : entry ∈ suite.benchmarks place) : number? entry.action = none := by
    obtain ⟨call, -, rfl⟩ := List.mem_map.mp hmem
    rfl
  cases step with
  | register category title action => exact .inl ⟨category, title, action, rfl⟩
  | suite name =>
      right
      intro entry hmem
      obtain ⟨suite, -, hentry⟩ := List.mem_flatMap.mp hmem
      exact hsuite suite entry hentry
  | part suite => exact .inr (hsuite suite)
  | allSuites =>
      right
      intro entry hmem
      obtain ⟨suite, -, hentry⟩ := List.mem_flatMap.mp hmem
      exact hsuite suite entry hentry
  | run refused => exact .inr fun entry hmem => nomatch hmem

/-- The numbers of a registry are those of the steps that have been taken. -/
theorem number_lt_length (call : Job (Nat × α) → Recorded ν σ Unit) (surroundings : Surroundings)
    (recording : Recording ν σ) (steps : List (Step α)) :
    ∀ entry ∈ (reached call surroundings recording (numbered steps)).1.entries,
      ∀ number, number? entry.action = some number → number < steps.length := by
  induction steps using List.reverseRecOn with
  | nil => exact fun _ hmem => nomatch hmem
  | append_singleton steps step ih =>
      intro entry hmem number hnumber
      rw [numbered_append_singleton, reached_append_singleton] at hmem
      rw [List.length_append, List.length_singleton]
      rcases List.mem_append.mp hmem with hold | hnew
      · exact Nat.lt_succ_of_lt (ih entry hold number hnumber)
      · rcases registered_map steps.length
          (nextPlace call surroundings recording (numbered steps)) step with
          ⟨category, title, action, hone⟩ | hnone
        · rw [hone] at hnew
          rw [List.mem_singleton.mp hnew] at hnumber
          exact Option.some.inj hnumber ▸ Nat.lt_succ_self _
        · rw [hnone entry hnew] at hnumber
          exact nomatch hnumber

/-- Two benchmarks do not have the same number. -/
def Apart (first second : Entry (Job (Nat × α))) : Prop :=
  ∀ number, number? first.action = some number → number? second.action ≠ some number

theorem apart_of_number_eq_none {second : Entry (Job (Nat × α))}
    (hnone : number? second.action = none) (first : Entry (Job (Nat × α))) :
    Apart first second := by
  intro number _
  rw [hnone]
  nofun

/-- No number occurs twice in the registry of a numbered history. -/
theorem pairwise_apart (call : Job (Nat × α) → Recorded ν σ Unit) (surroundings : Surroundings)
    (recording : Recording ν σ) (steps : List (Step α)) :
    (reached call surroundings recording (numbered steps)).1.entries.Pairwise Apart := by
  induction steps using List.reverseRecOn with
  | nil => exact List.Pairwise.nil
  | append_singleton steps step ih =>
      rw [numbered_append_singleton, reached_append_singleton]
      rcases registered_map steps.length
        (nextPlace call surroundings recording (numbered steps)) step with
        ⟨category, title, action, hone⟩ | hnone
      · rw [hone]
        refine List.pairwise_append.mpr ⟨ih, List.pairwise_singleton _ _, ?_⟩
        intro first hfirst second hsecond number hnumber
        rw [List.mem_singleton.mp hsecond]
        have hlt := number_lt_length call surroundings recording steps first hfirst number hnumber
        exact fun heq => absurd (Option.some.inj heq) (Nat.ne_of_gt hlt)
      · have hnew := List.pairwise_of_forall_mem_list (r := Apart)
          fun first _ second hsecond => apart_of_number_eq_none (hnone second hsecond) first
        exact List.pairwise_append.mpr ⟨ih, hnew,
          fun first _ second hsecond => apart_of_number_eq_none (hnone second hsecond) first⟩

/-- Around a benchmark with a number no other has it. -/
theorem ne_number_of_apart {front back : List (Entry (Job (Nat × α)))}
    {entry : Entry (Job (Nat × α))} (apart : (front ++ entry :: back).Pairwise Apart)
    {number : Nat} (hnumber : number? entry.action = some number) :
    ∀ other ∈ front ++ back, number? other.action ≠ some number := by
  obtain ⟨-, hentry, hfront⟩ := List.pairwise_append.mp apart
  obtain ⟨hback, -⟩ := List.pairwise_cons.mp hentry
  intro other hmem
  rcases List.mem_append.mp hmem with hbefore | hafter
  · exact fun hother => hfront other hbefore entry List.mem_cons_self number hother hnumber
  · exact hback other hafter number hnumber

/-- A front of the benchmarks has the benchmark with a number once or not at all. -/
theorem countP_number_take {front back : List (Entry (Job (Nat × α)))}
    {entry : Entry (Job (Nat × α))} {number : Nat}
    (hnumber : number? entry.action = some number)
    (others : ∀ other ∈ front ++ back, number? other.action ≠ some number) (called : Nat) :
    (((front ++ entry :: back).take called).map Entry.action).countP (number? · = some number) =
      if front.length < called then 1 else 0 := by
  have hnone (entries : List (Entry (Job (Nat × α)))) (hsub : entries ⊆ front ++ back) :
      entries.countP ((number? · = some number) ∘ Entry.action) = 0 :=
    List.countP_eq_zero.mpr fun other hmem => by simpa using others other (hsub hmem)
  have hfront : ∀ count, front.take count ⊆ front ++ back := fun count =>
    List.Subset.trans (List.take_subset count front) (List.subset_append_left front back)
  rw [List.countP_map, List.take_append, List.countP_append, hnone _ (hfront called), Nat.zero_add]
  by_cases hcalled : front.length < called
  · obtain ⟨more, hmore⟩ := Nat.exists_eq_add_of_lt hcalled
    have hback : back.take more ⊆ front ++ back :=
      List.Subset.trans (List.take_subset more back) (List.subset_append_right front back)
    have hrest : called - front.length = more + 1 := by omega
    rw [if_pos hcalled, hrest, List.take_succ_cons,
      List.countP_cons_of_pos (by simpa using hnumber), hnone _ hback]
  · have hrest : called - front.length = 0 := by omega
    rw [if_neg hcalled, hrest]
    rfl

theorem countP_flatMap_of_ite {ι τ : Type} {each : ι → List τ} {here : τ → Bool}
    {comes : ι → Bool} {items : List ι}
    (once : ∀ item ∈ items, (each item).countP here = if comes item then 1 else 0) :
    (items.flatMap each).countP here = items.countP comes := by
  induction items with
  | nil => rfl
  | cons item items ih =>
      obtain ⟨hfirst, hrest⟩ := List.forall_mem_cons.mp once
      rw [List.flatMap_cons, List.countP_append, List.countP_cons, hfirst, ih hrest, Nat.add_comm]

/-- The calls of the benchmark with a number are those that come to its place. -/
theorem countP_number_calls (perform : Job (Nat × α) → Recorded (Call (Job (Nat × α))) σ Unit)
    (surroundings : Surroundings) (recording : Recording (Call (Job (Nat × α))) σ)
    {steps : List (Step (Nat × α))} {front back : List (Entry (Job (Nat × α)))}
    {entry : Entry (Job (Nat × α))} {number : Nat}
    (hentries : (reached (noting perform) surroundings recording steps).1.entries =
      front ++ entry :: back)
    (hnumber : number? entry.action = some number)
    (others : ∀ other ∈ front ++ back, number? other.action ≠ some number) :
    (((List.range steps.length).flatMap
        (callsAt (noting perform) surroundings recording steps)).map Call.action).countP
          (number? · = some number) =
      callCount (noting perform) surroundings recording steps front.length := by
  rw [List.map_flatMap, callCount]
  apply countP_flatMap_of_ite
  intro index hindex
  obtain ⟨called, hle, -, hcalls, -⟩ := exists_callsAt perform surroundings recording
    (List.mem_range.mp hindex)
  have hlength : (callsAt (noting perform) surroundings recording steps index).length = called := by
    have hfinal := (entries_grow (noting perform) surroundings recording (steps.take index)
      (steps.drop index)).length_le
    rw [List.take_append_drop] at hfinal
    rw [← List.length_map Call.action, hcalls, List.length_map, List.length_take]
    exact Nat.min_eq_left (Nat.le_trans hle hfinal)
  rw [hcalls, hentries, countP_number_take hnumber others, hlength]
  simp

/-- What an action keeps is what its own calls have left. -/
theorem state_reached (surroundings : Surroundings)
    (recording : Recording (Call (Job (Nat × Keeper κ))) (Nat → κ)) (steps : List (Step (Keeper κ)))
    {front back : List (Entry (Job (Nat × Keeper κ)))} {entry : Entry (Job (Nat × Keeper κ))}
    {number : Nat} {keeper : Keeper κ}
    (hentries : (reached (noting performKeeping) surroundings recording
      (numbered steps)).1.entries = front ++ entry :: back)
    (hentry : entry.action = .custom (number, keeper)) :
    (reached (noting performKeeping) surroundings recording (numbered steps)).2.state number =
      (fun left => (keeper left).2)^[callCount (noting performKeeping) surroundings recording
        (numbered steps) front.length] (recording.state number) := by
  have hnumber : number? entry.action = some number := by rw [hentry, number?]
  have hapart := pairwise_apart (noting performKeeping) surroundings recording steps
  rw [hentries] at hapart
  have others := ne_number_of_apart hapart hnumber
  obtain ⟨calls, hnotes, hstate⟩ := leftByCalls_reached surroundings recording (numbered steps)
  have hcalls := List.append_cancel_left (hnotes.symm.trans
    (notes_reached performKeeping surroundings recording (numbered steps)))
  -- All calls are calls of benchmarks in the registry, where no other has this number.
  have only : ∀ job ∈ calls.map Call.action, number? job = some number →
      job = .custom (number, keeper) := by
    intro job hjob hsame
    rw [hcalls, List.map_flatMap] at hjob
    obtain ⟨index, hindex, hmem⟩ := List.mem_flatMap.mp hjob
    obtain ⟨called, -, -, hfront, -⟩ := exists_callsAt performKeeping surroundings recording
      (List.mem_range.mp hindex)
    rw [hfront, hentries] at hmem
    obtain ⟨other, hother, rfl⟩ := List.mem_map.mp hmem
    rcases List.mem_append.mp (List.mem_of_mem_take hother) with hbefore | hafter
    · exact absurd hsame (others other (List.mem_append_left back hbefore))
    · rcases List.mem_cons.mp hafter with rfl | hafter
      · exact hentry
      · exact absurd hsame (others other (List.mem_append_right front hafter))
  rw [hstate, foldl_leave only, hcalls,
    countP_number_calls performKeeping surroundings recording hentries hnumber others]

/-- A benchmark is called at least as often as any behind it, also within a run of which
`made` calls have been made. -/
theorem callCount_antitone (call : Job α → Recorded ν σ Unit) (surroundings : Surroundings)
    (recording : Recording ν σ) (steps : List (Step α)) (made : Nat) {first second : Nat}
    (hlt : first < second) :
    callCount call surroundings recording steps second + (if second < made then 1 else 0) ≤
      callCount call surroundings recording steps first + (if first < made then 1 else 0) := by
  apply Nat.add_le_add
  · apply List.countP_mono_left
    intro index _ hsecond
    exact decide_eq_true (Nat.lt_trans hlt (of_decide_eq_true hsecond))
  · split_ifs <;> omega

/-- What a registry comes to along a history, whatever becomes of its runs. -/
structure Survives (perform : Job α → Recorded (Call (Job α)) σ Unit) (surroundings : Surroundings)
    (recording : Recording (Call (Job α)) σ) (steps : List (Step α)) : Prop where
  /-- The history is taken to its end. -/
  returns : (replay (noting perform) steps).runFrom surroundings recording =
    (.ok (reached (noting perform) surroundings recording steps).1,
      (reached (noting perform) surroundings recording steps).2)
  /-- The registry has the benchmarks that the steps have registered, in order. -/
  entries_eq : (reached (noting perform) surroundings recording steps).1.entries =
    (steps.mapIdx fun index step => step.registered
      (nextPlace (noting perform) surroundings recording (steps.take index))).flatten
  /-- A name that no suite has is refused, and the registry and the recording are as before. -/
  refuses : ∀ name ∉ Suite.names,
    let after := reached (noting perform) surroundings recording
    let enrolling : InPlace (Job α) (Recorded (Call (Job α)) σ) Unit := Suite.enroll name
    (enrolling.on (after steps).1).runFrom surroundings (after steps).2 =
      (.ok (.error (.ofCause (.unknownSuite name Suite.names)), (after steps).1),
        (after steps).2) ∧
    after (steps ++ [.suite name]) = after steps
  /-- All calls are made by the steps, one step after the other. -/
  calls_eq : (reached (noting perform) surroundings recording steps).2.notes =
    recording.notes ++ (List.range steps.length).flatMap
      (callsAt (noting perform) surroundings recording steps)
  /-- A step calls a front of the benchmarks, from the first on and each once: none unless it is
  a run, and all when the report takes every line and every call returns. -/
  calls_front : ∀ index (hindex : index < steps.length),
    let calls := callsAt (noting perform) surroundings recording steps index
    let before := (reached (noting perform) surroundings recording (steps.take index)).1
    ∃ called ≤ before.size,
      calls.map Call.action =
        ((reached (noting perform) surroundings recording steps).1.entries.take called).map
          Entry.action ∧
      ((∀ refused, steps[index] ≠ .run refused) → called = 0) ∧
      (steps[index] = .run 0 → (∀ call ∈ calls, call.outcome = .ok ()) → called = before.size)
  /-- A benchmark has been called at least as often as any behind it, also within a run of which
  `made` calls have been made. -/
  count_antitone : ∀ made first second, first < second →
    callCount (noting perform) surroundings recording steps second +
        (if second < made then 1 else 0) ≤
      callCount (noting perform) surroundings recording steps first +
        (if first < made then 1 else 0)

/-- What each action keeps of its own is in the end what exactly as many calls leave as its
benchmark has had. -/
def KeepsByCalls (surroundings : Surroundings)
    (recording : Recording (Call (Job (Nat × Keeper κ))) (Nat → κ)) (steps : List (Step (Keeper κ))) :
    Prop :=
  let after := reached (noting performKeeping) surroundings recording (numbered steps)
  let count := callCount (noting performKeeping) surroundings recording (numbered steps)
  ∀ front (entry : Entry (Job (Nat × Keeper κ))) back number (keeper : Keeper κ),
    after.1.entries = front ++ entry :: back → entry.action = .custom (number, keeper) →
      after.2.state number =
        (fun left => (keeper left).2)^[count front.length] (recording.state number)

/-- **A registry survives whatever its runs come to.** A history always leads on, and the
registry has exactly the benchmarks that its steps have registered, in order; a name that no
suite has leaves the registry and the recording as they are. Each step calls a front of the
benchmarks, so a benchmark has been called at least as often as any behind it. Where each action
keeps something of its own, this has been changed by the calls of its benchmark and by nothing
else. -/
theorem replay_survives_runs (perform : Job α → Recorded (Call (Job α)) σ Unit)
    (surroundings : Surroundings) (recording : Recording (Call (Job α)) σ) (steps : List (Step α)) :
    Survives perform surroundings recording steps ∧
    ∀ (κ : Type) (recording : Recording (Call (Job (Nat × Keeper κ))) (Nat → κ))
      (steps : List (Step (Keeper κ))), KeepsByCalls surroundings recording steps := by
  refine ⟨⟨runFrom_replay _ _ _ _, entries_reached _ _ _ _, ?refuses, notes_reached _ _ _ _, ?front,
    fun made first second hlt => callCount_antitone _ _ _ _ made hlt⟩, ?kept⟩
  case refuses =>
    intro name unknown after enrolling
    have hstep := reached_append_singleton (noting perform) surroundings recording steps
      (.suite name)
    rw [runFrom_follow_unknown _ _ _ _ unknown, Step.registered,
      Suite.ofName?_eq_none_iff.mpr unknown, Option.toList_none, List.flatMap_nil,
      List.append_nil] at hstep
    exact ⟨Suite.runFrom_enroll_of_unknown unknown _ _ _, hstep⟩
  case front =>
    intro index hindex
    obtain ⟨called, hle, -, hcalls, hother⟩ := exists_callsAt perform surroundings recording hindex
    exact ⟨called, hle, hcalls, hother⟩
  case kept =>
    intro κ recording steps front entry back number keeper hentries hentry
    exact state_reached surroundings recording steps hentries hentry

/-- Counts its calls, and ends each as its number says. -/
def counting (ends : Nat → Except Stop Unit) : Keeper Nat :=
  fun calls => (ends calls, calls + 1)

/-- Two benchmarks around one that panics in its second call. All goes well in the first run,
the second is ended by the panic, and the third by its report, right behind the first call. -/
def interrupted : List (Step (Keeper Nat)) :=
  [.register "own" "first" (counting fun _ => .ok ()), .suite "net",
    .register "own" "fragile" (counting fun calls =>
      if calls = 1 then .error (.panicked "spent") else .ok ()),
    .register "own" "last" (counting fun _ => .ok ()), .run 0, .run 0, .run 17]

theorem replay_survives_interrupted :
    let surroundings : Surroundings :=
      ⟨.error .notFound, fun _ => none, .error .notFound, fun _ => .ofNanos 0⟩
    let after := reached (noting performKeeping) surroundings
      ({ state := fun _ => 0 } : Recording (Call (Job (Nat × Keeper Nat))) (Nat → Nat))
    "net" ∉ Suite.names ∧
    after (numbered interrupted ++ [.suite "net"]) = after (numbered interrupted) ∧
    (after (numbered interrupted)).2.state 0 = 3 ∧
    (after (numbered interrupted)).2.state 2 = 2 ∧
    (after (numbered interrupted)).2.state 3 = 1 := by
  intro surroundings after
  obtain ⟨survives, kept⟩ := replay_survives_runs performKeeping surroundings
    { state := fun _ => 0 } (numbered interrupted)
  have hentries := survives.entries_eq
  have hstate := kept Nat { state := fun _ => 0 } interrupted
  have unknown : "net" ∉ Suite.names := by decide
  refine ⟨unknown, (survives.refuses "net" unknown).2, ?_, ?_, ?_⟩
  · rw [hstate [] _ _ 0 _ hentries rfl]
    decide +kernel
  · rw [hstate [_] _ _ 2 _ hentries rfl]
    decide +kernel
  · rw [hstate [_, _] _ _ 3 _ hentries rfl]
    decide +kernel

end CallBench.Registry
