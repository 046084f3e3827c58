/-
# The events suite over its runs

Every registration of the events suite puts an emitter of its own on the shelf, and only the
benchmarks of that registration know its place. An emission leaves the emitter as it is, so
the emitter of each registration stands as it was created through a whole history, whatever
the other benchmarks do and wherever a run is ended. That is the invariant here, together with
what has been seen of the calls so far. From it every call of a benchmark of the suite does
what its title says, and finds the emitter free, so a history with loans is one without.
-/

import CallBench.Proofs.Library.Events
import CallBench.Proofs.Registry.Watch

namespace CallBench

open Recorded

variable {α ν σ : Type}

/-- What the actions of somebody else can do to the emitters: put more of them on the shelf.
Those that stand there already they do not know, so they neither change nor borrow them. -/
def Aloof (action : Recorded ν (Loans σ) Unit) : Prop :=
  ∀ (surroundings : Surroundings) (recording : Recording ν (Loans σ)),
    recording.shelf.emitters <+: (action.runFrom surroundings recording).2.shelf.emitters ∧
      (action.runFrom surroundings recording).2.state.lent = recording.state.lent

/-- A call of a benchmark that emits, seen to do what its title says: it has returned, has
reported one listener for each emission and nothing else, and has left all emitters as they
were, its own as it had been created. Of other calls this says nothing. -/
def Sighting.AsTitled (sighting : Sighting α) : Prop :=
  ∀ place event times, sighting.job = .library (.emit place event times) →
    sighting.outcome = .ok () ∧
    sighting.reported = List.replicate times Suite.emission ∧
    sighting.before.emitters[place]? = some Suite.dummyEmitter ∧
    sighting.after = sighting.before

namespace Registry

/-- The suites that a step registers. -/
def Step.suites : Step α → List Suite
  | .suite name => (Suite.ofName? name).toList
  | .part chosen => [chosen]
  | .allSuites => Suite.all
  | .register _ _ _ | .run _ => []

/-- What a step registers are benchmarks of its suites, or somebody's own. -/
theorem mem_registered {step : Step α} {place : Nat} {entry : Entry (Job α)}
    (hmem : entry ∈ step.registered place) :
    (∃ suite ∈ step.suites, entry ∈ suite.benchmarks place) ∨
      ∃ action, entry.action = .custom action := by
  cases step with
  | register category title action =>
      rw [List.mem_singleton.mp hmem]
      exact .inr ⟨action, rfl⟩
  | suite name => exact .inl (List.mem_flatMap.mp hmem)
  | part suite => exact .inl ⟨suite, List.mem_singleton_self suite, hmem⟩
  | allSuites => exact .inl (List.mem_flatMap.mp hmem)
  | run refused => exact nomatch hmem

/-- What is registered of the events suite emits the event of the suite at the next free
place, as often as its title says. -/
theorem emit_of_mem_registered {step : Step α} {place : Nat} {entry : Entry (Job α)}
    (hmem : entry ∈ step.registered place) {spot times : Nat} {event : String}
    (hemit : entry.action = .library (.emit spot event times)) :
    .events ∈ step.suites ∧ spot = place ∧ event = Suite.dummy ∧ times ∈ Suite.emitLevels ∧
      entry.category = "events" ∧ entry.title = "emitter.emit('dummy') * " ++ toString times := by
  rcases mem_registered hmem with ⟨suite, hsuite, hbenchmark⟩ | ⟨action, hcustom⟩
  · obtain ⟨rfl, hrest⟩ := Suite.emit_of_mem_benchmarks hbenchmark hemit
    exact ⟨hsuite, hrest⟩
  · rw [hcustom] at hemit
    exact nomatch hemit

/-- Between two steps the emitters of a registry stand as they were created, none is on loan,
and all calls have been seen to do what their titles say. -/
structure Served (registry : Registry (Job α)) (recording : Recording (Sighting α) (Loans σ)) :
    Prop where
  stands : ∀ entry ∈ registry.entries, ∀ place event times,
    entry.action = .library (.emit place event times) →
      event = Suite.dummy ∧ recording.shelf.emitters[place]? = some Suite.dummyEmitter
  free : recording.state.lent = []
  seen : ∀ sighting ∈ recording.notes, sighting.AsTitled

variable {registry : Registry (Job α)} {recording : Recording (Sighting α) (Loans σ)}

theorem spared_served : Spared (Served registry : Recording (Sighting α) (Loans σ) → Prop) where
  push_line text served := ⟨served.stands, served.free, (notes_push_line _ text).symm ▸ served.seen⟩
  push_diagnostic diagnostic served :=
    ⟨served.stands, served.free, ((inward_notes _).push diagnostic rfl).symm ▸ served.seen⟩
  reread _ served := ⟨served.stands, served.free, served.seen⟩

namespace Served

/-- The emitter of a registration is put where no emitter stands yet. -/
theorem place_lt (served : Served registry recording) {entry : Entry (Job α)}
    (hmem : entry ∈ registry.entries) {place times : Nat} {event : String}
    (hemit : entry.action = .library (.emit place event times)) :
    place < recording.shelf.emitters.length :=
  (List.getElem?_eq_some_iff.mp (served.stands entry hmem place event times hemit).2).1

/-- What a step registers is served as well. -/
theorem grows (served : Served registry recording) (step : Step α) :
    Served ⟨registry.entries ++ step.registered recording.shelf.emitters.length⟩
      { recording with shelf := step.suites.foldl Suite.stock recording.shelf } where
  stands entry hmem place event times hemit := by
    rcases List.mem_append.mp hmem with hold | hnew
    · obtain ⟨hevent, hstands⟩ := served.stands entry hold place event times hemit
      exact ⟨hevent, Shelf.stands_of_prefix (Suite.prefix_foldl_stock _ _) hstands⟩
    · obtain ⟨hevents, rfl, hevent, -⟩ := emit_of_mem_registered hnew hemit
      exact ⟨hevent, Suite.stands_foldl_stock hevents recording.shelf⟩
  free := served.free
  seen := served.seen

/-- A call that is seen to do what its title says may be noted. -/
theorem note (served : Served registry recording) {later : Recording (Sighting α) (Loans σ)}
    {sighting : Sighting α} (grows : recording.shelf.emitters <+: later.shelf.emitters)
    (lent : later.state.lent = recording.state.lent) (titled : sighting.AsTitled) :
    Served registry { later with journal := recording.journal.push (.note sighting) } where
  stands entry hmem place event times hemit :=
    (served.stands entry hmem place event times hemit).imp_right (Shelf.stands_of_prefix grows)
  free := lent.trans served.free
  seen other hother := by
    have hnotes : other ∈ recording.notes ++ [sighting] := by
      simpa [Recording.notes, Signal.note?] using hother
    rcases List.mem_append.mp hnotes with hold | hnew
    · exact served.seen other hold
    · exact List.mem_singleton.mp hnew ▸ titled

end Served

/-- If a job is performed in the same way with loans and without them, and the call does what
its title says, then it may be watched in a run of either kind. -/
theorem agree_watching {first second : Job α → Recorded (Sighting α) (Loans σ) Unit} {job : Job α}
    (performs : ∀ surroundings recording, Served registry recording →
      let (outcome, later) := (second job).runFrom surroundings recording
      (first job).runFrom surroundings recording = (outcome, later) ∧
      recording.shelf.emitters <+: later.shelf.emitters ∧
      later.state.lent = recording.state.lent ∧
      (⟨job, outcome, reportedSince recording later, recording.shelf, later.shelf⟩ :
        Sighting α).AsTitled) :
    Agree (Served registry) (watching first job) (watching second job) := by
  intro surroundings recording served
  obtain ⟨hsame, hgrows, hlent, htitled⟩ := performs surroundings recording served
  rw [runFrom_watching, runFrom_watching, hsame]
  exact ⟨rfl, served.note hgrows hlent htitled⟩

variable (custom : α → Recorded (Sighting α) (Loans σ) Unit)

/-- A benchmark of the events suite finds its emitter free and as it was created. -/
theorem agree_emit {place times : Nat} {event : String}
    (stands : ∀ recording : Recording (Sighting α) (Loans σ), Served registry recording →
      event = Suite.dummy ∧ recording.shelf.emitters[place]? = some Suite.dummyEmitter) :
    Agree (Served registry)
      (watching (Job.performLending custom) (.library (.emit place event times)))
      (watching (Job.perform custom) (.library (.emit place event times))) := by
  apply agree_watching
  intro surroundings recording served
  obtain ⟨rfl, hstands⟩ := stands recording served
  have hfree : place ∉ recording.state.lent := served.free ▸ List.not_mem_nil
  rw [runFrom_perform_emit custom surroundings hstands times]
  refine ⟨runFrom_performLending_emit custom surroundings hfree hstands times, ?_, ?_, ?_⟩
  · exact Recording.shelf_emitted recording times ▸ List.prefix_rfl
  · rw [Recording.state_emitted]
  · intro place event times hjob
    cases hjob
    exact ⟨rfl, reportedSince_emitted recording times, hstands,
      Recording.shelf_emitted recording times⟩

theorem agree_silent {call : LibraryCall}
    (silent : ∀ place event times, call ≠ .emit place event times) :
    Agree (Served registry) (watching (Job.performLending custom) (.library call))
      (watching (Job.perform custom) (.library call)) := by
  apply agree_watching
  intro surroundings recording served
  rw [performLending_of_silent custom silent, perform_library, runFrom_discard]
  refine ⟨rfl, ?_, ?_, ?_⟩
  · exact shelf_perform surroundings silent recording ▸ List.prefix_rfl
  · have hstate := (inward_state recording.state).keeps_perform call surroundings recording rfl
    exact congrArg Loans.lent hstate
  · intro place event times hjob
    exact absurd (Job.library.inj hjob) (silent place event times)

variable {custom}

theorem agree_custom {action : α} (aloof : Aloof (custom action)) :
    Agree (Served registry) (watching (Job.performLending custom) (.custom action))
      (watching (Job.perform custom) (.custom action)) := by
  apply agree_watching
  intro surroundings recording served
  obtain ⟨hgrows, hlent⟩ := aloof surroundings recording
  exact ⟨rfl, hgrows, hlent, nofun⟩

/-- The calls of a run do the same with loans and without them. -/
theorem agree_calls (aloof : ∀ action, Aloof (custom action)) {entry : Entry (Job α)}
    (hmem : entry ∈ registry.entries) :
    Agree (Served registry) (watching (Job.performLending custom) entry.action)
      (watching (Job.perform custom) entry.action) := by
  cases haction : entry.action with
  | custom action => exact agree_custom (aloof action)
  | library call =>
      by_cases hemit : ∃ place event times, call = .emit place event times
      · obtain ⟨place, event, times, rfl⟩ := hemit
        exact agree_emit custom fun _ served => served.stands entry hmem place event times haction
      · exact agree_silent custom fun place event times heq => hemit ⟨place, event, times, heq⟩

/-- After a registration the registry is served. -/
theorem served_follow_of_ne_run (served : Served registry recording)
    (call : Job α → Recorded (Sighting α) (Loans σ) Unit) {step : Step α}
    (quiet : ∀ refused, step ≠ .run refused) (surroundings : Surroundings) :
    Served ⟨registry.entries ++ step.registered recording.shelf.emitters.length⟩
      ((follow call registry step).runFrom surroundings recording).2 := by
  have hgrows := served.grows step
  cases step with
  | register category title action => exact hgrows
  | suite name =>
      by_cases hname : name ∈ Suite.names
      · obtain ⟨suite, -, rfl⟩ := List.mem_map.mp hname
        rw [runFrom_follow_suite]
        rw [Step.suites, Suite.ofName?_eq_some_iff.mpr rfl] at hgrows
        exact spared_served.push_diagnostic _ hgrows
      · rw [runFrom_follow_unknown _ _ _ _ hname]
        rw [Step.suites, Suite.ofName?_eq_none_iff.mpr hname] at hgrows
        exact hgrows
  | part suite =>
      rw [runFrom_follow_part]
      exact hgrows
  | allSuites =>
      rw [runFrom_follow_allSuites]
      exact hgrows
  | run refused => exact absurd rfl (quiet refused)

/-- A step does the same with loans and without them, and what held before it holds after it. -/
theorem agree_follow (aloof : ∀ action, Aloof (custom action))
    (served : Served registry recording) (step : Step α) (surroundings : Surroundings) :
    (follow (watching (Job.performLending custom)) registry step).runFrom surroundings recording =
      (follow (watching (Job.perform custom)) registry step).runFrom surroundings recording ∧
    Served ⟨registry.entries ++ step.registered recording.shelf.emitters.length⟩
      ((follow (watching (Job.perform custom)) registry step).runFrom surroundings recording).2 := by
  by_cases hrun : ∃ refused, step = .run refused
  · obtain ⟨refused, rfl⟩ := hrun
    have hcalls (entry : Entry (Job α)) (hmem : entry ∈ registry.entries) :=
      agree_calls aloof hmem
    obtain ⟨hsame, hkept⟩ :=
      spared_served.agree_runAll hcalls refused surroundings recording served
    have hentries : (⟨registry.entries ++
        (Step.run refused : Step α).registered recording.shelf.emitters.length⟩ :
          Registry (Job α)) = registry := congrArg Registry.mk (List.append_nil _)
    rw [hentries, runFrom_follow_run, runFrom_follow_run, hsame]
    exact ⟨rfl, hkept⟩
  · have quiet : ∀ refused, step ≠ .run refused := fun refused heq => hrun ⟨refused, heq⟩
    exact ⟨by rw [follow_of_ne_run _ registry (watching (Job.perform custom)) quiet],
      served_follow_of_ne_run served _ quiet surroundings⟩

/-- A history with loans is one without, and its registry is served at its end. -/
theorem agree_reached (aloof : ∀ action, Aloof (custom action)) (surroundings : Surroundings)
    {start : Recording (Sighting α) (Loans σ)} (served : Served ({} : Registry (Job α)) start)
    (steps : List (Step α)) :
    reached (watching (Job.performLending custom)) surroundings start steps =
      reached (watching (Job.perform custom)) surroundings start steps ∧
    Served (reached (watching (Job.perform custom)) surroundings start steps).1
      (reached (watching (Job.perform custom)) surroundings start steps).2 := by
  induction steps using List.reverseRecOn with
  | nil => exact ⟨rfl, served⟩
  | append_singleton steps step ih =>
      obtain ⟨hsame, hserved⟩ := ih
      obtain ⟨hstep, hafter⟩ := agree_follow aloof hserved step surroundings
      rw [reached_append_singleton, reached_append_singleton, nextPlace, nextPlace, hsame, hstep]
      exact ⟨rfl, hafter⟩

/-- What the events suite does along a history with loans. -/
structure DoesAsTitled (custom : α → Recorded (Sighting α) (Loans σ) Unit)
    (surroundings : Surroundings) (start : Recording (Sighting α) (Loans σ))
    (steps : List (Step α)) : Prop where
  /-- All calls of its benchmarks have done what their titles say. -/
  seen : let after := reached (watching (Job.performLending custom)) surroundings start
    ∀ sighting ∈ (after steps).2.notes, sighting.AsTitled
  /-- The calls are those that the steps make, each the calls of a front of the benchmarks. -/
  calls : let after := reached (watching (Job.performLending custom)) surroundings start
    ∀ step, ∃ called ≤ (after steps).1.size, ∃ seen,
      (after (steps ++ [step])).2.notes = (after steps).2.notes ++ seen ∧
      seen.map Sighting.job = ((after steps).1.entries.take called).map Entry.action ∧
      ((∀ refused, step ≠ .run refused) → called = 0)
  /-- The benchmarks of one registration share the next free place, and their titles say how
  often they emit there. -/
  registered : let after := reached (watching (Job.performLending custom)) surroundings start
    let free := (after steps).2.shelf.emitters.length
    ∀ step, (after (steps ++ [step])).1.entries = (after steps).1.entries ++ step.registered free ∧
      ∀ entry ∈ step.registered free, ∀ place event times,
        entry.action = .library (.emit place event times) →
          place = free ∧ times ∈ Suite.emitLevels ∧ entry.category = "events" ∧
            entry.title = "emitter.emit('dummy') * " ++ toString times
  /-- The emitters of earlier registrations stand in other places, as they were created. -/
  stands : let after := reached (watching (Job.performLending custom)) surroundings start
    ∀ entry ∈ (after steps).1.entries, ∀ place event times,
      entry.action = .library (.emit place event times) →
        event = "dummy" ∧ place < (after steps).2.shelf.emitters.length ∧
          (after steps).2.shelf.emitters[place]? = some Suite.dummyEmitter
  /-- As it is created, an emitter has one listener to one event, which stays. -/
  created : Suite.dummyEmitter.events = [("dummy", [⟨⟨0⟩, (), false⟩])]
  /-- Nobody is refused a loan, so the history is the same without loans. -/
  unlent : reached (watching (Job.performLending custom)) surroundings start steps =
    reached (watching (Job.perform custom)) surroundings start steps

/-- **The events suite does what its titles say.** A registry grows by any benchmarks and
suites, by name or directly, and is run any number of times; the emitters of the suite are on
loan while a benchmark emits, and the other benchmarks keep aloof from them. Then each call of
a benchmark of the suite returns, reports one emission to one listener as often as its title
says, and leaves all emitters as they were, its own as it had been created. The benchmarks of
one registration share the next free place, at which no benchmark of an earlier one emits, and
nobody is refused a loan. -/
theorem events_do_as_titled (aloof : ∀ action, Aloof (custom action))
    (surroundings : Surroundings) (shelf : Shelf Unit) (own : σ) (steps : List (Step α)) :
    DoesAsTitled custom surroundings { shelf, state := { own } } steps := by
  have hstart : Served ({} : Registry (Job α))
      ({ shelf, state := { own } } : Recording (Sighting α) (Loans σ)) :=
    ⟨List.forall_mem_nil _, rfl, List.forall_mem_nil _⟩
  obtain ⟨hsame, hserved⟩ := agree_reached aloof surroundings hstart steps
  rw [← hsame] at hserved
  refine ⟨hserved.seen, notes_reached_append_singleton (notes_watching _) surroundings _ steps,
    ?registered, ?stands, rfl, hsame⟩
  case registered =>
    refine fun step => ⟨by rw [reached_append_singleton, nextPlace], ?_⟩
    intro entry hmem place event times hemit
    obtain ⟨-, hplace, -, hrest⟩ := emit_of_mem_registered hmem hemit
    exact ⟨hplace, hrest⟩
  case stands =>
    intro after entry hmem place event times hemit
    obtain ⟨hevent, hstands⟩ := hserved.stands entry hmem place event times hemit
    exact ⟨hevent, hserved.place_lt hmem hemit, hstands⟩

/-- Counts its calls, and panics in the second one. -/
def fragile : Unit → Recorded (Sighting Unit) (Loans Nat) Unit := fun _ => do
  let calls ← updateState fun loans => (loans.own, { loans with own := loans.own + 1 })
  if calls = 1 then throw (.panicked "spent")

theorem aloof_fragile (action : Unit) : Aloof (fragile action) := by
  intro surroundings recording
  have hcount : (updateState fun loans : Loans Nat =>
        (loans.own, { loans with own := loans.own + 1 })).runFrom surroundings recording =
      (.ok recording.state.own,
        { recording with state := { recording.state with own := recording.state.own + 1 } }) := rfl
  rw [fragile, runFrom_bind, hcount]
  dsimp only
  split
  · exact ⟨List.prefix_rfl, rfl⟩
  · exact ⟨List.prefix_rfl, rfl⟩

/-- The suite is registered twice behind a benchmark that panics in its second call. The first
run is ended by its report within the suite, the second by the panic, and the third by its
report again. -/
def disturbed : List (Step Unit) :=
  [.register "own" "fragile" (), .part .events, .suite "events", .run 14, .run 0, .run 19]

theorem events_do_as_titled_disturbed :
    let surroundings : Surroundings :=
      ⟨.error .notFound, fun _ => none, .error .notFound, fun _ => .ofNanos 0⟩
    let after := reached (watching (Job.performLending fragile)) surroundings
      { state := { own := 0 } }
    (∀ action, Aloof (fragile action)) ∧
    (∀ sighting ∈ (after disturbed).2.notes, sighting.AsTitled) ∧
    (after disturbed).2.notes.map (fun seen => (seen.outcome.isOk, seen.reported.length)) =
      [(true, 0), (true, 1), (true, 5), (true, 10), (true, 25), (false, 0), (true, 0),
        (true, 1)] := by
  intro surroundings after
  have titled := events_do_as_titled aloof_fragile surroundings {} 0 disturbed
  exact ⟨aloof_fragile, titled.seen, by decide +kernel⟩

end Registry

end CallBench
