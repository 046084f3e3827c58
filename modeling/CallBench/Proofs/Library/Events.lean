/-
# Emissions of the events suite

The emitter of a registration has one listener, which does nothing and is not taken out by an
emission. So an emission reports one listener and leaves the emitter as it is, and any number
of emissions report as often. That the emitter is on loan meanwhile makes no difference, since
nobody else asks for it and it is given back. Whatever emits nothing leaves all emitters as
they are.
-/

import CallBench.Library.Loan
import CallBench.Proofs.Library.Registration
import CallBench.Proofs.Recording.Invariant

namespace CallBench

open Recorded

variable {ν σ α : Type} {place : Nat}

theorem runFrom_discard (action : Recorded ν σ α) (surroundings : Surroundings)
    (recording : Recording ν σ) :
    (discard action).runFrom surroundings recording =
      ((action.runFrom surroundings recording).1.map fun _ => (),
        (action.runFrom surroundings recording).2) :=
  runFrom_map action _ surroundings recording

/-- The emitter that is left is put back before the listeners are called. -/
theorem runFrom_emitAt (call : Unit → Recorded ν σ Unit) (place : Nat) (name : String)
    (surroundings : Surroundings) (recording : Recording ν σ) :
    (emitAt call place name).runFrom surroundings recording =
      ((recording.shelf.look place).emit name call).1.runFrom surroundings
        { recording with
          shelf := recording.shelf.set place ((recording.shelf.look place).detachOnce name) } := by
  rw [← Emitter.emit_snd (recording.shelf.look place) name call]
  rfl

/-- What an emission of the events suite reports. -/
def Suite.emission : Diagnostic :=
  .eventEmitted dummy 1

theorem Shelf.stands_of_prefix {shelf later : Shelf Unit} {emitter : Emitter Unit}
    (grows : shelf.emitters <+: later.emitters)
    (stands : shelf.emitters[place]? = some emitter) : later.emitters[place]? = some emitter := by
  obtain ⟨added, hadded⟩ := grows
  obtain ⟨hplace, -⟩ := List.getElem?_eq_some_iff.mp stands
  rw [← hadded, List.getElem?_append_left hplace]
  exact stands

theorem Shelf.set_of_stands {shelf : Shelf Unit} {emitter : Emitter Unit}
    (stands : shelf.emitters[place]? = some emitter) : shelf.set place emitter = shelf := by
  obtain ⟨hplace, rfl⟩ := List.getElem?_eq_some_iff.mp stands
  rw [Shelf.set, List.set_getElem_self]

/-- An emission of the events suite reports its one listener, and nothing else happens. -/
theorem runFrom_emitAt_dummy {recording : Recording ν σ}
    (stands : recording.shelf.emitters[place]? = some Suite.dummyEmitter)
    (surroundings : Surroundings) :
    (emitAt (fun _ : Unit => pure ()) place Suite.dummy : Recorded ν σ Bool).runFrom surroundings
      recording = (.ok true, recording.push (.diagnostic Suite.emission)) := by
  have hlook : recording.shelf.look place = Suite.dummyEmitter := by
    rw [Shelf.look, stands, Option.getD_some]
  have hleft : Suite.dummyEmitter.detachOnce Suite.dummy = Suite.dummyEmitter := rfl
  rw [runFrom_emitAt, hlook, hleft, Shelf.set_of_stands stands]
  rfl

/-- The recording after so many emissions of the events suite. -/
def Recording.emitted (recording : Recording ν σ) (times : Nat) : Recording ν σ :=
  (List.replicate times (.diagnostic Suite.emission)).foldl push recording

theorem Recording.shelf_emitted (recording : Recording ν σ) (times : Nat) :
    (recording.emitted times).shelf = recording.shelf := by
  induction times generalizing recording with
  | zero => rfl
  | succ times ih => exact ih _

theorem Recording.state_emitted (recording : Recording ν σ) (times : Nat) :
    (recording.emitted times).state = recording.state := by
  induction times generalizing recording with
  | zero => rfl
  | succ times ih => exact ih _

/-- Emissions do not look at what the actions keep. -/
theorem Recording.emitted_with_state (recording : Recording ν σ) (state : σ) (times : Nat) :
    ({ recording with state } : Recording ν σ).emitted times =
      { recording.emitted times with state } := by
  induction times generalizing recording with
  | zero => rfl
  | succ times ih => exact ih (recording.push (.diagnostic Suite.emission))

theorem runFrom_emitTimes_dummy {recording : Recording ν σ}
    (stands : recording.shelf.emitters[place]? = some Suite.dummyEmitter) (times : Nat)
    (surroundings : Surroundings) :
    (emitTimes place Suite.dummy times : Recorded ν σ Unit).runFrom surroundings recording =
      (.ok (), recording.emitted times) := by
  induction times generalizing recording with
  | zero => rfl
  | succ times ih =>
      rw [emitTimes, runFrom_bind, runFrom_discard, runFrom_emitAt_dummy stands]
      exact ih stands

/-- The reports of emissions. -/
theorem reportedSince_emitted (recording : Recording ν σ) (times : Nat) :
    reportedSince recording (recording.emitted times) = List.replicate times Suite.emission := by
  have hshown : (List.replicate times (Signal.diagnostic Suite.emission : Signal ν)).filterMap
      Signal.diagnostic? = List.replicate times Suite.emission :=
    List.filterMap_replicate_of_some rfl
  have hdiagnostics : (recording.emitted times).diagnostics =
      recording.diagnostics ++ List.replicate times Suite.emission := by
    rw [Recording.diagnostics, Recording.emitted, Recording.journal_foldl_push,
      List.filterMap_append, hshown, Recording.diagnostics]
  rw [reportedSince, hdiagnostics, List.drop_left]

/-- An emitter that is free is lent, and given back however the work ends. -/
theorem runFrom_lending (work : Recorded ν (Loans σ) Unit) (surroundings : Surroundings)
    {recording : Recording ν (Loans σ)} (free : place ∉ recording.state.lent) :
    (lending place work).runFrom surroundings recording =
      let (outcome, later) := work.runFrom surroundings
        { recording with state := recording.state.lend place }
      (outcome, { later with state := later.state.giveBack place }) := by
  have hupdate (change : Loans σ → Loans σ) (recording : Recording ν (Loans σ)) :
      (updateState fun loans => ((), change loans)).runFrom surroundings recording =
        (.ok (), { recording with state := change recording.state }) := rfl
  rw [lending, runFrom_bind, runFrom_getThe]
  dsimp only
  rw [if_neg free, runFrom_bind]
  simp only [runFrom_bind, hupdate, runFrom_attempt, runFrom_conclude]

section

variable (custom : α → Recorded ν σ Unit) (surroundings : Surroundings)

/-- A benchmark of the events suite returns, has reported its emissions, and has changed
nothing. -/
theorem runFrom_perform_emit {recording : Recording ν σ}
    (stands : recording.shelf.emitters[place]? = some Suite.dummyEmitter) (times : Nat) :
    (Job.perform custom (.library (.emit place Suite.dummy times))).runFrom surroundings
      recording = (.ok (), recording.emitted times) := by
  have hjob : Job.perform custom (.library (.emit place Suite.dummy times)) =
      discard (do emitTimes place Suite.dummy times; pure Answer.nothing) := rfl
  rw [hjob, runFrom_discard, runFrom_bind, runFrom_emitTimes_dummy stands]
  rfl

/-- The benchmarks of the events suite apart, the calls of the library leave the emitters as
they are. -/
theorem shelf_perform {call : LibraryCall}
    (silent : ∀ place event times, call ≠ .emit place event times) (recording : Recording ν σ) :
    ((call.perform : Recorded ν σ Answer).runFrom surroundings recording).2.shelf =
      recording.shelf := by
  obtain ⟨directory, environment, kernel, clock⟩ := surroundings
  cases call with
  | emit place event times => exact absurd rfl (silent place event times)
  | osMachine | osVersion => cases kernel <;> rfl
  | pathResolve paths => cases directory <;> rfl
  | processCwd => cases directory <;> rfl
  | osArch | osType | osTmpdir | pathParse | pathFormat | pathNormalize | pathJoin | pathDirname
  | pathBasename | pathExtname | pathIsAbsolute | processHrtime | processHrtimeBigint => rfl

end

theorem perform_library (custom : α → Recorded ν σ Unit) (call : LibraryCall) :
    Job.perform custom (.library call) = discard call.perform :=
  rfl

/-- The benchmarks of the events suite apart, nothing is lent to the calls of the library. -/
theorem performLending_of_silent (custom : α → Recorded ν (Loans σ) Unit) {call : LibraryCall}
    (silent : ∀ place event times, call ≠ .emit place event times) :
    Job.performLending custom (.library call) = Job.perform custom (.library call) := by
  cases call with
  | emit place event times => exact absurd rfl (silent place event times)
  | _ => rfl

/-- Where the emitter is free, the loan makes no difference. -/
theorem runFrom_performLending_emit (custom : α → Recorded ν (Loans σ) Unit)
    (surroundings : Surroundings) {recording : Recording ν (Loans σ)}
    (free : place ∉ recording.state.lent)
    (stands : recording.shelf.emitters[place]? = some Suite.dummyEmitter) (times : Nat) :
    (Job.performLending custom (.library (.emit place Suite.dummy times))).runFrom surroundings
      recording = (.ok (), recording.emitted times) := by
  have hjob : Job.performLending custom (.library (.emit place Suite.dummy times)) =
      lending place (emitTimes place Suite.dummy times) := rfl
  have hlent : ({ recording with state := recording.state.lend place } :
      Recording ν (Loans σ)).shelf.emitters[place]? = some Suite.dummyEmitter := stands
  have hback : (recording.state.lend place).giveBack place = (recording.emitted times).state := by
    rw [Recording.state_emitted, Loans.lend, Loans.giveBack, List.erase_cons_head]
  rw [hjob, runFrom_lending _ surroundings free, runFrom_emitTimes_dummy hlent,
    Recording.emitted_with_state]
  dsimp only
  rw [hback]

namespace Suite

/-- The benchmarks that emit are those of the events suite. They share one place. -/
theorem emit_of_mem_benchmarks {suite : Suite} {entry : Entry (Job α)}
    (hmem : entry ∈ suite.benchmarks place) {spot times : Nat} {event : String}
    (hemit : entry.action = .library (.emit spot event times)) :
    suite = .events ∧ spot = place ∧ event = dummy ∧ times ∈ emitLevels ∧
      entry.category = "events" ∧ entry.title = "emitter.emit('dummy') * " ++ toString times := by
  obtain ⟨⟨title, call⟩, hcall, rfl⟩ := List.mem_map.mp hmem
  obtain rfl : call = .emit spot event times := Job.library.inj hemit
  cases suite with
  | events =>
      obtain ⟨level, hlevel, heq⟩ := List.mem_map.mp hcall
      cases heq
      exact ⟨rfl, rfl, rfl, hlevel, rfl, rfl⟩
  | os | path | process => simp [calls] at hcall

theorem prefix_stock (suite : Suite) (shelf : Shelf Unit) :
    shelf.emitters <+: (suite.stock shelf).emitters := by
  cases suite with
  | events => exact List.prefix_append _ _
  | os | path | process => exact List.prefix_rfl

theorem prefix_foldl_stock (suites : List Suite) (shelf : Shelf Unit) :
    shelf.emitters <+: (suites.foldl stock shelf).emitters := by
  induction suites generalizing shelf with
  | nil => exact List.prefix_rfl
  | cons suite suites ih => exact (prefix_stock suite shelf).trans (ih _)

/-- The events suite finds its emitter in the place that was free before. -/
theorem stands_foldl_stock {suites : List Suite} (hevents : .events ∈ suites)
    (shelf : Shelf Unit) :
    (suites.foldl stock shelf).emitters[shelf.emitters.length]? = some dummyEmitter := by
  induction suites generalizing shelf with
  | nil => exact nomatch hevents
  | cons suite suites ih =>
      cases suite with
      | events =>
          apply Shelf.stands_of_prefix (prefix_foldl_stock suites _)
          exact List.getElem?_concat_length
      | os | path | process => exact ih (List.mem_of_ne_of_mem (by decide) hevents) shelf

end Suite

end CallBench
