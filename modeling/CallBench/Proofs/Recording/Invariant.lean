/-
# What a run keeps

An action can do many things to a recording and still leave a part of it alone. `Keeps` says
that a property of recordings is not lost, however the action ends, and goes through the
parts of a run. A property that looks neither at the diagnostics nor at the clock nor at the
shelf is kept by every call of the library: a call writes no line, notes nothing, and does
not touch what actions keep.
-/

import CallBench.Library.Suite
import CallBench.Proofs.Recording.Journal

namespace CallBench.Recorded

variable {ν σ α β κ : Type}

/-- A property of recordings that an action does not lose, however it ends. -/
def Keeps (property : Recording ν σ → Prop) (action : Recorded ν σ α) : Prop :=
  ∀ surroundings recording, property recording →
    property (action.runFrom surroundings recording).2

variable {property : Recording ν σ → Prop}

theorem Keeps.pure (value : α) : Keeps property (Pure.pure value : Recorded ν σ α) :=
  fun _ _ holds => holds

theorem Keeps.throw (stop : Stop) : Keeps property (throw stop : Recorded ν σ α) :=
  fun _ _ holds => holds

theorem Keeps.bind {action : Recorded ν σ α} (kept : Keeps property action)
    {next : α → Recorded ν σ β} (rest : ∀ value, Keeps property (next value)) :
    Keeps property (action >>= next) := by
  intro surroundings recording holds
  have hfirst := kept surroundings recording holds
  cases houtcome : (action.runFrom surroundings recording).1 with
  | error stop =>
      rw [runFrom_bind_of_error houtcome]
      exact hfirst
  | ok value =>
      rw [runFrom_bind_of_ok houtcome]
      exact rest value surroundings _ hfirst

theorem Keeps.map {action : Recorded ν σ α} (kept : Keeps property action) (change : α → β) :
    Keeps property (change <$> action) := by
  rw [← bind_pure_comp]
  exact kept.bind fun _ => Keeps.pure _

theorem Keeps.forM {ι : Type} {act : ι → Recorded ν σ Unit}
    (each : ∀ item, Keeps property (act item)) (items : List ι) :
    Keeps property (items.forM act) := by
  induction items with
  | nil => exact Keeps.pure ()
  | cons item items ih => exact (each item).bind fun _ => ih

/-- What an action keeps of a view is nothing added to it. -/
theorem Keeps.adds {view : Signal ν → Option κ} {action : Recorded ν σ α}
    (kept : ∀ shown,
      Keeps (fun recording => recording.journal.toList.filterMap view = shown) action)
    (surroundings : Surroundings) (recording : Recording ν σ) :
    Adds view action surroundings recording (action.runFrom surroundings recording).1 [] :=
  ⟨rfl, by rw [kept _ surroundings recording rfl, List.append_nil]⟩

/-- An action that adds to a view may be followed by one that does not. -/
theorem Adds.bind_keeps {view : Signal ν → Option κ} {action : Recorded ν σ α}
    {surroundings : Surroundings} {recording : Recording ν σ} {outcome : Except Stop α}
    {added : List κ} (adds : Adds view action surroundings recording outcome added)
    {next : α → Recorded ν σ β}
    (kept : ∀ value shown,
      Keeps (fun recording => recording.journal.toList.filterMap view = shown) (next value)) :
    ∃ ending, Adds view (action >>= next) surroundings recording ending added := by
  cases outcome with
  | error stop => exact ⟨_, adds.bind_error next⟩
  | ok value =>
      have hnext := Keeps.adds (kept value) surroundings (action.runFrom surroundings recording).2
      exact ⟨_, by simpa using adds.bind hnext⟩

/-- A property of recordings that looks neither at the diagnostics nor at the clock nor at
the shelf. -/
structure Inward (property : Recording ν σ → Prop) : Prop where
  push {recording : Recording ν σ} (diagnostic : Diagnostic) :
    property recording → property (recording.push (.diagnostic diagnostic))
  reread {recording : Recording ν σ} (readings : Nat) :
    property recording → property { recording with readings }
  reshelve {recording : Recording ν σ} (shelf : Shelf Unit) :
    property recording → property { recording with shelf }

theorem inward_state (kept : σ) : Inward fun recording : Recording ν σ => recording.state = kept :=
  ⟨fun _ => id, fun _ => id, fun _ => id⟩

/-- A view that does not show diagnostics. -/
theorem inward_view {view : Signal ν → Option κ}
    (hidden : ∀ diagnostic, view (.diagnostic diagnostic) = none) (shown : List κ) :
    Inward fun recording : Recording ν σ => recording.journal.toList.filterMap view = shown := by
  refine ⟨fun diagnostic holds => ?_, fun _ => id, fun _ => id⟩
  rw [Recording.push, Array.toList_push, List.filterMap_append, holds]
  simp [hidden]

/-- Asking the surroundings changes nothing. -/
theorem keeps_of_asks {question : Recorded ν σ α}
    (asks : ∀ surroundings recording,
      (question.runFrom surroundings recording).2 = recording) : Keeps property question := by
  intro surroundings recording holds
  rwa [asks]

theorem keeps_orFail (context : String) (answer : Except SystemError α) :
    Keeps property (orFail context answer : Recorded ν σ α) := by
  cases answer with
  | ok value => exact Keeps.pure value
  | error error => exact Keeps.throw _

theorem keeps_ofResult (result : Except Failure α) :
    Keeps property (ofResult result : Recorded ν σ α) := by
  cases result with
  | ok value => exact Keeps.pure value
  | error failure => exact Keeps.throw _

namespace Inward

variable (inward : Inward property)

include inward

theorem keeps_report (diagnostic : Diagnostic) :
    Keeps property (report diagnostic : Recorded ν σ Unit) :=
  fun _ _ => inward.push diagnostic

theorem keeps_now : Keeps property (now : Recorded ν σ Duration) :=
  fun _ _ => inward.reread _

/-- An emission keeps what the calls of its listeners keep. -/
theorem keeps_emitAt {call : Unit → Recorded ν σ Unit}
    (calls : ∀ callback, Keeps property (call callback)) (place : Nat) (event : String) :
    Keeps property (emitAt call place event) := by
  have hget : Keeps property (getThe (Shelf Unit) : Recorded ν σ _) :=
    keeps_of_asks fun _ _ => rfl
  have hset (shelf : Shelf Unit) : Keeps property (set shelf : Recorded ν σ PUnit) :=
    fun _ _ => inward.reshelve shelf
  apply hget.bind
  intro shelf
  apply (hset _).bind
  intro _
  show Keeps property ((shelf.look place).emit event call).1
  rw [Emitter.emit]
  split
  · exact Keeps.pure _
  · exact (inward.keeps_report _).bind fun _ =>
      (Keeps.forM (fun _ => calls _) _).bind fun _ => Keeps.pure _

theorem keeps_emitTimes (place : Nat) (event : String) (times : Nat) :
    Keeps property (emitTimes place event times : Recorded ν σ Unit) := by
  induction times with
  | zero => exact Keeps.pure _
  | succ times ih =>
      have hemit := inward.keeps_emitAt (fun _ => Keeps.pure ()) place event
      exact (hemit.map _).bind fun _ => ih

theorem keeps_perform (call : LibraryCall) :
    Keeps property (call.perform : Recorded ν σ Answer) := by
  have hkernel : Keeps property (OS.kernel : Recorded ν σ Kernel) :=
    (keeps_of_asks fun _ _ => rfl).bind fun _ => keeps_orFail _ _
  have hdirectory (context : String) (next : Bytes → Recorded ν σ String)
      (hnext : ∀ bytes, Keeps property (next bytes)) :
      Keeps property (do next (← orFail context (← MonadHost.currentDirectory))) :=
    (keeps_of_asks fun _ _ => rfl).bind fun _ => (keeps_orFail _ _).bind hnext
  cases call with
  | emit place event times => exact (inward.keeps_emitTimes _ _ _).bind fun _ => Keeps.pure _
  | osMachine => exact (hkernel.bind fun _ => Keeps.pure _).map _
  | osVersion =>
      exact (hkernel.bind fun _ => (inward.keeps_report _).bind fun _ => Keeps.pure _).map _
  | osTmpdir => exact ((keeps_of_asks fun _ _ => rfl).bind fun _ => Keeps.pure _).map _
  | pathResolve paths =>
      exact (hdirectory _ _ fun _ => (inward.keeps_report _).bind fun _ => Keeps.pure _).map _
  | processCwd =>
      exact (hdirectory _ _ fun _ => (inward.keeps_report _).bind fun _ => Keeps.pure _).map _
  | processHrtime => exact (inward.keeps_now.bind fun _ => Keeps.pure _).map _
  | processHrtimeBigint => exact (inward.keeps_now.bind fun _ => Keeps.pure _).map _
  | osArch | osType | pathParse | pathFormat | pathNormalize | pathJoin | pathDirname
  | pathBasename | pathExtname | pathIsAbsolute => exact Keeps.pure _

end Inward

end CallBench.Recorded
