/-
# The benchmarks of the suites

A call of the library returns, whatever has been recorded, unless it asks the host and the
host refuses. Where the kernel answers, only the current directory is left to be refused, and
two calls read it: the reading of it and the resolution of a path. A reader knows a benchmark
by its title, so what is said of the call is said of the title too, and the benchmarks that a
list of names asks for are known before anything is registered.
-/

import CallBench.Proofs.Library.Registration
import CallBench.Proofs.Recording.Invariant

namespace CallBench

namespace Recorded

variable {ν σ α β : Type}

/-- An action that returns from every recording. -/
def Returns (surroundings : Surroundings) (action : Recorded ν σ α) : Prop :=
  ∀ recording, ∃ value, (action.runFrom surroundings recording).1 = .ok value

variable {surroundings : Surroundings}

theorem Returns.pure (value : α) :
    Returns surroundings (Pure.pure value : Recorded ν σ α) :=
  fun _ => ⟨value, rfl⟩

theorem Returns.bind {action : Recorded ν σ α} (returns : Returns surroundings action)
    {next : α → Recorded ν σ β} (rest : ∀ value, Returns surroundings (next value)) :
    Returns surroundings (action >>= next) := by
  intro recording
  obtain ⟨value, hvalue⟩ := returns recording
  rw [runFrom_bind_of_ok hvalue]
  exact rest value _

theorem Returns.map {action : Recorded ν σ α} (returns : Returns surroundings action)
    (change : α → β) : Returns surroundings (change <$> action) := by
  rw [← bind_pure_comp]
  exact returns.bind fun _ => Returns.pure _

theorem Returns.forM {ι : Type} {act : ι → Recorded ν σ Unit}
    (each : ∀ item, Returns surroundings (act item)) (items : List ι) :
    Returns surroundings (items.forM act) := by
  induction items with
  | nil => exact Returns.pure ()
  | cons item items ih => exact (each item).bind fun _ => ih

/-- An emission returns if the calls of its listeners do. -/
theorem returns_emitAt {call : Unit → Recorded ν σ Unit}
    (calls : ∀ callback, Returns surroundings (call callback)) (place : Nat) (event : String) :
    Returns surroundings (emitAt call place event) := by
  have hget : Returns surroundings (getThe (Shelf Unit) : Recorded ν σ _) :=
    fun recording => ⟨recording.shelf, rfl⟩
  have hset (shelf : Shelf Unit) : Returns surroundings (set shelf : Recorded ν σ PUnit) :=
    fun _ => ⟨(), rfl⟩
  have hreport (diagnostic : Diagnostic) :
      Returns surroundings (report diagnostic : Recorded ν σ Unit) := fun _ => ⟨(), rfl⟩
  apply hget.bind
  intro shelf
  apply (hset _).bind
  intro _
  show Returns surroundings ((shelf.look place).emit event call).1
  rw [Emitter.emit]
  split
  · exact Returns.pure _
  · exact (hreport _).bind fun _ => (Returns.forM (fun _ => calls _) _).bind fun _ =>
      Returns.pure _

theorem returns_emitTimes (place : Nat) (event : String) (times : Nat) :
    Returns surroundings (emitTimes place event times : Recorded ν σ Unit) := by
  induction times with
  | zero => exact Returns.pure _
  | succ times ih =>
      have hemit : Returns surroundings
          (emitAt (fun _ => Pure.pure ()) place event : Recorded ν σ Bool) :=
        returns_emitAt (fun _ => Returns.pure ()) place event
      exact (hemit.map _).bind fun _ => ih

end Recorded

/-- How something ends that reads the current directory in a context, or does not. -/
def directoryOutcome (directory : Except SystemError Bytes) : Option String → Except Stop Unit
  | none => .ok ()
  | some context =>
      match directory with
      | .ok _ => .ok ()
      | .error error => .error (.failed ⟨.system error, [context]⟩)

theorem directoryOutcome_of_ok {directory : Except SystemError Bytes} {bytes : Bytes}
    (readable : directory = .ok bytes) (context? : Option String) :
    directoryOutcome directory context? = .ok () := by
  subst readable
  cases context? <;> rfl

namespace LibraryCall

open Recorded

variable {ν σ : Type}

/-- The context in which a call reads the current directory, if it does. -/
def directoryContext? : LibraryCall → Option String
  | .processCwd => some "read current directory"
  | .pathResolve _ => some "resolve: read current directory"
  | _ => none

/-- How a call ends where the kernel answers. Only what it asks of the current directory can
be refused. -/
theorem outcome_perform {surroundings : Surroundings} {kernel : Kernel}
    (answers : surroundings.kernel = .ok kernel) (call : LibraryCall)
    (recording : Recording ν σ) :
    ((discard call.perform : Recorded ν σ Unit).runFrom surroundings recording).1 =
      directoryOutcome surroundings.directory call.directoryContext? := by
  obtain ⟨directory, environment, _, clock⟩ := surroundings
  subst answers
  cases call with
  | emit place event times =>
      have returns (surroundings : Surroundings) : Returns surroundings
          (discard (LibraryCall.emit place event times).perform : Recorded ν σ Unit) :=
        ((returns_emitTimes place event times).bind fun _ => Returns.pure _).map _
      obtain ⟨value, hvalue⟩ := returns _ recording
      exact hvalue
  | pathResolve paths => cases directory <;> rfl
  | processCwd => cases directory <;> rfl
  | osArch | osMachine | osType | osVersion | osTmpdir | pathParse | pathFormat
  | pathNormalize | pathJoin | pathDirname | pathBasename | pathExtname | pathIsAbsolute
  | processHrtime | processHrtimeBigint => rfl

/-- A call writes no line. -/
theorem adds_perform {surroundings : Surroundings} {kernel : Kernel}
    (answers : surroundings.kernel = .ok kernel) (call : LibraryCall)
    (recording : Recording ν σ) :
    Adds Signal.line? (discard call.perform : Recorded ν σ Unit) surroundings recording
      (directoryOutcome surroundings.directory call.directoryContext?) [] := by
  have hkept (shown : List String) :
      Keeps (fun recording : Recording ν σ =>
        recording.journal.toList.filterMap Signal.line? = shown) (discard call.perform) :=
    ((inward_view (fun _ => rfl) shown).keeps_perform call).map _
  rw [← outcome_perform answers call recording]
  exact Keeps.adds hkept surroundings recording

end LibraryCall

namespace Suite

variable {α : Type}

/-- Category and title of the benchmarks of a suite. -/
def titles (suite : Suite) : List (String × String) :=
  (suite.calls 0).map fun (title, _) => (suite.name, title)

/-- The context in which the benchmark of a title reads the current directory, if it does. -/
def directoryContext? (title : String) : Option String :=
  if title = "process.cwd()" then some "read current directory"
  else if title = "path.resolve('usr/bin/yaso', '../hyperfine', '../../lib/rustlib')" then
    some "resolve: read current directory"
  else none

theorem titles_benchmarks (suite : Suite) (place : Nat) :
    (suite.benchmarks place : List (Entry (Job α))).map
      (fun entry => (entry.category, entry.title)) = suite.titles := by
  cases suite <;> simp [benchmarks, titles, calls]

/-- What a title says of the current directory is true of its call. -/
theorem directoryContext?_of_mem_calls {suite : Suite} {place : Nat} {title : String}
    {call : LibraryCall} (hmem : (title, call) ∈ suite.calls place) :
    directoryContext? title = call.directoryContext? := by
  have hclosed : ∀ suite ∈ [Suite.os, .path, .process], ∀ pair ∈ suite.calls 0,
      directoryContext? pair.1 = pair.2.directoryContext? := by decide
  cases suite with
  | events =>
      have hlevels : ∀ level ∈ emitLevels,
          directoryContext? ("emitter.emit('dummy') * " ++ toString level) = none := by decide
      obtain ⟨level, hlevel, heq⟩ := List.mem_map.mp hmem
      obtain ⟨rfl, rfl⟩ := Prod.mk.inj heq
      exact hlevels level hlevel
  | os => exact hclosed .os (by decide) _ hmem
  | path => exact hclosed .path (by decide) _ hmem
  | process => exact hclosed .process (by decide) _ hmem

/-- A benchmark of a suite makes a call of the library. -/
theorem exists_call_of_mem_benchmarks {suite : Suite} {place : Nat} {entry : Entry (Job α)}
    (hmem : entry ∈ suite.benchmarks place) :
    ∃ call, entry.action = .library call ∧
      directoryContext? entry.title = call.directoryContext? := by
  obtain ⟨⟨title, call⟩, hcall, rfl⟩ := List.mem_map.mp hmem
  exact ⟨call, rfl, directoryContext?_of_mem_calls hcall⟩

/-- The suites that a list of names asks for. -/
def requested (texts : List String) : List Suite :=
  if texts = [] then all else texts.eraseDups.filterMap ofName?

/-- Category and title of the benchmarks that a list of names asks for. -/
def listed (texts : List String) : List (String × String) :=
  (requested texts).flatMap titles

theorem requested_of_map_name {texts : List String} (hnames : texts ≠ []) {suites : List Suite}
    (hsuites : suites.map name = texts.eraseDups) : requested texts = suites := by
  have hname : ofName? ∘ name = some := funext fun _ => ofName?_eq_some_iff.mpr rfl
  rw [requested, if_neg hnames, ← hsuites, List.filterMap_map, hname, List.filterMap_some]

theorem titles_requested (texts : List String) (place : Nat) :
    (⟨(requested texts).flatMap (benchmarks place)⟩ : Registry (Job α)).titles =
      listed texts := by
  rw [Registry.titles, listed, List.map_flatMap]
  exact List.flatMap_congr fun suite _ => titles_benchmarks suite place

variable {ν σ : Type}

theorem filterMap_line?_announcements (before : Nat) (suites : List Suite) :
    (announcements before suites : List (Signal ν)).filterMap Signal.line? = [] := by
  rw [List.filterMap_eq_nil_iff]
  intro signal hmem
  obtain ⟨index, hindex, rfl⟩ := List.mem_mapIdx.mp hmem
  rfl

/-- Registering the suites that are asked for writes no line. -/
theorem adds_registryOf {texts : List String} (known : ∀ text ∈ texts, text ∈ names)
    (surroundings : Surroundings) (recording : Recording ν σ) :
    ∃ place, Recorded.Adds Signal.line? (registryOf texts : Recorded ν σ (Registry (Job α)))
      surroundings recording (.ok ⟨(requested texts).flatMap (benchmarks place)⟩) [] := by
  by_cases hnames : texts = []
  · subst hnames
    have hrun : (registryOf [] : Recorded ν σ (Registry (Job α))).runFrom surroundings
        recording = _ := runFrom_registerAll {} surroundings recording
    exact ⟨_, by rw [hrun]; rfl, by rw [hrun, List.append_nil]⟩
  · obtain ⟨suites, hsuites⟩ := exists_suites fun text hmem =>
      known text (List.mem_eraseDups.mp hmem)
    have hrun := runFrom_registryOf (α := α) hnames hsuites surroundings recording
    refine ⟨_, by rw [hrun, requested_of_map_name hnames hsuites], ?_⟩
    rw [hrun, journal_announced, List.filterMap_append, filterMap_line?_announcements]

/-- A name that no suite has is refused before any line is written. -/
theorem adds_registryOf_of_unknown {before after : List String} {unknown : String}
    (known : ∀ text ∈ before, text ∈ names) (hunknown : unknown ∉ names)
    (surroundings : Surroundings) (recording : Recording ν σ) :
    Recorded.Adds Signal.line?
      (registryOf (before ++ unknown :: after) : Recorded ν σ (Registry (Job α)))
      surroundings recording (.error (.ofCause (.unknownSuite unknown names))) [] := by
  obtain ⟨suites, hsuites⟩ := exists_suites fun text hmem =>
    known text (List.mem_eraseDups.mp hmem)
  have hrun : (registryOf (before ++ unknown :: after) :
      Recorded ν σ (Registry (Job α))).runFrom surroundings recording = _ :=
    runFrom_registryOf_of_unknown hunknown hsuites surroundings recording
  refine ⟨by rw [hrun], ?_⟩
  rw [hrun, journal_announced, List.filterMap_append, filterMap_line?_announcements]

end Suite

end CallBench
