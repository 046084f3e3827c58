/-
# Suites

A suite registers the calls of one part of the library. Titles are written the way
a call looks in a script. The calls of the events suite share one emitter with a
single listener that does nothing; every registration of the suite has an emitter
of its own.
-/

import CallBench.Library.Call
import CallBench.Registry.InPlace

namespace CallBench

/-- What a benchmark does: a call of the library, or something of the caller's own. -/
inductive Job (α : Type) where
  | library (call : LibraryCall)
  | custom (action : α)

/-- A part of the library whose calls can be timed. -/
inductive Suite where
  | events
  | os
  | path
  | process
  deriving DecidableEq

namespace Suite

/-- All suites, in the order they are listed. -/
def all : List Suite :=
  [.events, .os, .path, .process]

/-- The name of a suite, which is also the category of its benchmarks. -/
def name : Suite → String
  | .events => "events"
  | .os => "os"
  | .path => "path"
  | .process => "process"

/-- The names of all suites. -/
def names : List String :=
  all.map name

/-- The suite of a name. -/
def ofName? (text : String) : Option Suite :=
  all.find? (·.name = text)

/-- How often the benchmarks of the events suite emit their event. -/
def emitLevels : List Nat :=
  [1, 5, 10, 25, 50, 100, 250, 500, 1000]

/-- The event of the events suite. -/
def dummy : String :=
  "dummy"

/-- The emitter that the benchmarks of one registration share. -/
def dummyEmitter : Emitter Unit :=
  ((({} : Emitter Unit).on dummy ()).2)

/-- The parts of the path that is put together in the path suite. -/
def sampleParts : Path.Parts String :=
  { root := "/", dir := "/usr/bin", base := "yaso", ext := "", name := "yaso" }

/-- The titles and calls of a suite. `place` is where the emitter of this
registration stands. -/
def calls (place : Nat) : Suite → List (String × LibraryCall)
  | .events =>
      emitLevels.map fun level =>
        ("emitter.emit('dummy') * " ++ toString level, .emit place dummy level)
  | .os =>
      [("os.arch()", .osArch),
        ("os.machine()", .osMachine),
        ("os.type()", .osType),
        ("os.version()", .osVersion),
        ("os.tmpdir()", .osTmpdir)]
  | .path =>
      [("path.parse('/usr/bin/yaso')", .pathParse "/usr/bin/yaso"),
        ("path.format(\x7b root: '/', dir: '/usr/bin', base: 'yaso', ext: '', name: 'yaso', \x7d)",
          .pathFormat sampleParts),
        ("path.normalize('.//./../...//path/benchmarks.mjs')",
          .pathNormalize ".//./../...//path/benchmarks.mjs"),
        ("path.resolve('usr/bin/yaso', '../hyperfine', '../../lib/rustlib')",
          .pathResolve ["usr/bin/yaso", "../hyperfine", "../../lib/rustlib"]),
        ("path.join('/usr/bin/yaso', '../hyperfine', '../../lib/rustlib')",
          .pathJoin ["/usr/bin/yaso", "../hyperfine", "../../lib/rustlib"]),
        ("path.dirname('../path/benchmarks.mjs')", .pathDirname "../path/benchmarks.mjs"),
        ("path.basename('../path/benchmarks.mjs')", .pathBasename "../path/benchmarks.mjs"),
        ("path.extname('../path/benchmarks.mjs')", .pathExtname "../path/benchmarks.mjs"),
        ("path.isAbsolute('/usr/bin/yaso')", .pathIsAbsolute "/usr/bin/yaso")]
  | .process =>
      [("process.cwd()", .processCwd),
        ("process.hrtime()", .processHrtime),
        ("process.hrtime.bigint()", .processHrtimeBigint)]

variable {α : Type}

/-- Adds the calls of a suite to a registry. -/
def addTo (suite : Suite) (place : Nat) (registry : Registry (Job α)) : Registry (Job α) :=
  (suite.calls place).foldl
    (fun registry (title, call) => registry.register suite.name title (.library call)) registry

variable {m : Type → Type} [Monad m] [MonadStateOf (Shelf Unit) m]

/-- The place of an emitter for one registration of a suite. Only the events suite
needs one. -/
def reserve : Suite → m Nat
  | .events => modifyGetThe (Shelf Unit) fun shelf => shelf.add dummyEmitter
  | _ => pure 0

/-- Registers a suite. -/
def register (suite : Suite) (registry : Registry (Job α)) : m (Registry (Job α)) := do
  let place ← suite.reserve
  pure (suite.addTo place registry)

/-- Registers all suites, in the order they are listed. -/
def registerAll (registry : Registry (Job α)) : m (Registry (Job α)) :=
  all.foldlM (fun registry suite => suite.register registry) registry

variable [MonadDiagnostics m] [MonadExceptOf Stop m]

/-- Registers the suite of a name in place. -/
def enroll (name : String) : Registry.InPlace (Job α) m Unit :=
  match ofName? name with
  | none => throw (.ofCause (.unknownSuite name names))
  | some suite => do
      Registry.InPlace.update suite.register
      let registry ← getThe (Registry (Job α))
      report (.suiteRegistered name registry.size)

/-- Registers the suite of a name in a registry of one's own. -/
def registerNamed (name : String) (registry : Registry (Job α)) : m (Registry (Job α)) :=
  (enroll name).orDrop registry

/-- Registers the suites of some names in order, except those in `seen` and
those that have come before. -/
def registerEach (seen : List String) (registry : Registry (Job α)) :
    List String → m (Registry (Job α))
  | [] => pure registry
  | name :: rest =>
      if name ∈ seen then registerEach seen registry rest
      else do
        let registry ← registerNamed name registry
        registerEach (seen ++ [name]) registry rest

/-- The registry for a list of suite names: each suite once, in the order in which it
is first named. No names stand for all suites. -/
def registryOf (names : List String) : m (Registry (Job α)) :=
  if names = [] then registerAll {} else registerEach [] {} names

end Suite

variable {m : Type → Type} [Monad m] [MonadClock m] [MonadDiagnostics m] [MonadHost m]
  [MonadExceptOf Stop m] [MonadStateOf (Shelf Unit) m] {α : Type}

/-- Performs the job of a benchmark and drops the answer. -/
def Job.perform (custom : α → m Unit) : Job α → m Unit
  | .library call => discard call.perform
  | .custom action => custom action

end CallBench
