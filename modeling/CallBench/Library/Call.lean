/-
# Library calls

The calls that can be timed. A call is data, and performing it gives what the
library answers. Calls that ask the host can fail; calls that emit events share
emitters with other calls.
-/

import CallBench.Clock.Reading
import CallBench.Emitter.Shelf
import CallBench.Path
import CallBench.Text.Utf8

namespace CallBench

/-- A call of the library. -/
inductive LibraryCall where
  /-- Emits an event so many times, at the emitter in a place of the shelf. -/
  | emit (place : Nat) (event : String) (times : Nat)
  | osArch
  | osMachine
  | osType
  | osVersion
  | osTmpdir
  | pathParse (path : String)
  | pathFormat (parts : Path.Parts String)
  | pathNormalize (path : String)
  | pathResolve (paths : List String)
  | pathJoin (paths : List String)
  | pathDirname (path : String)
  | pathBasename (path : String)
  | pathExtname (path : String)
  | pathIsAbsolute (path : String)
  | processCwd
  | processHrtime
  | processHrtimeBigint
  deriving DecidableEq

/-- What a call gives. -/
inductive Answer where
  | nothing
  | text (value : String)
  | flag (value : Bool)
  | parts (value : Path.Parts String)
  | reading (value : Reading)
  | nanos (value : Nat)
  deriving DecidableEq

namespace OS

/-- What the library is built for. -/
structure Target where
  architecture : String
  system : String

namespace Target

/-- The name by which scripts know the processor architecture. -/
def arch (target : Target) : String :=
  match target.architecture with
  | "x86_64" => "x64"
  | "x86" => "ia32"
  | "aarch64" => "arm64"
  | "powerpc64" => "ppc64"
  | "loongarch64" => "loong64"
  | other => other

/-- The name by which scripts know the platform. -/
def platform (target : Target) : String :=
  match target.system with
  | "macos" => "darwin"
  | "windows" => "win32"
  | other => other

/-- The name that the operating system has for itself. -/
def type (target : Target) : String :=
  match target.system with
  | "linux" | "android" => "Linux"
  | "macos" | "ios" => "Darwin"
  | "windows" => "Windows_NT"
  | "freebsd" => "FreeBSD"
  | "openbsd" => "OpenBSD"
  | "netbsd" => "NetBSD"
  | other => other

end Target

/-- The target of this build. -/
def target : Target :=
  ⟨"x86_64", "linux"⟩

/-- The processor architecture. -/
def arch : String :=
  target.arch

/-- The platform. -/
def platform : String :=
  target.platform

/-- The name of the operating system. -/
def type : String :=
  target.type

/-- A path without the separators at its end; a path of separators only stays as
it is. -/
def trimSeparators (path : String) : String :=
  let trimmed := path.toList.take (Path.trimmedLength path.toList)
  if trimmed = [] then path else .ofList trimmed

/-- The directory for temporary files, given the setting for it. -/
def tmpdirOf (setting : Option Bytes) : String :=
  match setting with
  | some bytes => trimSeparators (Text.decodeLossy bytes)
  | none => trimSeparators "/tmp"

section

variable {m : Type → Type} [Monad m] [MonadHost m]

/-- The directory for temporary files. -/
def tmpdir : m String := do
  pure (tmpdirOf (← MonadHost.environment "TMPDIR"))

variable [MonadExceptOf Stop m]

/-- The running kernel. -/
def kernel : m Kernel := do
  orFail "uname" (← MonadHost.kernel)

/-- The machine type. -/
def machine : m String := do
  pure (Text.decodeLossy (← kernel).machine)

/-- The version of the kernel. -/
def version [MonadDiagnostics m] : m String := do
  let version := Text.decodeLossy (← kernel).version
  report (.kernelRead version)
  pure version

end

end OS

namespace CurrentProcess

variable {m : Type → Type} [Monad m] [MonadDiagnostics m]

/-- Makes sure that the clock has its reference instant. -/
def startClock : m Unit :=
  report .clockStarted

/-- The current directory. -/
def cwd [MonadHost m] [MonadExceptOf Stop m] : m String := do
  let bytes ← orFail "read current directory" (← MonadHost.currentDirectory)
  let dir := Text.decodeLossy bytes
  report (.directoryRead dir)
  pure dir

/-- The time since the reference instant. -/
def hrtime [MonadClock m] : m Reading := do
  pure (.ofDuration (← now))

/-- The nanoseconds since the reference instant. -/
def hrtimeNanos [MonadClock m] : m Nat := do
  pure (← now).toNanos

end CurrentProcess

namespace Path

/-- Where a list of paths leads from the current directory. The directory is read
even when an absolute path makes it irrelevant. -/
def resolve {m : Type → Type} [Monad m] [MonadDiagnostics m] [MonadHost m] [MonadExceptOf Stop m]
    (paths : List String) : m String := do
  let bytes ← orFail "resolve: read current directory" (← MonadHost.currentDirectory)
  let resolved := resolveFrom (Text.decodeLossy bytes) paths
  report (.pathResolved resolved)
  pure resolved

end Path

section

variable {m : Type → Type} [Monad m] [MonadDiagnostics m] [MonadStateOf (Shelf Unit) m]

/-- Emits an event so many times to listeners that do nothing. -/
def emitTimes (place : Nat) (event : String) : Nat → m Unit
  | 0 => pure ()
  | times + 1 => do
      discard (emitAt (fun (_ : Unit) => pure ()) place event)
      emitTimes place event times

variable [MonadClock m] [MonadHost m] [MonadExceptOf Stop m]

/-- Performs a call. -/
@[noinline]
def LibraryCall.perform : LibraryCall → m Answer
  | .emit place event times => do
      emitTimes place event times
      pure .nothing
  | .osArch => pure (.text OS.arch)
  | .osMachine => .text <$> OS.machine
  | .osType => pure (.text OS.type)
  | .osVersion => .text <$> OS.version
  | .osTmpdir => .text <$> OS.tmpdir
  | .pathParse path => pure (.parts (Path.parse path))
  | .pathFormat parts => pure (.text (Path.format parts))
  | .pathNormalize path => pure (.text (Path.normalize path))
  | .pathResolve paths => .text <$> Path.resolve paths
  | .pathJoin paths => pure (.text (Path.join paths))
  | .pathDirname path => pure (.text (Path.dirname path))
  | .pathBasename path => pure (.text (Path.basename path none))
  | .pathExtname path => pure (.text (Path.extname path))
  | .pathIsAbsolute path => pure (.flag (Path.absolute path))
  | .processCwd => .text <$> CurrentProcess.cwd
  | .processHrtime => .reading <$> CurrentProcess.hrtime
  | .processHrtimeBigint => .nanos <$> CurrentProcess.hrtimeNanos

end

end CallBench
