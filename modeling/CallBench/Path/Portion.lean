/-
# Where a path is cut

Directory, last portion and extension are found by reading a path from its end.
Each reader answers with offsets into the path, so that the same cut can be made
in the characters and in the bytes of a path.
-/

import CallBench.Path.Unit

namespace CallBench.Path

variable {u : Type} [DecidableEq u] [PathUnit u]

/-- The units of a path with their offsets, from the last to the first. -/
def backwards (path : List u) : List (u × Nat) :=
  path.zipIdx.reverse

/-- The length of a path without the separators at its end. -/
def trimmedLength (path : List u) : Nat :=
  (path.reverse.dropWhile (· = separator)).length

/-- The offset of the last separator. -/
def lastSeparator? (path : List u) : Option Nat :=
  ((backwards path).find? (·.1 = separator)).map (·.2)

/-- Reads backwards for the separator before the last portion. `inPortion` says that
a unit of the portion was read just before. -/
def findParent : (inPortion : Bool) → List (u × Nat) → Option Nat
  | _, [] => none
  | inPortion, (unit, offset) :: rest =>
      if unit = separator then
        if inPortion then some offset else findParent inPortion rest
      else findParent true rest

/-- Where the directory of a path ends; `none` when the path names no directory.
The separator of the root belongs to the directory, and so do two separators
before a single portion. -/
def directoryEnd? : List u → Option Nat
  | [] => none
  | first :: rest =>
      let rooted := first = separator
      match findParent false (backwards (first :: rest)).dropLast with
      | none => if rooted then some 1 else none
      | some 1 => if rooted then some 2 else some 1
      | some offset => some offset

/-- The directory of a path: the single dot when it names none. -/
def directory (path : List u) : List u :=
  match directoryEnd? path with
  | none => [dot]
  | some finish => path.take finish

/-- Where the last portion starts and ends. Separators at the end are no part of it. -/
def portionSpan (path : List u) : Nat × Nat :=
  let finish := trimmedLength path
  match lastSeparator? (path.take finish) with
  | some offset => (offset + 1, finish)
  | none => (0, finish)

/-- The units from one offset up to another. -/
def slice (path : List u) (span : Nat × Nat) : List u :=
  (path.take span.2).drop span.1

/-- The last portion of a path. -/
def portion (path : List u) : List u :=
  slice path (portionSpan path)

/-- A portion without a suffix that it ends in. -/
def withoutSuffix (portion suffix : List u) : List u :=
  if suffix.isSuffixOf portion then portion.take (portion.length - suffix.length) else portion

/-- The last portion of a path without a suffix, unless the suffix is all of the
portion. A suffix that equals the whole path leaves nothing. -/
def portionWithout (path suffix : List u) : List u :=
  if suffix ≠ [] ∧ suffix = path then []
  else
    let portion := portion path
    if suffix ≠ [] ∧ portion ≠ suffix then withoutSuffix portion suffix else portion

/-- What the part of the last portion before its last dot starts with, as far as it
has been read. -/
inductive BeforeDot where
  | nothing
  | dot
  | other
  deriving DecidableEq

/-- What has been found while reading a path backwards. -/
structure ExtensionScan where
  /-- Where the last portion ends. -/
  finish : Option Nat := none
  /-- Its last dot. -/
  lastDot : Option Nat := none
  /-- What stands before that dot. -/
  before : BeforeDot := .nothing
  /-- Where the last portion starts. -/
  start : Nat := 0

/-- Takes in a unit of the last portion. -/
def ExtensionScan.read (scan : ExtensionScan) (unit : u) (offset : Nat) : ExtensionScan :=
  let scan := { scan with finish := scan.finish.getD (offset + 1) }
  match scan.lastDot with
  | none => if unit = dot then { scan with lastDot := some offset } else scan
  | some _ => { scan with before := if unit = dot then .dot else .other }

/-- Reads backwards through the last portion. -/
def scanExtension : List (u × Nat) → ExtensionScan → ExtensionScan
  | [], scan => scan
  | (unit, offset) :: rest, scan =>
      if unit = separator then
        if scan.finish.isNone then scanExtension rest scan
        else { scan with start := offset + 1 }
      else scanExtension rest (scan.read unit offset)

/-- Where the extension starts and ends. There is none when nothing stands before
the dot, nor when the last portion is the double dot. -/
def extensionSpan? (path : List u) : Option (Nat × Nat) :=
  let scan := scanExtension (backwards path) {}
  match scan.lastDot, scan.finish with
  | some lastDot, some finish =>
      if scan.before = .nothing ∨
          scan.before = .dot ∧ lastDot + 1 = finish ∧ lastDot = scan.start + 1 then none
      else some (lastDot, finish)
  | _, _ => none

/-- The extension of a path, with its dot; empty when it has none. -/
def extension (path : List u) : List u :=
  match extensionSpan? path with
  | some span => slice path span
  | none => []

end CallBench.Path
