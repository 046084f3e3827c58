/-
# Paths cut in their bytes

Paths are stored encoded, and what is cut are their bytes. The offsets are those that the
readers of a path answer with, and each cut and each difference of offsets is checked where
it is made: a function gives nothing when one of them is refused, because the program would
stop there. Cutting the characters of a path needs no such check.
-/

import CallBench.Path.Parts
import CallBench.Text.Slice

namespace CallBench.Path

open Text (slice? minus?)

/-- The directory of a path: the single dot when it names none. -/
def directory? (path : List UInt8) : Option (List UInt8) :=
  match directoryEnd? path with
  | none => some [dot]
  | some finish => slice? path 0 finish

/-- A path without the separators at its end. -/
def trimmed? (path : List UInt8) : Option (List UInt8) :=
  slice? path 0 (trimmedLength path)

/-- The last portion of a path. -/
def portion? (path : List UInt8) : Option (List UInt8) := do
  let trimmed ← trimmed? path
  match lastSeparator? trimmed with
  | some offset => slice? trimmed (offset + 1) trimmed.length
  | none => some trimmed

/-- What is left in front when the end of some bytes is cut off. -/
def withoutEnd? (bytes ending : List UInt8) : Option (List UInt8) := do
  let finish ← minus? bytes.length ending.length
  slice? bytes 0 finish

/-- A portion without a suffix that it ends in. -/
def withoutSuffix? (portion suffix : List UInt8) : Option (List UInt8) :=
  if suffix.isSuffixOf portion then withoutEnd? portion suffix else some portion

/-- The last portion of a path without a suffix, unless the suffix is all of the
portion. A suffix that equals the whole path leaves nothing. -/
def portionWithout? (path suffix : List UInt8) : Option (List UInt8) :=
  if suffix ≠ [] ∧ suffix = path then some []
  else do
    let portion ← portion? path
    if suffix ≠ [] ∧ portion ≠ suffix then withoutSuffix? portion suffix else some portion

/-- The last portion of a path, without a suffix if one is given. -/
def base? (path : List UInt8) : Option (List UInt8) → Option (List UInt8)
  | none => portion? path
  | some suffix => portionWithout? path suffix

/-- The extension of a path, with its dot; empty when it has none. Whether the dot is the
last unit of the portion is found by taking one from where the portion ends. -/
def extension? (path : List UInt8) : Option (List UInt8) :=
  let scan := scanExtension (backwards path) {}
  match scan.lastDot, scan.finish with
  | some lastDot, some finish => do
      let last ← minus? finish 1
      if scan.before = .nothing ∨
          scan.before = .dot ∧ lastDot = last ∧ lastDot = scan.start + 1 then some []
      else slice? path lastDot finish
  | _, _ => some []

/-- Takes a path apart. The name is what the extension leaves of the last portion. -/
def partsOf? (path : List UInt8) : Option (Parts (List UInt8)) := do
  let trimmed ← trimmed? path
  let (dir, base) ←
    if trimmed = [] then some (root path, [])
    else match lastSeparator? trimmed with
      | none => some ([], trimmed)
      | some 0 => do
          let base ← slice? trimmed 1 trimmed.length
          some ([separator], base)
      | some offset => do
          let dir ← slice? trimmed 0 offset
          let base ← slice? trimmed (offset + 1) trimmed.length
          some (dir, base)
  let ext ← extension? base
  let name ← withoutEnd? base ext
  some { root := root path, dir, base, ext, name }

end CallBench.Path
