/-
# Parts of a path

A path is taken apart into its directory and its last portion, and the portion
into a name and an extension; the root is noted as well. Putting parts together
prefers the directory to the root, and the whole portion to name and extension.
-/

import CallBench.Path.Portion
import CallBench.Path.Segment

namespace CallBench.Path

/-- The parts of a path. The two halves of `base` are kept beside it. -/
structure Parts (text : Type) where
  root : text
  dir : text
  base : text
  ext : text
  name : text
  deriving DecidableEq, Repr

/-- The same parts, written another way. -/
def Parts.map {text other : Type} (f : text → other) (parts : Parts text) : Parts other :=
  ⟨f parts.root, f parts.dir, f parts.base, f parts.ext, f parts.name⟩

section Cut

variable {u : Type} [DecidableEq u] [PathUnit u]

/-- The root of a path: its first separator, if it starts with one. -/
def root (path : List u) : List u :=
  if path.head? = some separator then path.take 1 else []

/-- Takes a path apart. The separator before the last portion is dropped, except
where it is the root; separators at the end are dropped throughout. -/
def partsOf (path : List u) : Parts (List u) :=
  let trimmed := path.take (trimmedLength path)
  let (dir, base) :=
    if trimmed = [] then (root path, [])
    else match lastSeparator? trimmed with
      | none => ([], trimmed)
      | some 0 => (trimmed.take 1, trimmed.drop 1)
      | some offset => (trimmed.take offset, trimmed.drop (offset + 1))
  let ext := extension base
  { root := root path, dir, base, ext, name := base.take (base.length - ext.length) }

end Cut

/-- Whether parts agree with each other, as those of one path do. -/
structure Parts.WellFormed (parts : Parts (List Char)) : Prop where
  root_eq : parts.root = Path.root parts.dir
  separator_notMem_base : separator ∉ parts.base
  /-- Without a last portion there is no directory but the root. -/
  dir_eq_root : parts.base = [] → parts.dir = parts.root
  ext_eq : parts.ext = extension parts.base
  name_append_ext : parts.name ++ parts.ext = parts.base

/-- An extension with the dot that belongs before it. -/
def dotted (ext : List Char) : List Char :=
  if ext = [] ∨ ext.head? = some dot then ext else dot :: ext

/-- The path that has the given parts. -/
def Parts.assemble (parts : Parts (List Char)) : List Char :=
  let dir := if parts.dir = [] then parts.root else parts.dir
  let base := if parts.base = [] then parts.name ++ dotted parts.ext else parts.base
  if dir = [] then base
  else if dir = parts.root then dir ++ base
  else dir ++ separator :: base

end CallBench.Path
