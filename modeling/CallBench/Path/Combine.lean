/-
# Combining paths

Joining writes paths one after the other and normalizes the result. Resolving
reads them as successive changes of directory: it goes from the last path
backwards and stops at the first that is absolute, because nothing before an
absolute path matters. A resolved path has no separator at its end.
-/

import CallBench.Path.Segment

namespace CallBench.Path

/-- The paths that are not empty, joined and normalized. -/
def joinChars (paths : List (List Char)) : List Char :=
  let path := joined (paths.filter (· ≠ []))
  if path = [] then Segment.here else normalizeChars path

/-- The path gathered so far on the way backwards. -/
structure Gathered where
  path : List Char
  /-- Whether the path gathered last was absolute. -/
  absolute : Bool

/-- Puts one more path in front of what has been gathered. -/
def Gathered.prepend (gathered : Gathered) (path : List Char) : Gathered where
  path := if gathered.path = [] then path else path ++ separator :: gathered.path
  absolute := isAbsolute path

/-- Gathers paths, given from last to first, up to an absolute one. -/
def gather : List (List Char) → Gathered → Gathered
  | [], gathered => gathered
  | path :: rest, gathered =>
      if path = [] then gather rest gathered
      else
        let gathered := gathered.prepend path
        if gathered.absolute then gathered else gather rest gathered

/-- Where a list of paths leads, starting from a directory. -/
def resolveChars (directory : List Char) (paths : List (List Char)) : List Char :=
  let gathered := gather (paths.reverse ++ [directory]) ⟨[], false⟩
  match gathered.absolute, collapse (!gathered.absolute) gathered.path with
  | false, [] => Segment.here
  | absolute, components => written absolute false components

/-- The paths from the last absolute one on; all of them when none is absolute. -/
def fromLastAbsolute : List (List Char) → List (List Char)
  | [] => []
  | path :: rest => if rest.any isAbsolute then fromLastAbsolute rest else path :: rest

end CallBench.Path
