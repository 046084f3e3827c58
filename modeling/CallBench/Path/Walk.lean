/-
# Where a path leads

The meaning of a path, apart from any form in which it is written. A directory is
given by the names that lead to it from the root, the innermost first, and each
segment of a path says where to go from there. This reading does not look at normal
forms: it is what they have to keep.
-/

import CallBench.Path.Segment

namespace CallBench.Path

/-- Follows one segment from a directory. Above the root is the root itself. -/
def follow (directory : List Segment) (segment : Segment) : List Segment :=
  if segment = [] ∨ segment = Segment.here then directory
  else if segment = Segment.up then directory.tail
  else segment :: directory

/-- Follows a path from a directory. An absolute path leads from the root, wherever
the directory is. -/
def walk (directory : List Segment) (path : List Char) : List Segment :=
  (segments path).foldl follow (if isAbsolute path then [] else directory)

end CallBench.Path
