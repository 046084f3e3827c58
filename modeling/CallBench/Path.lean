/-
# Lexical paths

Operations on paths as texts. None of them looks at the file system: a path means
what its segments say, read from left to right.
-/

import CallBench.Path.Combine
import CallBench.Path.Parts
import CallBench.Text.Layout

namespace CallBench.Path

/-- Whether a path starts at the root. -/
def absolute (path : String) : Bool :=
  isAbsolute path.toList

/-- The normal form of a path: no empty or single-dot segments, and double dots
only where nothing before them can be taken back. -/
def normalize (path : String) : String :=
  .ofList (normalizeChars path.toList)

/-- The paths that are not empty, one after the other, in normal form. -/
def join (paths : List String) : String :=
  .ofList (joinChars (paths.map String.toList))

/-- Where a list of paths leads from a directory. -/
def resolveFrom (directory : String) (paths : List String) : String :=
  .ofList (resolveChars directory.toList (paths.map String.toList))

/-- The directory that a path names an entry of. -/
def dirname (path : String) : String :=
  .ofList (directory path.toList)

/-- The last portion of a path, without a suffix if one is given. -/
def basename (path : String) : Option String → String
  | none => .ofList (portion path.toList)
  | some suffix => .ofList (portionWithout path.toList suffix.toList)

/-- The extension of the last portion, from its last dot. -/
def extname (path : String) : String :=
  .ofList (extension path.toList)

/-- Takes a path apart. -/
def parse (path : String) : Parts String :=
  (partsOf path.toList).map String.ofList

/-- Puts the parts of a path together. -/
def format (parts : Parts String) : String :=
  .ofList (parts.map String.toList).assemble

/-- The parts of a path as they are shown to a reader. -/
def Parts.layout (parts : Parts String) : Text.Layout :=
  .record "ParsedPath"
    [("root", .text parts.root), ("dir", .text parts.dir), ("base", .text parts.base),
      ("ext", .text parts.ext), ("name", .text parts.name)] false

end CallBench.Path
