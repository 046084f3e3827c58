/-
# Normal form of a path

A path is read segment by segment. Empty segments and single dots say nothing, a
double dot takes back the name before it, and any other segment is a name. What is
left is written with single separators. The path stays absolute or relative and
keeps one separator at its end if it had any.
-/

import CallBench.Path.Unit

namespace CallBench.Path

/-- What stands between two separators of a path. -/
abbrev Segment : Type := List Char

/-- The segment that stands for the directory itself. -/
def Segment.here : Segment := [dot]

/-- The segment that stands for the directory above. -/
def Segment.up : Segment := [dot, dot]

/-- The segments of a path, empty ones included. -/
def segments (path : List Char) : List Segment :=
  path.splitOn separator

/-- Segments with a separator between each two. -/
def joined (segments : List Segment) : List Char :=
  [separator].intercalate segments

theorem joined_segments (path : List Char) : joined (segments path) = path :=
  List.intercalate_splitOn separator

/-- Whether a path starts at the root. -/
def isAbsolute (path : List Char) : Bool :=
  path.head? == some separator

/-- Whether a path ends in a separator. -/
def hasTrailing (path : List Char) : Bool :=
  path.getLast? == some separator

/-- Takes one more segment onto a stack whose top is its head. A double dot that
finds no name to take back is kept when the path may lead above its start. -/
def push (aboveStart : Bool) (stack : List Segment) (segment : Segment) : List Segment :=
  if segment = [] ∨ segment = Segment.here then stack
  else if segment = Segment.up then
    match stack with
    | top :: rest =>
        if top ≠ Segment.up then rest
        else if aboveStart then segment :: stack else stack
    | [] => if aboveStart then [segment] else []
  else segment :: stack

/-- The segments that are left of a path, in order. -/
def collapse (aboveStart : Bool) (path : List Char) : List Segment :=
  ((segments path).foldl (push aboveStart) []).reverse

/-- Components in the form of a path, with a separator in front of them when the path
is absolute and one behind them when it keeps a trailing separator. -/
def written (absolute trailing : Bool) (components : List Segment) : List Char :=
  (if absolute then [separator] else []) ++ joined components ++
    if trailing then [separator] else []

/-- The normal form of a path. The empty path is the directory itself, and so is a
relative path of which nothing is left. -/
def normalizeChars (path : List Char) : List Char :=
  if path = [] then Segment.here
  else match collapse (!isAbsolute path) path with
    | [] =>
        if isAbsolute path then [separator]
        else if hasTrailing path then Segment.here ++ [separator]
        else Segment.here
    | components => written (isAbsolute path) (hasTrailing path) components

end CallBench.Path
