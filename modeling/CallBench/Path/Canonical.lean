/-
# Canonical paths

What a path in normal form looks like, said without the function that computes it:
single separators between components that all mean something, with the climbs in
front of the names.
-/

import CallBench.Path.Segment

namespace CallBench.Path

/-- Whether a segment can be a component: it has no separator in it, and it is
neither empty nor the single dot. -/
def Segment.IsComponent (segment : Segment) : Prop :=
  separator ∉ segment ∧ segment ≠ [] ∧ segment ≠ Segment.here

/-- Components of which none takes back another. -/
structure Settled (absolute : Bool) (components : List Segment) : Prop where
  isComponent : ∀ component ∈ components, component.IsComponent
  /-- A double dot has only double dots before it. -/
  climbsFirst : components.Pairwise fun earlier later =>
    later = Segment.up → earlier = Segment.up
  /-- Nothing is above the root. -/
  rooted : absolute = true → Segment.up ∉ components

/-- The canonical paths. -/
inductive Canonical : List Char → Prop where
  /-- The directory itself. -/
  | here : Canonical Segment.here
  /-- The directory itself, marked as a directory. -/
  | hereTrailing : Canonical (Segment.here ++ [separator])
  /-- The root. -/
  | root : Canonical [separator]
  /-- At least one component. -/
  | components (absolute trailing : Bool) (components : List Segment)
      (nonempty : components ≠ []) (settled : Settled absolute components) :
      Canonical (written absolute trailing components)

end CallBench.Path
