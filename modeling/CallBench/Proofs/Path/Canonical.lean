/-
# Normal forms are the canonical paths

`Canonical` describes the paths in normal form without the function that computes them.
Here the description and the function are brought together: the function answers with
canonical paths only, and it leaves every canonical path as it is. For the second half a
normal form has to be read back into the components that it was written from. No reading
is followed through the text for this: the components that are left of a normal form lead
where the written ones lead, and settled components are determined by where they lead.
-/

import CallBench.Proofs.Path.Meaning

namespace CallBench.Path

/-- Reading a normal form gives back the components that it was written from. -/
theorem collapse_normalForm {absolute : Bool} {components : List Segment}
    (settled : Settled absolute components) (trailing : Bool) :
    collapse (!absolute) (normalForm absolute trailing components) = components := by
  apply (settled_collapse absolute _).eq_of_foldl_follow settled
  intro directory _
  have hwalk := walk_normalForm settled trailing directory
  rw [walk, isAbsolute_normalForm settled] at hwalk
  rw [foldl_follow_collapse (fun habsolute => if_pos habsolute), hwalk]

theorem normalizeChars_normalForm {absolute : Bool} {components : List Segment}
    (settled : Settled absolute components) (trailing : Bool) :
    normalizeChars (normalForm absolute trailing components) =
      normalForm absolute trailing components := by
  rw [normalizeChars_eq_normalForm, isAbsolute_normalForm settled, collapse_normalForm settled]
  by_cases hroot : absolute = true ∧ components = []
  · -- The root is written with its separator, whatever is said about a trailing one.
    rw [hroot.1, hroot.2]
    rfl
  · rw [hasTrailing_normalForm settled trailing fun habsolute hnil => hroot ⟨habsolute, hnil⟩]

theorem normalizeChars_normalizeChars (path : List Char) :
    normalizeChars (normalizeChars path) = normalizeChars path := by
  rw [normalizeChars_eq_normalForm path, normalizeChars_normalForm (settled_collapse _ _)]

/-- A path is canonical exactly when it is the normal form of settled components. -/
theorem canonical_iff_exists_settled {path : List Char} :
    Canonical path ↔ ∃ absolute trailing components,
      Settled absolute components ∧ path = normalForm absolute trailing components := by
  constructor
  · intro canonical
    cases canonical with
    | here => exact ⟨false, false, [], Settled.nil false, rfl⟩
    | hereTrailing => exact ⟨false, true, [], Settled.nil false, rfl⟩
    | root => exact ⟨true, false, [], Settled.nil true, rfl⟩
    | components absolute trailing components nonempty settled =>
        exact ⟨absolute, trailing, components, settled, (normalForm_of_ne_nil nonempty).symm⟩
  · rintro ⟨absolute, trailing, components, settled, rfl⟩
    cases components with
    | nil =>
        cases absolute with
        | true => exact .root
        | false =>
            cases trailing with
            | true => exact .hereTrailing
            | false => exact .here
    | cons first rest =>
        exact .components absolute trailing (first :: rest) (List.cons_ne_nil first rest) settled

theorem canonical_normalizeChars (path : List Char) : Canonical (normalizeChars path) :=
  canonical_iff_exists_settled.mpr
    ⟨_, _, _, settled_collapse _ path, normalizeChars_eq_normalForm path⟩

theorem canonical_iff_normalizeChars_eq {path : List Char} :
    Canonical path ↔ normalizeChars path = path := by
  constructor
  · intro canonical
    obtain ⟨absolute, trailing, components, settled, rfl⟩ :=
      canonical_iff_exists_settled.mp canonical
    exact normalizeChars_normalForm settled trailing
  · intro hfixed
    rw [← hfixed]
    exact canonical_normalizeChars path

instance (path : List Char) : Decidable (Canonical path) :=
  decidable_of_iff (normalizeChars path = path) canonical_iff_normalizeChars_eq.symm

/-- **The normal forms are the canonical paths.** A path is canonical exactly when
normalizing leaves it as it is, and exactly when it is the normal form of some path. -/
theorem canonical_iff_normalize_eq (path : String) :
    (Canonical path.toList ↔ normalize path = path) ∧
      (normalize path = path ↔ ∃ other, path = normalize other) := by
  have hfixed : normalize path = path ↔ normalizeChars path.toList = path.toList := by
    rw [normalize, ← String.toList_inj, String.toList_ofList]
  refine ⟨canonical_iff_normalizeChars_eq.trans hfixed.symm, ?_, ?_⟩
  · intro heq
    exact ⟨path, heq.symm⟩
  · rintro ⟨other, rfl⟩
    rw [hfixed, normalize, String.toList_ofList, normalizeChars_normalizeChars]

/-- Climbs stand in front of the names, and a name is not followed by a climb. -/
example : Canonical "../../a/".toList ∧ ¬ Canonical "a/..".toList ∧ ¬ Canonical "/..".toList := by
  decide

end CallBench.Path
