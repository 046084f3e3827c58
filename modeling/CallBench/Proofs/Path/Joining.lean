/-
# Joining in steps

Paths can be joined a part at a time, because what a part is joined to leads where the part
leads. Which of two parts may be joined first is a matter of the ends of a path: whether it
is absolute is decided by its front and whether it has a trailing separator by its back,
and the front part keeps the one, the back part the other. A part with nothing in it is a
different thing, since it is joined to the single dot, and so is an absolute part behind
another one, since the root that it loses there is kept when it is joined on its own.
-/

import CallBench.Proofs.Path.Canonical
import CallBench.Proofs.Path.Composition
import Mathlib.Data.List.Basic

namespace CallBench.Path

/-- A path with another one behind it. Where one of them is empty, the other stands alone. -/
def followedBy (first second : List Char) : List Char :=
  if first = [] then second
  else if second = [] then first
  else first ++ separator :: second

theorem nil_followedBy (path : List Char) : followedBy [] path = path :=
  if_pos rfl

theorem followedBy_nil (path : List Char) : followedBy path [] = path := by
  rw [followedBy]
  split
  next hpath => exact hpath.symm
  next => exact if_pos rfl

theorem followedBy_of_ne_nil {first second : List Char} (hfirst : first ≠ [])
    (hsecond : second ≠ []) : followedBy first second = first ++ separator :: second := by
  rw [followedBy, if_neg hfirst, if_neg hsecond]

theorem followedBy_assoc (first second third : List Char) :
    followedBy (followedBy first second) third = followedBy first (followedBy second third) := by
  by_cases hfirst : first = []
  · rw [hfirst, nil_followedBy, nil_followedBy]
  · by_cases hsecond : second = []
    · rw [hsecond, followedBy_nil, nil_followedBy]
    · by_cases hthird : third = []
      · rw [hthird, followedBy_nil, followedBy_nil]
      · rw [followedBy_of_ne_nil hfirst hsecond, followedBy_of_ne_nil hsecond hthird,
          followedBy_of_ne_nil (by simp) hthird, followedBy_of_ne_nil hfirst (by simp),
          List.append_assoc, List.cons_append]

theorem joinedPaths_cons_eq_followedBy (path : List Char) (rest : List (List Char)) :
    joinedPaths (path :: rest) = followedBy path (joinedPaths rest) := by
  by_cases hpath : path = []
  · rw [hpath, joinedPaths_nil_cons, nil_followedBy]
  · rw [joinedPaths_cons hpath, followedBy, if_neg hpath]

theorem joinedPaths_singleton (path : List Char) : joinedPaths [path] = path := by
  rw [joinedPaths_cons_eq_followedBy]
  exact followedBy_nil path

theorem joinedPaths_append (first second : List (List Char)) :
    joinedPaths (first ++ second) = followedBy (joinedPaths first) (joinedPaths second) := by
  induction first with
  | nil => exact (nil_followedBy _).symm
  | cons path rest ih =>
      rw [List.cons_append, joinedPaths_cons_eq_followedBy, ih,
        joinedPaths_cons_eq_followedBy path rest, followedBy_assoc]

/-- Paths have the same normal form when they are of the same kind, agree on a trailing
separator and lead to the same place. -/
theorem normalizeChars_eq_of_walk_eq {first second : List Char}
    (kind : isAbsolute first = isAbsolute second)
    (trailing : hasTrailing first = hasTrailing second)
    (same : ∀ directory : List Segment, walk directory first = walk directory second) :
    normalizeChars first = normalizeChars second := by
  rw [normalizeChars_eq_normalForm, normalizeChars_eq_normalForm, trailing,
    collapse_eq_of_walk_eq kind fun directory _ => same directory, kind]

theorem normalizeChars_ne_nil (path : List Char) : normalizeChars path ≠ [] := by
  rw [normalizeChars_eq_normalForm]
  exact normalForm_ne_nil (settled_collapse _ path) _

theorem hasTrailing_append_separator (first : List Char) {second : List Char}
    (hsecond : second ≠ []) : hasTrailing (first ++ separator :: second) = hasTrailing second := by
  rw [hasTrailing, hasTrailing, List.append_cons, List.getLast?_append_of_ne_nil _ hsecond]

/-- The front of a path may be in normal form already. -/
theorem normalizeChars_followedBy_left {first : List Char} (hfirst : first ≠ [])
    (second : List Char) :
    normalizeChars (followedBy (normalizeChars first) second) =
      normalizeChars (followedBy first second) := by
  by_cases hsecond : second = []
  · rw [hsecond, followedBy_nil, followedBy_nil, normalizeChars_normalizeChars]
  · have hnormal := normalizeChars_ne_nil first
    rw [followedBy_of_ne_nil hnormal hsecond, followedBy_of_ne_nil hfirst hsecond]
    apply normalizeChars_eq_of_walk_eq
    · rw [isAbsolute_append hnormal, isAbsolute_append hfirst, isAbsolute_normalizeChars]
    · rw [hasTrailing_append_separator _ hsecond, hasTrailing_append_separator _ hsecond]
    · intro directory
      rw [walk_append_segments hnormal, walk_append_segments hfirst, walk_normalizeChars]

/-- So may be what stands behind the front, if it is relative. -/
theorem normalizeChars_followedBy_right (first : List Char) {second : List Char}
    (hsecond : second ≠ []) (relative : isAbsolute second = false) :
    normalizeChars (followedBy first (normalizeChars second)) =
      normalizeChars (followedBy first second) := by
  by_cases hfirst : first = []
  · rw [hfirst, nil_followedBy, nil_followedBy, normalizeChars_normalizeChars]
  · have hnormal := normalizeChars_ne_nil second
    have hrelative : isAbsolute (normalizeChars second) = false := by
      rw [isAbsolute_normalizeChars, relative]
    have hproper : ¬ (isAbsolute second = true ∧ walk [] second = []) := by
      rw [relative]
      exact fun hroot => Bool.false_ne_true hroot.1
    rw [followedBy_of_ne_nil hfirst hnormal, followedBy_of_ne_nil hfirst hsecond]
    apply normalizeChars_eq_of_walk_eq
    · rw [isAbsolute_append hfirst, isAbsolute_append hfirst]
    · rw [hasTrailing_append_separator _ hnormal, hasTrailing_append_separator _ hsecond,
        hasTrailing_normalizeChars hproper]
    · intro directory
      rw [walk_append_separator hfirst hrelative, walk_append_separator hfirst relative,
        walk_normalizeChars]

theorem joinChars_joined_front {first : List (List Char)} (hfirst : ∃ path ∈ first, path ≠ [])
    (second : List (List Char)) :
    joinChars ([joinChars first] ++ second) = joinChars (first ++ second) := by
  have hjoined : joinedPaths first ≠ [] := by
    obtain ⟨path, hmem, hpath⟩ := hfirst
    exact fun hnil => hpath (joinedPaths_eq_nil_iff.mp hnil path hmem)
  simp only [joinChars_eq_normalizeChars, joinedPaths_append, joinedPaths_singleton]
  exact normalizeChars_followedBy_left hjoined _

theorem joinChars_joined_back (first : List (List Char)) {second : List (List Char)}
    {lead : List Char} (hlead : second.find? (· ≠ []) = some lead)
    (relative : isAbsolute lead = false) :
    joinChars (first ++ [joinChars second]) = joinChars (first ++ second) := by
  have hjoined : joinedPaths second ≠ [] := by
    have hmem := List.mem_of_find?_eq_some hlead
    have hproper : lead ≠ [] := by simpa using List.find?_some hlead
    exact fun hnil => hproper (joinedPaths_eq_nil_iff.mp hnil lead hmem)
  have hkind : isAbsolute (joinedPaths second) = false := by
    rw [isAbsolute_joinedPaths, hlead, Option.any_some, relative]
  simp only [joinChars_eq_normalizeChars, joinedPaths_append, joinedPaths_singleton]
  exact normalizeChars_followedBy_right _ hjoined hkind

/-- **Joining can be done in steps.** Wherever a list of paths is cut, the front part may be
joined first, provided that there is something in it. The back part may be joined first if
there is something in it and the first path in it that is not empty is relative. -/
theorem join_in_steps (first second : List String) :
    ((∃ path ∈ first, path ≠ "") →
      join ([join first] ++ second) = join (first ++ second)) ∧
    ∀ lead, second.find? (· ≠ "") = some lead → absolute lead = false →
      join (first ++ [join second]) = join (first ++ second) := by
  have hempty (path : String) : path ≠ "" ↔ path.toList ≠ [] :=
    not_congr String.toList_eq_nil_iff.symm
  have hchars (paths : List String) : (join paths).toList = joinChars (paths.map String.toList) :=
    String.toList_ofList
  constructor
  · rintro ⟨path, hmem, hpath⟩
    have hfront := joinChars_joined_front
      ⟨path.toList, List.mem_map_of_mem hmem, (hempty path).mp hpath⟩
      (second.map String.toList)
    rw [← hchars, ← List.map_append, ← List.map_singleton, ← List.map_append] at hfront
    rw [join, hfront, join]
  · intro lead hlead relative
    have hfind : (second.map String.toList).find? (· ≠ []) = some lead.toList := by
      have hsame : (fun path : List Char => decide (path ≠ [])) ∘ String.toList =
          fun path : String => decide (path ≠ "") :=
        funext fun path => decide_eq_decide.mpr (hempty path).symm
      rw [List.find?_map, hsame, hlead, Option.map_some]
    have hback := joinChars_joined_back (first.map String.toList) hfind relative
    rw [← hchars, ← List.map_singleton, ← List.map_append, ← List.map_append] at hback
    rw [join, hback, join]

/-- The front is joined to the single dot, and the back starts with a climb. -/
theorem join_in_steps_of_climb :
    (∃ path ∈ ["", "a/.."], path ≠ "") ∧
    join ([join ["", "a/.."]] ++ ["", "..//b/", "/c/"]) =
      join (["", "a/.."] ++ ["", "..//b/", "/c/"]) ∧
    ["", "..//b/", "/c/"].find? (· ≠ "") = some "..//b/" ∧ absolute "..//b/" = false ∧
    join (["", "a/.."] ++ [join ["", "..//b/", "/c/"]]) =
      join (["", "a/.."] ++ ["", "..//b/", "/c/"]) := by
  have hfront : ∃ path ∈ ["", "a/.."], path ≠ "" := by decide
  have hlead : ["", "..//b/", "/c/"].find? (· ≠ "") = some "..//b/" := by decide
  have relative : absolute "..//b/" = false := by decide
  obtain ⟨front, back⟩ := join_in_steps ["", "a/.."] ["", "..//b/", "/c/"]
  exact ⟨hfront, front hfront, hlead, relative, back _ hlead relative⟩

/-- No part may be empty, and the back part may not be absolute. -/
example : join ([join []] ++ ["/a"]) ≠ join ["/a"] ∧ join (["a/"] ++ [join []]) ≠ join ["a/"] ∧
    join (["a"] ++ [join ["/.."]]) ≠ join ["a", "/.."] := by
  decide

end CallBench.Path
