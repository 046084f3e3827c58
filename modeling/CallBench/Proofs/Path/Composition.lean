/-
# Resolving in steps

Resolving a list of paths stands for one change of directory after the other. What is
gathered of the paths leads where the changes lead that are made in turn, and a resolved
path is settled by where it leads and by whether it is absolute. So a list of paths can be
resolved in two steps, wherever it is cut: the directory in the middle may be the start
itself, it may be above it, and climbs may end at the root before and after the cut.
-/

import CallBench.Proofs.Path.Resolution

namespace CallBench.Path

theorem walk_nil (directory : List Segment) : walk directory [] = directory :=
  follow_nil directory

/-- Where an absolute path leads does not depend on the directory it is followed from. -/
theorem walk_of_isAbsolute {path : List Char} (habsolute : isAbsolute path = true)
    (directory other : List Segment) : walk directory path = walk other path := by
  rw [walk, walk, if_pos habsolute, if_pos habsolute]

theorem walk_of_relative {path : List Char} (relative : isAbsolute path = false)
    (directory : List Segment) : walk directory path = (segments path).foldl follow directory := by
  rw [walk, relative, if_neg Bool.false_ne_true]

/-- What stands behind a path is followed from where the path leads. A separator that it
starts with has no part in that. -/
theorem walk_append_segments {path : List Char} (hpath : path ≠ []) (rest : List Char)
    (directory : List Segment) :
    walk directory (path ++ separator :: rest) =
      (segments rest).foldl follow (walk directory path) := by
  rw [walk, segments_append_separator, isAbsolute_append hpath, List.foldl_append, ← walk]

/-- A relative path behind another one is followed from where that one leads. -/
theorem walk_append_separator {path : List Char} (hpath : path ≠ []) {rest : List Char}
    (relative : isAbsolute rest = false) (directory : List Segment) :
    walk directory (path ++ separator :: rest) = walk (walk directory path) rest := by
  rw [walk_of_relative relative, walk_append_segments hpath]

/-- As soon as one of the paths is absolute, the start of the changes has no part in
where they lead. -/
theorem foldl_walk_of_any_isAbsolute {paths : List (List Char)}
    (hany : paths.any isAbsolute = true) (directory other : List Segment) :
    paths.foldl walk directory = paths.foldl walk other := by
  obtain ⟨path, hmem, habsolute⟩ := List.any_eq_true.mp hany
  obtain ⟨before, after, rfl⟩ := List.append_of_mem hmem
  rw [List.foldl_append, List.foldl_append, List.foldl_cons, List.foldl_cons,
    walk_of_isAbsolute habsolute (before.foldl walk directory) (before.foldl walk other)]

/-- Joined paths start at the root exactly if the first of them that is not empty does. -/
theorem isAbsolute_joinedPaths (paths : List (List Char)) :
    isAbsolute (joinedPaths paths) = (paths.find? (· ≠ [])).any isAbsolute := by
  induction paths with
  | nil => rfl
  | cons path rest ih =>
      by_cases hpath : path = []
      · rw [List.find?_cons_of_neg (by simpa using hpath), hpath, joinedPaths_nil_cons, ih]
      · rw [List.find?_cons_of_pos (by simpa using hpath), joinedPaths_cons hpath, Option.any_some]
        split
        · rfl
        · exact isAbsolute_append hpath _

theorem isAbsolute_joinedPaths_of_relative {paths : List (List Char)}
    (relative : ∀ path ∈ paths, isAbsolute path = false) :
    isAbsolute (joinedPaths paths) = false := by
  rw [isAbsolute_joinedPaths]
  cases hlead : paths.find? (· ≠ []) with
  | none => rfl
  | some lead => exact relative lead (List.mem_of_find?_eq_some hlead)

/-- Joined paths lead where their changes of directory lead in turn. Only the first of them
may be absolute: behind another path an absolute one would lose its root. -/
theorem walk_joinedPaths (path : List Char) {rest : List (List Char)}
    (relative : ∀ later ∈ rest, isAbsolute later = false) (directory : List Segment) :
    walk directory (joinedPaths (path :: rest)) = (path :: rest).foldl walk directory := by
  induction rest generalizing path directory with
  | nil =>
      by_cases hpath : path = []
      · rw [hpath]
        rfl
      · rw [joinedPaths_cons hpath]
        rfl
  | cons next rest ih =>
      have later := (List.forall_mem_cons.mp relative).2
      by_cases hpath : path = []
      · rw [hpath, joinedPaths_nil_cons, ih next later, List.foldl_cons (a := []), walk_nil]
      · rw [joinedPaths_cons hpath, List.foldl_cons, ← ih next later]
        split
        next hempty => rw [hempty, walk_nil]
        next =>
          have hrest := isAbsolute_joinedPaths_of_relative relative
          exact walk_append_separator hpath hrest directory

/-- What has been gathered leads where all changes of directory lead, those before an
absolute path included. -/
theorem walk_gatheredPath (start : List Char) (paths : List (List Char))
    (directory : List Segment) :
    walk directory (gatheredPath start paths) = (start :: paths).foldl walk directory := by
  induction paths generalizing start with
  | nil => exact walk_joinedPaths start (by simp) directory
  | cons next rest ih =>
      rw [gatheredPath, fromLastAbsolute]
      by_cases hany : (next :: rest).any isAbsolute = true
      · rw [if_pos hany, ← gatheredPath, ih, List.foldl_cons (a := start)]
        exact foldl_walk_of_any_isAbsolute hany _ _
      · rw [if_neg hany]
        apply walk_joinedPaths
        intro later hmem
        rw [Bool.not_eq_true] at hany
        simpa using List.any_eq_false.mp hany later hmem

/-- A resolved path leads where its paths lead in turn. -/
theorem walk_resolveChars (start : List Char) (paths : List (List Char))
    (directory : List Segment) :
    walk directory (resolveChars start paths) = (start :: paths).foldl walk directory := by
  rw [resolveChars_eq_normalForm, walk_normalForm (settled_collapse _ _),
    foldl_follow_collapse (fun habsolute => if_pos habsolute), ← walk, walk_gatheredPath]

/-- Resolved paths are the same when they are of the same kind and lead to the same place
from every directory. -/
theorem resolveChars_eq_of_walk_eq {start other : List Char} {paths others : List (List Char)}
    (kind : (start :: paths).any isAbsolute = (other :: others).any isAbsolute)
    (same : ∀ directory : List Segment,
      (start :: paths).foldl walk directory = (other :: others).foldl walk directory) :
    resolveChars start paths = resolveChars other others := by
  rw [← isAbsolute_gatheredPath, ← isAbsolute_gatheredPath] at kind
  have hcomponents := collapse_eq_of_walk_eq kind fun directory _ => by
    rw [walk_gatheredPath, walk_gatheredPath, same]
  rw [resolveChars_eq_normalForm, resolveChars_eq_normalForm, hcomponents, kind]

theorem resolveChars_append (start : List Char) (first second : List (List Char)) :
    resolveChars start (first ++ second) = resolveChars (resolveChars start first) second := by
  apply resolveChars_eq_of_walk_eq
  · rw [List.any_cons (a := resolveChars start first), isAbsolute_resolveChars,
      ← List.any_append, List.cons_append]
  · intro directory
    rw [List.foldl_cons (a := resolveChars start first), walk_resolveChars,
      ← List.foldl_append, List.cons_append]

/-- **Resolving composes like changes of directory.** Wherever a list of paths is cut,
resolving the second part from where the first part leads gives the path that the whole list
is resolved to. With nothing left to resolve, a resolved path stays as it is. -/
theorem resolveFrom_append (directory : String) (first second : List String) :
    resolveFrom directory (first ++ second) = resolveFrom (resolveFrom directory first) second ∧
    resolveFrom (resolveFrom directory first) [] = resolveFrom directory first := by
  have happend (later : List String) : resolveFrom directory (first ++ later) =
      resolveFrom (resolveFrom directory first) later := by
    rw [resolveFrom, resolveFrom, resolveFrom, String.toList_ofList, List.map_append,
      resolveChars_append]
  refine ⟨happend second, ?_⟩
  rw [← happend [], List.append_nil]

/-- The directory in the middle is above the start, or climbs have ended at the root. -/
example : resolveFrom "a" ["../..", "b"] = "../b" ∧ resolveFrom "/a" ["../..", "b"] = "/b" := by
  decide

end CallBench.Path
