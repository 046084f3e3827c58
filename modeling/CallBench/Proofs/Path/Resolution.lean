/-
# Resolving and joining

Resolving gathers its paths from the last to the first and stops at an absolute one;
joining writes its paths from the first to the last. What is gathered is what joining
writes for the paths from the last absolute one on, so resolving is joining these paths
and dropping the separator at the end. From there the rest follows: a resolved path is
absolute as soon as one of its paths is, an absolute one has only names in it, and nothing
before an absolute path matters.
-/

import CallBench.Path
import CallBench.Proofs.Path.Meaning
import Mathlib.Data.List.Induction

namespace CallBench.Path

theorem joined_ne_nil {first : Segment} (hfirst : first ≠ []) (rest : List Segment) :
    joined (first :: rest) ≠ [] := by
  rw [joined]
  cases rest with
  | nil => rwa [List.intercalate_singleton]
  | cons second rest =>
      rw [List.intercalate_cons_cons]
      simp [hfirst]

theorem normalForm_ne_nil {absolute : Bool} {components : List Segment}
    (settled : Settled absolute components) (trailing : Bool) :
    normalForm absolute trailing components ≠ [] := by
  cases components with
  | nil => cases absolute <;> cases trailing <;> exact List.cons_ne_nil _ _
  | cons first rest =>
      have hfirst := (settled.isComponent first List.mem_cons_self).2.1
      simp [normalForm, written, joined_ne_nil hfirst]

/-- The paths that are not empty, with a separator between each two. -/
def joinedPaths (paths : List (List Char)) : List Char :=
  joined (paths.filter (· ≠ []))

theorem joinedPaths_nil_cons (paths : List (List Char)) :
    joinedPaths ([] :: paths) = joinedPaths paths := by
  rw [joinedPaths, List.filter_cons_of_neg (by simp), joinedPaths]

theorem joinedPaths_cons {path : List Char} (hpath : path ≠ []) (paths : List (List Char)) :
    joinedPaths (path :: paths) =
      if joinedPaths paths = [] then path else path ++ separator :: joinedPaths paths := by
  rw [joinedPaths, List.filter_cons_of_pos (by simpa using hpath), joinedPaths]
  cases hrest : paths.filter (· ≠ []) with
  | nil => simp [joined]
  | cons next rest =>
      have hnext : next ≠ [] := by
        have hmem : next ∈ paths.filter (· ≠ []) := hrest ▸ List.mem_cons_self
        simpa using (List.mem_filter.mp hmem).2
      rw [if_neg (joined_ne_nil hnext rest), joined, List.intercalate_cons_cons, joined,
        List.append_assoc, List.singleton_append]

theorem joinedPaths_eq_nil_iff {paths : List (List Char)} :
    joinedPaths paths = [] ↔ ∀ path ∈ paths, path = [] := by
  induction paths with
  | nil => simp [joinedPaths, joined]
  | cons path rest ih =>
      rw [List.forall_mem_cons, ← ih]
      by_cases hpath : path = []
      · rw [hpath, joinedPaths_nil_cons]
        simp
      · rw [joinedPaths_cons hpath]
        split <;> simp [hpath]

/-- The empty path needs no case of its own when paths are joined. -/
theorem joinChars_eq_normalizeChars (paths : List (List Char)) :
    joinChars paths = normalizeChars (joinedPaths paths) := by
  rw [joinChars, ← joinedPaths]
  by_cases hempty : joinedPaths paths = []
  · rw [if_pos hempty, hempty, normalizeChars, if_pos rfl]
  · rw [if_neg hempty]

theorem fromLastAbsolute_cons (path : List Char) {rest : List (List Char)}
    (relative : ∀ later ∈ rest, isAbsolute later = false) :
    fromLastAbsolute (path :: rest) = path :: rest := by
  have hrest : ¬ rest.any isAbsolute = true := by
    rw [Bool.not_eq_true, List.any_eq_false]
    exact fun later hmem => by simp [relative later hmem]
  rw [fromLastAbsolute, if_neg hrest]

theorem fromLastAbsolute_of_relative {paths : List (List Char)}
    (relative : ∀ path ∈ paths, isAbsolute path = false) : fromLastAbsolute paths = paths := by
  cases paths with
  | nil => rfl
  | cons path rest => exact fromLastAbsolute_cons path (List.forall_mem_cons.mp relative).2

/-- Nothing before an absolute path matters. -/
theorem fromLastAbsolute_append_cons (before : List (List Char)) {anchor : List Char}
    (habsolute : isAbsolute anchor = true) (after : List (List Char)) :
    fromLastAbsolute (before ++ anchor :: after) = fromLastAbsolute (anchor :: after) := by
  induction before with
  | nil => rfl
  | cons first before ih =>
      have hany : (before ++ anchor :: after).any isAbsolute = true :=
        List.any_eq_true.mpr
          ⟨anchor, List.mem_append_right _ List.mem_cons_self, habsolute⟩
      rw [List.cons_append, fromLastAbsolute, if_pos hany, ih]

theorem isAbsolute_append {path : List Char} (hpath : path ≠ []) (rest : List Char) :
    isAbsolute (path ++ rest) = isAbsolute path := by
  cases path with
  | nil => exact absurd rfl hpath
  | cons first path => rfl

theorem Gathered.absolute_prepend (gathered : Gathered) {path : List Char} (hpath : path ≠ []) :
    (gathered.prepend path).absolute = isAbsolute (gathered.prepend path).path := by
  rw [prepend]
  by_cases hempty : gathered.path = []
  · rw [if_pos hempty]
  · rw [if_neg hempty, isAbsolute_append hpath]

/-- The path gathered last tells whether all that has been gathered is absolute. -/
theorem absolute_gather (paths : List (List Char)) {gathered : Gathered}
    (hgathered : gathered.absolute = isAbsolute gathered.path) :
    (gather paths gathered).absolute = isAbsolute (gather paths gathered).path := by
  induction paths generalizing gathered with
  | nil => exact hgathered
  | cons path rest ih =>
      rw [gather]
      by_cases hpath : path = []
      · rw [if_pos hpath]
        exact ih hgathered
      · rw [if_neg hpath]
        have hprepend := gathered.absolute_prepend hpath
        cases hstop : (gathered.prepend path).absolute with
        | true => simpa [hstop] using hprepend
        | false => simpa [hstop] using ih hprepend

/-- Gathering backwards comes to the paths from the last absolute one on, given that no
path has been absolute so far. -/
theorem gather_reverse (paths later : List (List Char))
    (relative : ∀ path ∈ later, isAbsolute path = false) :
    gather paths.reverse ⟨joinedPaths later, false⟩ =
      ⟨joinedPaths (fromLastAbsolute (paths ++ later)), paths.any isAbsolute⟩ := by
  induction paths using List.reverseRecOn generalizing later with
  | nil => rw [List.nil_append, fromLastAbsolute_of_relative relative]; rfl
  | append_singleton paths path ih =>
      rw [List.reverse_append, List.reverse_singleton, List.singleton_append, gather,
        List.append_assoc, List.singleton_append, List.any_append, List.any_cons, List.any_nil,
        Bool.or_false]
      by_cases hpath : path = []
      · have hlater : ∀ other ∈ path :: later, isAbsolute other = false :=
          List.forall_mem_cons.mpr ⟨by rw [hpath]; rfl, relative⟩
        have hgather := ih (path :: later) hlater
        rw [hpath, joinedPaths_nil_cons] at hgather
        rw [if_pos hpath, hpath, hgather]
        simp [isAbsolute]
      · have hprepend : Gathered.prepend ⟨joinedPaths later, false⟩ path =
            ⟨joinedPaths (path :: later), isAbsolute path⟩ := by
          rw [Gathered.prepend, joinedPaths_cons hpath]
        rw [if_neg hpath, hprepend]
        cases habsolute : isAbsolute path with
        | true =>
            rw [fromLastAbsolute_append_cons paths habsolute,
              fromLastAbsolute_cons path relative, Bool.or_true]
            rfl
        | false =>
            have hlater : ∀ other ∈ path :: later, isAbsolute other = false :=
              List.forall_mem_cons.mpr ⟨habsolute, relative⟩
            simpa using ih (path :: later) hlater

/-- The path that a list of paths comes to when it is resolved. -/
def gatheredPath (directory : List Char) (paths : List (List Char)) : List Char :=
  joinedPaths (fromLastAbsolute (directory :: paths))

theorem gather_eq (directory : List Char) (paths : List (List Char)) :
    gather (paths.reverse ++ [directory]) ⟨[], false⟩ =
      ⟨gatheredPath directory paths, (directory :: paths).any isAbsolute⟩ := by
  have hgather := gather_reverse (directory :: paths) [] (by simp)
  rwa [List.reverse_cons, List.append_nil] at hgather

theorem isAbsolute_gatheredPath (directory : List Char) (paths : List (List Char)) :
    isAbsolute (gatheredPath directory paths) = (directory :: paths).any isAbsolute := by
  have habsolute := absolute_gather (paths.reverse ++ [directory])
    (show (⟨[], false⟩ : Gathered).absolute = isAbsolute [] from rfl)
  rw [gather_eq] at habsolute
  exact habsolute.symm

/-- A resolved path is the normal form, without a trailing separator, of what has been
gathered. -/
theorem resolveChars_eq_normalForm (directory : List Char) (paths : List (List Char)) :
    resolveChars directory paths =
      normalForm (isAbsolute (gatheredPath directory paths)) false
        (collapse (!isAbsolute (gatheredPath directory paths))
          (gatheredPath directory paths)) := by
  rw [resolveChars, gather_eq, ← isAbsolute_gatheredPath]
  dsimp only
  cases isAbsolute (gatheredPath directory paths) with
  | true =>
      cases collapse (!true) (gatheredPath directory paths) <;> rfl
  | false =>
      cases collapse (!false) (gatheredPath directory paths) <;> rfl

/-- A path without the separator at its end, which only the root keeps. -/
def unmarked (path : List Char) : List Char :=
  if path = [separator] then path
  else if hasTrailing path then path.dropLast
  else path

theorem unmarked_normalForm {absolute : Bool} {components : List Segment}
    (settled : Settled absolute components) (trailing : Bool) :
    unmarked (normalForm absolute trailing components) =
      normalForm absolute false components := by
  cases components with
  | nil => cases absolute <;> cases trailing <;> rfl
  | cons first rest =>
      have htrailing := hasTrailing_normalForm settled trailing
        fun _ => List.cons_ne_nil first rest
      rw [unmarked, htrailing]
      cases trailing with
      | false => simp
      | true =>
          have hmarked : normalForm absolute true (first :: rest) =
              normalForm absolute false (first :: rest) ++ [separator] := by
            simp [normalForm, written]
          rw [hmarked, List.dropLast_concat]
          simp [normalForm_ne_nil settled false]

/-- Resolving is joining the paths from the last absolute one on, without the separator
at the end. -/
theorem resolveChars_eq_unmarked (directory : List Char) (paths : List (List Char)) :
    resolveChars directory paths = unmarked (joinChars (fromLastAbsolute (directory :: paths))) := by
  rw [joinChars_eq_normalizeChars, ← gatheredPath, normalizeChars_eq_normalForm,
    unmarked_normalForm (settled_collapse _ _), resolveChars_eq_normalForm]

theorem isAbsolute_resolveChars (directory : List Char) (paths : List (List Char)) :
    isAbsolute (resolveChars directory paths) = (directory :: paths).any isAbsolute := by
  rw [resolveChars_eq_normalForm, isAbsolute_normalForm (settled_collapse _ _),
    isAbsolute_gatheredPath]

/-- An absolute path that has been resolved is the root or has only names in it. -/
theorem resolveChars_of_isAbsolute {directory : List Char} {paths : List (List Char)}
    (habsolute : isAbsolute (resolveChars directory paths) = true) :
    resolveChars directory paths = [separator] ∨
      hasTrailing (resolveChars directory paths) = false ∧
        ∀ component ∈ (segments (resolveChars directory paths)).tail,
          Segment.IsName component := by
  have hgathered : isAbsolute (gatheredPath directory paths) = true := by
    rwa [isAbsolute_resolveChars, ← isAbsolute_gatheredPath] at habsolute
  have settled := settled_collapse true (gatheredPath directory paths)
  rw [resolveChars_eq_normalForm, hgathered]
  cases hcomponents : collapse (!true) (gatheredPath directory paths) with
  | nil => exact .inl rfl
  | cons first rest =>
      rw [hcomponents] at settled
      have nonempty : first :: rest ≠ [] := List.cons_ne_nil first rest
      right
      constructor
      · exact hasTrailing_normalForm settled false fun _ => nonempty
      · rw [normalForm_of_ne_nil nonempty, segments_written true false nonempty
          (fun component hmem => (settled.isComponent component hmem).1)]
        simp only [if_true, Bool.false_eq_true, if_false, List.append_nil, List.singleton_append,
          List.tail_cons]
        intro component hmem
        exact ⟨settled.isComponent component hmem,
          fun hup => settled.rooted rfl (hup ▸ hmem)⟩

/-- The paths from the last absolute one on; all of them when none is absolute. -/
def effectivePaths (paths : List String) : List String :=
  (fromLastAbsolute (paths.map String.toList)).map String.ofList

theorem toList_join_effectivePaths (paths : List String) :
    (join (effectivePaths paths)).toList =
      joinChars (fromLastAbsolute (paths.map String.toList)) := by
  rw [join, effectivePaths, List.map_map, String.toList_ofList]
  have hsame : String.toList ∘ String.ofList = id := funext fun _ => String.toList_ofList
  rw [hsame, List.map_id]

/-- **Resolving is joining from the last absolute path on.** The resolved path is what the
paths from the last absolute one on are joined to, without a separator at the end unless
it is the root. It is absolute exactly if one of the paths is; then it is the root, or it
has neither a separator at its end nor any component but names. What is before an absolute
path has no part in it. -/
theorem resolveFrom_eq_join (directory : String) (paths : List String) :
    (resolveFrom directory paths).toList =
      unmarked (join (effectivePaths (directory :: paths))).toList ∧
    absolute (resolveFrom directory paths) = (directory :: paths).any absolute ∧
    (absolute (resolveFrom directory paths) = true →
      resolveFrom directory paths = "/" ∨
        hasTrailing (resolveFrom directory paths).toList = false ∧
          ∀ component ∈ (segments (resolveFrom directory paths).toList).tail,
            Segment.IsName component) ∧
    ∀ before anchor after, directory :: paths = before ++ anchor :: after →
      absolute anchor = true → ∀ (elsewhere : String) (others earlier : List String),
        elsewhere :: others = earlier ++ anchor :: after →
          resolveFrom elsewhere others = resolveFrom directory paths := by
  have hchars (start : String) (rest : List String) :
      (resolveFrom start rest).toList = resolveChars start.toList (rest.map String.toList) :=
    String.toList_ofList
  have hjoin (start : String) (rest : List String) : (resolveFrom start rest).toList =
      unmarked (join (effectivePaths (start :: rest))).toList := by
    rw [hchars, resolveChars_eq_unmarked, toList_join_effectivePaths, List.map_cons]
  refine ⟨hjoin directory paths, ?_, ?_, ?_⟩
  · rw [absolute, hchars, isAbsolute_resolveChars, ← List.map_cons, List.any_map]
    rfl
  · intro habsolute
    rw [absolute, hchars] at habsolute
    rw [hchars]
    apply (resolveChars_of_isAbsolute habsolute).imp_left
    intro hroot
    rw [resolveFrom, hroot]
    rfl
  · intro before anchor after hsplit habsolute elsewhere others earlier hothers
    have heffective (front : List String) :
        effectivePaths (front ++ anchor :: after) = effectivePaths (anchor :: after) := by
      rw [effectivePaths, List.map_append, List.map_cons,
        fromLastAbsolute_append_cons _ habsolute, effectivePaths, List.map_cons]
    rw [← String.toList_inj, hjoin, hjoin, hsplit, hothers, heffective, heffective]

/-- Two absolute paths, of which only the second counts. -/
theorem resolveFrom_of_two_absolute :
    absolute (resolveFrom "/a" ["", "/b/../c//", "d/"]) = true ∧
    (resolveFrom "/a" ["", "/b/../c//", "d/"] = "/" ∨
      hasTrailing (resolveFrom "/a" ["", "/b/../c//", "d/"]).toList = false ∧
        ∀ component ∈ (segments (resolveFrom "/a" ["", "/b/../c//", "d/"]).toList).tail,
          Segment.IsName component) ∧
    resolveFrom "e" ["/b/../c//", "d/"] = resolveFrom "/a" ["", "/b/../c//", "d/"] := by
  obtain ⟨-, habsolute, hnames, hsame⟩ := resolveFrom_eq_join "/a" ["", "/b/../c//", "d/"]
  have hrooted : absolute (resolveFrom "/a" ["", "/b/../c//", "d/"]) = true := by
    rw [habsolute]
    decide
  exact ⟨hrooted, hnames hrooted,
    hsame ["/a", ""] "/b/../c//" ["d/"] rfl (by decide) "e" ["/b/../c//", "d/"] ["e"] rfl⟩

end CallBench.Path
