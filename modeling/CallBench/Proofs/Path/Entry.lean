/-
# A path as an entry of its directory

Directory and last portion of a path, followed one after the other, lead where the path
leads. The directory of a path that names none is the single dot, that of a path of
separators is the root, and the portion may be missing; each of these is harmless, because
following it goes where the path goes. The two separators that the directory keeps in front
of a single portion are the root as well. Nothing is asked of the portion itself, which may
be a climb.
-/

import CallBench.Proofs.Path.Agreement
import CallBench.Proofs.Path.Composition

namespace CallBench.Path

theorem isAbsolute_of_notMem {path : List Char} (plain : separator ∉ path) :
    isAbsolute path = false := by
  rw [Bool.eq_false_iff]
  intro habsolute
  obtain ⟨rest, rfl⟩ := isAbsolute_iff.mp habsolute
  exact plain List.mem_cons_self

theorem isAbsolute_portion (path : List Char) : isAbsolute (portion path) = false :=
  isAbsolute_of_notMem (separator_notMem_portion path)

/-- A path and its directory start at the same place. -/
theorem isAbsolute_directory (path : List Char) :
    isAbsolute (directory path) = isAbsolute path := by
  cases cut path with
  | separators count =>
      rw [directory_separators]
      cases count <;> rfl
  | alone base portion count =>
      rw [directory_alone portion, isAbsolute_append portion.ne_nil,
        isAbsolute_of_notMem portion.separator_notMem]
      rfl
  | below front base portion count =>
      rw [directory_below front portion, List.append_assoc]
      by_cases hsingle : front = [separator]
      · rw [if_pos hsingle, hsingle]
        rfl
      · rw [if_neg hsingle, parent]
        by_cases hnil : front = []
        · rw [if_pos hnil, hnil]
          rfl
        · rw [if_neg hnil, isAbsolute_append hnil]

theorem walk_here (start : List Segment) : walk start [dot] = start :=
  rfl

theorem walk_root (start : List Segment) : walk start [separator] = [] :=
  rfl

/-- Separators at the end of a path have no part in where it leads. -/
theorem walk_append_separators {path : List Char} (hpath : path ≠ []) (count : Nat)
    (start : List Segment) :
    walk start (path ++ List.replicate count separator) = walk start path := by
  induction count with
  | zero => rw [List.replicate_zero, List.append_nil]
  | succ count ih =>
      have hfront : path ++ List.replicate count separator ≠ [] :=
        List.append_ne_nil_of_left_ne_nil hpath _
      rw [List.replicate_succ', ← List.append_assoc, walk_append_separator hfront rfl, walk_nil, ih]

theorem walk_separators (count : Nat) (start : List Segment) :
    walk start (List.replicate (count + 1) separator) = [] := by
  rw [List.replicate_succ, ← List.singleton_append,
    walk_append_separators (List.cons_ne_nil separator []), walk_root]

/-- Behind a separator a portion is followed from the directory in front of it. -/
theorem walk_below (front : List Char) {base : List Char} (relative : isAbsolute base = false)
    (start : List Segment) :
    walk start (front ++ separator :: base) = walk (walk start (parent front)) base := by
  by_cases hfront : front = []
  · rw [hfront, parent, if_pos rfl, walk_root, walk_of_relative relative, List.nil_append, walk,
      ← List.nil_append (separator :: base), segments_append_separator]
    rfl
  · rw [parent, if_neg hfront, walk_append_separator hfront relative]

theorem walk_directory_portion (path : List Char) (start : List Segment) :
    walk (walk start (directory path)) (portion path) = walk start path := by
  cases cut path with
  | separators count =>
      rw [directory_separators, portion_separators, walk_nil]
      cases count with
      | zero => exact walk_here start
      | succ count => rw [if_neg (Nat.succ_ne_zero count), walk_root, walk_separators]
  | alone base portion count =>
      rw [directory_alone portion, portion_alone portion, walk_here,
        walk_append_separators portion.ne_nil]
  | below front base portion count =>
      have hproper : front ++ separator :: base ≠ [] := by simp
      rw [directory_below front portion, portion_below front portion,
        walk_append_separators hproper,
        walk_below front (isAbsolute_of_notMem portion.separator_notMem)]
      by_cases hsingle : front = [separator]
      · -- Two separators lead to the root, as the one does that is in front of the second.
        rw [if_pos hsingle, hsingle]
        rfl
      · rw [if_neg hsingle]

theorem resolveChars_directory_portion (start path : List Char) :
    resolveChars start [directory path, portion path] = resolveChars start [path] := by
  apply resolveChars_eq_of_walk_eq
  · simp [isAbsolute_directory, isAbsolute_portion]
  · intro place
    exact walk_directory_portion path (walk place start)

/-- **A path is the entry of its directory that its last portion names.** Resolving the
directory and then the portion comes to where the path is resolved to, from any start. -/
theorem resolveFrom_dirname_basename (start path : String) :
    resolveFrom start [dirname path, basename path none] = resolveFrom start [path] := by
  have hparts : [dirname path, basename path none].map String.toList =
      [directory path.toList, portion path.toList] := by
    simp [dirname, basename]
  rw [resolveFrom, hparts, resolveChars_directory_portion, resolveFrom, List.map_singleton]

/-- The portion is a climb. -/
example : dirname "//../a//..//" = "//../a/" ∧ basename "//../a//..//" none = ".." ∧
    resolveFrom "" ["//../a/", ".."] = "/" := by
  decide

end CallBench.Path
