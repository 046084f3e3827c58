/-
# Climbing to the top

Asking for the directory of a directory, and so on, comes to an end: at the root for an
absolute path, at the directory itself for a relative one. A directory is a proper front of
its path or one of these two, so it is shorter, except that nothing is shorter than a single
byte. The empty path and two separators in front of a portion need no case of their own:
the one has a directory longer than itself, but of one byte, and the others are a proper
front.
-/

import CallBench.Proofs.Path.Entry
import Mathlib.Logic.Function.Iterate

namespace CallBench.Path

/-- A directory is the directory itself, the root, or a proper front of its path. -/
theorem directory_cases {u : Type} [DecidableEq u] [PathUnit u] (path : List u) :
    directory path = [dot] ∨ directory path = [separator] ∨
      directory path ≠ [] ∧ ∃ rest, rest ≠ [] ∧ path = directory path ++ rest := by
  cases cut path with
  | separators count =>
      rw [directory_separators]
      by_cases hcount : count = 0
      · exact .inl (if_pos hcount)
      · exact .inr (.inl (if_neg hcount))
  | alone base portion count => exact .inl (directory_alone portion count)
  | below front base portion count =>
      rw [directory_below front portion, parent]
      by_cases hsingle : front = [separator]
      · rw [if_pos hsingle, hsingle]
        have hrest : base ++ List.replicate count separator ≠ [] :=
          List.append_ne_nil_of_left_ne_nil portion.ne_nil _
        exact .inr (.inr ⟨List.cons_ne_nil _ _, _, hrest, by simp⟩)
      · rw [if_neg hsingle]
        by_cases hnil : front = []
        · exact .inr (.inl (if_pos hnil))
        · rw [if_neg hnil, List.append_assoc]
          exact .inr (.inr ⟨hnil, _, List.append_ne_nil_of_left_ne_nil (by simp) _, rfl⟩)

theorem absolute_dirname (path : String) : absolute (dirname path) = absolute path := by
  rw [absolute, dirname, String.toList_ofList, isAbsolute_directory, absolute]

/-- Where climbing from a path ends. -/
def top (path : String) : String :=
  if absolute path then "/" else "."

theorem top_dirname (path : String) : top (dirname path) = top path := by
  rw [top, absolute_dirname, top]

/-- Unless it is the end of the climb, the directory of a path is a proper front of it. -/
theorem dirname_cases (path : String) :
    dirname path = top path ∨
      dirname path ≠ "" ∧ ∃ rest, rest ≠ "" ∧ path = dirname path ++ rest := by
  have habsolute := absolute_dirname path
  rcases directory_cases path.toList with hhere | hroot | ⟨hnil, rest, hrest, hpath⟩
  · left
    rw [dirname, hhere] at habsolute ⊢
    rw [top, ← habsolute]
    rfl
  · left
    rw [dirname, hroot] at habsolute ⊢
    rw [top, ← habsolute]
    rfl
  · right
    refine ⟨mt String.ofList_eq_empty_iff.mp hnil, .ofList rest,
      mt String.ofList_eq_empty_iff.mp hrest, ?_⟩
    rw [dirname, ← String.ofList_append, ← hpath, String.ofList_toList]

theorem utf8ByteSize_top (path : String) : (top path).utf8ByteSize = 1 := by
  rw [top]
  split <;> rfl

theorem utf8ByteSize_pos {text : String} (hne : text ≠ "") : 0 < text.utf8ByteSize :=
  Nat.pos_of_ne_zero (mt String.utf8ByteSize_eq_zero_iff.mp hne)

theorem utf8ByteSize_dirname_lt {path : String} (hsize : 2 ≤ path.utf8ByteSize) :
    (dirname path).utf8ByteSize < path.utf8ByteSize := by
  rcases dirname_cases path with htop | ⟨-, rest, hrest, hpath⟩
  · rw [htop, utf8ByteSize_top]
    exact hsize
  · have hpositive := utf8ByteSize_pos hrest
    have happend := congrArg String.utf8ByteSize hpath
    rw [String.utf8ByteSize_append] at happend
    omega

theorem dirname_eq_top {path : String} (hsize : path.utf8ByteSize ≤ 1) :
    dirname path = top path := by
  rcases dirname_cases path with htop | ⟨hne, rest, hrest, hpath⟩
  · exact htop
  · have hdirectory := utf8ByteSize_pos hne
    have hpositive := utf8ByteSize_pos hrest
    have happend := congrArg String.utf8ByteSize hpath
    rw [String.utf8ByteSize_append] at happend
    omega

/-- As many steps as the path has bytes are enough, and one for the empty path. -/
theorem iterate_dirname {count : Nat} {path : String} (hsize : path.utf8ByteSize ≤ count + 1) :
    dirname^[count + 1] path = top path := by
  induction count generalizing path with
  | zero => exact dirname_eq_top hsize
  | succ count ih =>
      have hshorter : (dirname path).utf8ByteSize ≤ count + 1 := by
        by_cases hsmall : path.utf8ByteSize ≤ 1
        · rw [dirname_eq_top hsmall, utf8ByteSize_top]
          exact Nat.le_add_left 1 count
        · have hlt := utf8ByteSize_dirname_lt (Nat.lt_of_not_le hsmall)
          omega
      rw [Function.iterate_succ_apply, ih hshorter, top_dirname]

theorem dirname_eq_self_iff (path : String) : dirname path = path ↔ path = "/" ∨ path = "." := by
  constructor
  · intro hself
    have hsmall : path.utf8ByteSize ≤ 1 := by
      apply Nat.le_of_not_lt
      intro hsize
      have hlt := utf8ByteSize_dirname_lt hsize
      rw [hself] at hlt
      exact Nat.lt_irrefl _ hlt
    rw [dirname_eq_top hsmall, top] at hself
    split at hself
    · exact .inl hself.symm
    · exact .inr hself.symm
  · rintro (rfl | rfl) <;> rfl

/-- **Climbing ends at the top.** A directory is absolute exactly when its path is, and that of
a path of two bytes or more is shorter than the path. Within as many steps as the path has
bytes, and one for the empty path, the climb comes to the root if the path is absolute and to
the directory itself if it is not, and there it stays. Nowhere else does a step lead back to
where it started. -/
theorem dirname_climbs_to_top (path : String) :
    absolute (dirname path) = absolute path ∧
    (2 ≤ path.utf8ByteSize → (dirname path).utf8ByteSize < path.utf8ByteSize) ∧
    (∃ steps ≤ max 1 path.utf8ByteSize, ∀ later ≥ steps,
      dirname^[later] path = if absolute path then "/" else ".") ∧
    (dirname path = path ↔ path = "/" ∨ path = ".") := by
  refine ⟨absolute_dirname path, utf8ByteSize_dirname_lt, ⟨_, Nat.le_refl _, ?_⟩,
    dirname_eq_self_iff path⟩
  intro later hlater
  obtain ⟨hone, hsize⟩ := Nat.max_le.mp hlater
  obtain ⟨count, rfl⟩ := Nat.exists_eq_add_of_le' hone
  exact iterate_dirname hsize

/-- Two letters, of which one takes two bytes, behind two separators. -/
theorem dirname_climbs_from_doubly_rooted :
    2 ≤ "//éa".utf8ByteSize ∧ (dirname "//éa").utf8ByteSize < "//éa".utf8ByteSize ∧
      dirname "//éa" = "//" ∧ dirname "//" = "/" := by
  have hsize : 2 ≤ "//éa".utf8ByteSize := by decide
  exact ⟨hsize, (dirname_climbs_to_top "//éa").2.1 hsize, by decide, by decide⟩

end CallBench.Path
