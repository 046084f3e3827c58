/-
# One path, asked in two ways

Directory, last portion, extension and name of a path can be asked for one by one, or all
at once by taking the path apart. The readers behind the two ways have nothing in common
but the path, and still they agree. They differ only where a path has no directory to
speak of, which is the single dot for the one and nothing for the other, and where a
single portion stands behind two separators, of which the other keeps only one.
-/

import CallBench.Proofs.Path.Parts

namespace CallBench.Path

section Units

variable {u : Type} [DecidableEq u] [PathUnit u]

theorem base_partsOf (path : List u) : (partsOf path).base = portion path := by
  cases cut path with
  | separators count => rw [partsOf_separators, portion_separators, Parts.of]
  | alone base portion count => rw [partsOf_alone portion, portion_alone portion, Parts.of]
  | below front base portion count =>
      rw [partsOf_below front portion, portion_below front portion, Parts.of]

theorem ext_partsOf (path : List u) : (partsOf path).ext = extension path := by
  cases cut path with
  | separators count => rw [partsOf_separators, extension_separators, Parts.of, extension_nil]
  | alone base portion count => rw [partsOf_alone portion, extension_alone portion, Parts.of]
  | below front base portion count =>
      rw [partsOf_below front portion, extension_below front portion, Parts.of]

theorem extension_portion (path : List u) : extension (portion path) = extension path := by
  rw [← base_partsOf, ← ext_partsOf path]
  rfl

theorem separator_notMem_portion (path : List u) : separator ∉ portion path := by
  cases cut path with
  | separators count => simp [portion_separators]
  | alone base portion count =>
      rw [portion_alone portion]
      exact portion.separator_notMem
  | below front base portion count =>
      rw [portion_below front portion]
      exact portion.separator_notMem

theorem length_portion_le (path : List u) : (portion path).length ≤ path.length := by
  have hsublist : (portion path).Sublist path :=
    (List.drop_sublist _ _).trans (List.take_sublist _ _)
  exact hsublist.length_le

/-- The extension of a path is neither all of its last portion nor the whole path, so
nothing keeps it from being cut off. -/
theorem portionWithout_extension (path : List u) :
    portionWithout path (extension path) = (partsOf path).name := by
  have hname : (partsOf path).name =
      (portion path).take ((portion path).length - (extension path).length) := by
    rw [← base_partsOf, ← ext_partsOf]
    rfl
  obtain ⟨name, hportion, hempty⟩ := exists_name (separator_notMem_portion path)
  rw [extension_portion] at hportion
  by_cases hext : extension path = []
  · rw [hname, portionWithout, hext]
    simp
  · have hshorter : (extension path).length < (portion path).length := by
      have hproper : name ≠ [] := by
        intro hnil
        have hboth := hempty hnil
        rw [hboth, hnil] at hportion
        exact hext hportion.symm
      rw [hportion, List.length_append]
      have hpositive := List.length_pos_iff.mpr hproper
      omega
    have hpath : extension path ≠ path := by
      intro heq
      have hlength := length_portion_le path
      rw [heq] at hshorter
      omega
    have hwhole : portion path ≠ extension path := by
      intro heq
      rw [heq] at hshorter
      omega
    have hsuffix : (extension path).isSuffixOf (portion path) :=
      List.isSuffixOf_iff_suffix.mpr ⟨name, hportion.symm⟩
    rw [hname, portionWithout, if_neg fun both => hpath both.2, if_pos ⟨hext, hwhole⟩,
      withoutSuffix, if_pos hsuffix]

/-- Whether a path is a single portion behind two separators. -/
def DoublyRooted (path : List u) : Prop :=
  ∃ base count, IsPortion base ∧
    path = [separator, separator] ++ base ++ List.replicate count separator

theorem directory_of_dir_nil {path : List u} (hdir : (partsOf path).dir = []) :
    directory path = [dot] := by
  cases cut path with
  | separators count =>
      cases count with
      | zero => rfl
      | succ count =>
          rw [partsOf_separators, List.replicate_succ, root_separator_cons] at hdir
          cases hdir
  | alone base portion count => exact directory_alone portion count
  | below front base portion count =>
      rw [partsOf_below front portion] at hdir
      by_cases hfront : front = [] <;> simp [Parts.of, parent, hfront] at hdir

theorem DoublyRooted.directory_eq {path : List u} (doublyRooted : DoublyRooted path) :
    directory path = [separator, separator] ∧ (partsOf path).dir = [separator] := by
  obtain ⟨base, count, portion, rfl⟩ := doublyRooted
  have hdirectory := directory_below [separator] portion count
  have hparts := partsOf_below [separator] portion count
  rw [if_pos rfl] at hdirectory
  exact ⟨hdirectory, congrArg Parts.dir hparts⟩

theorem directory_eq_dir {path : List u} (hdir : (partsOf path).dir ≠ [])
    (hsingle : ¬ DoublyRooted path) : directory path = (partsOf path).dir := by
  cases cut path with
  | separators count =>
      rw [partsOf_separators] at hdir ⊢
      cases count with
      | zero => exact absurd root_nil hdir
      | succ count =>
          rw [directory_separators, if_neg (Nat.succ_ne_zero count), List.replicate_succ,
            root_separator_cons]
          rfl
  | alone base portion count =>
      rw [partsOf_alone portion] at hdir
      exact absurd rfl hdir
  | below front base portion count =>
      have hfront : front ≠ [separator] := by
        rintro rfl
        exact hsingle ⟨base, count, portion, rfl⟩
      rw [directory_below front portion, if_neg hfront, partsOf_below front portion]
      rfl

end Units

/-- How the queries of a path agree with its parts. -/
structure AgreesWithParts (path : String) : Prop where
  basename_eq : basename path none = (parse path).base
  extname_eq : extname path = (parse path).ext
  name_eq : basename path (some (extname path)) = (parse path).name
  /-- Name and extension make up the last portion. -/
  name_append_ext : (parse path).name ++ (parse path).ext = (parse path).base
  /-- A path without a directory is in the directory itself. -/
  dirname_of_empty : (parse path).dir = "" → dirname path = "."
  /-- In front of a single portion two separators are kept. -/
  dirname_of_doublyRooted : DoublyRooted path.toList → dirname path = "//" ∧ (parse path).dir = "/"
  /-- In all other cases, and only in them, the directories are the same. -/
  dirname_eq_iff : dirname path = (parse path).dir ↔
    (parse path).dir ≠ "" ∧ ¬ DoublyRooted path.toList

/-- **The queries of a path agree with its parts.** The last portion, the extension and
the portion without the extension are the parts of these names, and name and extension
make up the portion. So does the directory, except in two cases: a path without one is
in the directory itself, and in front of a single portion two separators are kept. -/
theorem queries_agree_with_parts (path : String) : AgreesWithParts path := by
  have hdir : (parse path).dir = .ofList (partsOf path.toList).dir := rfl
  have hempty : (parse path).dir = "" ↔ (partsOf path.toList).dir = [] := by
    rw [hdir]
    exact String.ofList_inj
  have hnone : (parse path).dir = "" → dirname path = "." := by
    intro hnil
    rw [dirname, directory_of_dir_nil (hempty.mp hnil)]
    rfl
  have hdouble : DoublyRooted path.toList → dirname path = "//" ∧ (parse path).dir = "/" := by
    intro doublyRooted
    rw [dirname, hdir, doublyRooted.directory_eq.1, doublyRooted.directory_eq.2]
    exact ⟨rfl, rfl⟩
  refine ⟨?base, ?extension, ?name, ?appended, hnone, hdouble, ?exceptions, ?otherwise⟩
  case base =>
    rw [basename, ← base_partsOf]
    rfl
  case extension =>
    rw [extname, ← ext_partsOf]
    rfl
  case name =>
    rw [basename, extname, String.toList_ofList, portionWithout_extension]
    rfl
  case appended =>
    have happend := (wellFormed_partsOf path.toList).name_append_ext
    rw [parse, Parts.map, ← happend, String.ofList_append]
  case exceptions =>
    intro hequal
    constructor
    · intro hnil
      rw [hnone hnil, hnil] at hequal
      exact absurd hequal (by decide)
    · intro doublyRooted
      rw [(hdouble doublyRooted).1, (hdouble doublyRooted).2] at hequal
      exact absurd hequal (by decide)
  case otherwise =>
    rintro ⟨hnonempty, hsingle⟩
    rw [dirname, hdir, directory_eq_dir (mt hempty.mpr hnonempty) hsingle]

/-- A portion with a letter outside ASCII, behind two separators. -/
theorem queries_of_doubly_rooted :
    DoublyRooted "//é.b/".toList ∧ dirname "//é.b/" = "//" ∧ (parse "//é.b/").dir = "/" := by
  have doublyRooted : DoublyRooted "//é.b/".toList :=
    ⟨['é', '.', 'b'], 1, ⟨by decide, by decide⟩, by decide⟩
  exact ⟨doublyRooted, (queries_agree_with_parts "//é.b/").dirname_of_doublyRooted doublyRooted⟩

end CallBench.Path
