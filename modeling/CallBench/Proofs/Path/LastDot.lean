/-
# The extension, said by the last portion

The reader of extensions goes backwards through a path with marks for what it has seen.
Which extension it finds can be said without them: unless the last portion is the double
dot or has no dot behind its first unit, the extension is what starts at its last dot. Such
an extension is never all of the portion, and it has neither a second dot nor a separator
in it. What the portion starts with, and how many dots it has, makes no further difference.
-/

import CallBench.Proofs.Path.Agreement

namespace CallBench.Path

section Units

variable {u : Type} [DecidableEq u] [PathUnit u]

omit [DecidableEq u] in
/-- A dot is behind the first unit unless the last dot is that unit. -/
theorem dot_mem_tail_iff {stem tail : List u} (htail : dot ∉ tail) :
    dot ∈ (stem ++ dot :: tail).tail ↔ stem ≠ [] := by
  cases stem with
  | nil => simpa using htail
  | cons first stem => simp

omit [DecidableEq u] in
theorem eq_double_dot_iff {stem tail : List u} (htail : dot ∉ tail) :
    stem ++ dot :: tail = [dot, dot] ↔ stem = [dot] ∧ tail = [] := by
  constructor
  · intro hdouble
    cases stem with
    | nil =>
        have hsecond : tail = [dot] := by simpa using hdouble
        simp [hsecond] at htail
    | cons first stem => cases stem <;> simp_all
  · rintro ⟨rfl, rfl⟩
    rfl

/-- Whether no dot of a portion can begin an extension: the portion is the double dot, or no
dot is behind its first unit. -/
def Undotted (base : List u) : Prop :=
  base = [dot, dot] ∨ dot ∉ base.tail

omit [DecidableEq u] in
theorem undotted_iff {stem tail : List u} (htail : dot ∉ tail) :
    Undotted (stem ++ dot :: tail) ↔ stem = [] ∨ stem = [dot] ∧ tail = [] := by
  rw [Undotted, eq_double_dot_iff htail, dot_mem_tail_iff htail, Classical.not_not, or_comm]

theorem Undotted.extension_eq_nil {base : List u} (undotted : Undotted base)
    (plain : separator ∉ base) : extension base = [] := by
  by_cases hdot : dot ∈ base
  · obtain ⟨stem, tail, rfl, htail⟩ := exists_last_dot hdot
    rw [extension_eq_of_last_dot plain htail, if_pos ((undotted_iff htail).mp undotted)]
  · by_cases hnil : base = []
    · rw [hnil, extension_nil]
    · exact extension_eq_nil_of_no_dot ⟨hnil, plain⟩ hdot

/-- Any other portion has the extension that starts at its last dot. -/
theorem exists_extension {base : List u} (dotted : ¬ Undotted base) (plain : separator ∉ base) :
    ∃ stem tail, stem ≠ [] ∧ base = stem ++ extension base ∧ extension base = dot :: tail ∧
      dot ∉ tail ∧ separator ∉ extension base := by
  have hdot : dot ∈ base := by
    have hlater : dot ∈ base.tail := Classical.not_not.mp (not_or.mp dotted).2
    exact List.mem_of_mem_tail hlater
  obtain ⟨stem, tail, rfl, htail⟩ := exists_last_dot hdot
  have hkept := mt (undotted_iff htail).mpr dotted
  rw [extension_eq_of_last_dot plain htail, if_neg hkept]
  refine ⟨stem, tail, fun hnil => hkept (.inl hnil), rfl, rfl, htail, ?_⟩
  exact fun hmem => plain (List.mem_append_right stem hmem)

end Units

/-- **The extension starts at the last dot of the last portion.** There is none when the
portion is the double dot or has no dot behind its first character. Otherwise the portion
ends in it and has something in front of it, it begins with a dot, and neither another dot
nor a separator follows. -/
theorem extname_starts_at_last_dot (path : String) :
    (basename path none = ".." ∨ dot ∉ (basename path none).toList.tail → extname path = "") ∧
    (¬ (basename path none = ".." ∨ dot ∉ (basename path none).toList.tail) →
      ∃ stem tail : String, stem ≠ "" ∧ basename path none = stem ++ extname path ∧
        extname path = "." ++ tail ∧ dot ∉ tail.toList ∧ separator ∉ (extname path).toList) := by
  have hbase : (basename path none).toList = portion path.toList := String.toList_ofList
  have plain := separator_notMem_portion path.toList
  have hext : (extname path).toList = extension (portion path.toList) := by
    rw [extname, String.toList_ofList, extension_portion]
  have hundotted : (basename path none = ".." ∨ dot ∉ (basename path none).toList.tail) ↔
      Undotted (portion path.toList) := by
    rw [Undotted, ← String.toList_inj, hbase]
    rfl
  rw [hundotted]
  constructor
  · intro undotted
    rw [← String.toList_inj, hext, undotted.extension_eq_nil plain]
    rfl
  · intro dotted
    obtain ⟨stem, tail, hstem, hsplit, hstart, htail, hplain⟩ := exists_extension dotted plain
    refine ⟨.ofList stem, .ofList tail, ?_, ?_, ?_, ?_, ?_⟩
    · exact mt String.ofList_eq_empty_iff.mp hstem
    · rw [← String.toList_inj, String.toList_append, hbase, hext, String.toList_ofList]
      exact hsplit
    · rw [← String.toList_inj, String.toList_append, hext, hstart, String.toList_ofList,
        String.toList_ofList]
      rfl
    · rwa [String.toList_ofList]
    · rwa [hext]

/-- The double dot below a directory, and a hidden file with two more dots. -/
theorem extname_of_double_dot_and_hidden :
    (basename "a.b/.." none = ".." ∧ extname "a.b/.." = "") ∧
    ¬ (basename "a/.é.b.c//" none = ".." ∨ dot ∉ (basename "a/.é.b.c//" none).toList.tail) ∧
      ∃ stem tail : String, stem ≠ "" ∧
        basename "a/.é.b.c//" none = stem ++ extname "a/.é.b.c//" ∧
        extname "a/.é.b.c//" = "." ++ tail ∧ dot ∉ tail.toList ∧
        separator ∉ (extname "a/.é.b.c//").toList := by
  have hdouble : basename "a.b/.." none = ".." := by decide
  have hhidden : ¬ (basename "a/.é.b.c//" none = ".." ∨
      dot ∉ (basename "a/.é.b.c//" none).toList.tail) := by decide
  exact ⟨⟨hdouble, (extname_starts_at_last_dot "a.b/..").1 (.inl hdouble)⟩, hhidden,
    (extname_starts_at_last_dot "a/.é.b.c//").2 hhidden⟩

/-- Three dots have an extension, and so has a portion that ends in one. -/
example : extname "/..." = "." ∧ extname "a.b./" = "." ∧ extname "..a" = ".a" := by
  decide

end CallBench.Path
