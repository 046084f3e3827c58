/-
# Parts and their paths

The parts that a path is taken apart into are settled by two of them, the directory and
the last portion. Well-formed parts are those that such a pair stands for, and putting
them together gives a path that is taken apart into the same pair. So taking apart and
putting together are inverse to each other on well-formed parts, and nothing else ever
comes out of a path.
-/

import CallBench.Path
import CallBench.Proofs.Path.Extension

namespace CallBench.Path

section Units

variable {u : Type} [DecidableEq u] [PathUnit u]

theorem root_separator_cons (rest : List u) : root (separator :: rest) = [separator] := by
  simp [root]

theorem root_of_ne {first : u} (hfirst : first ≠ separator) (rest : List u) :
    root (first :: rest) = [] := by
  simp [root, hfirst]

theorem root_nil : root ([] : List u) = [] := by
  simp [root]

theorem root_eq_nil_or (path : List u) : root path = [] ∨ root path = [separator] := by
  cases path with
  | nil => exact .inl root_nil
  | cons first rest =>
      by_cases hfirst : first = separator
      · rw [hfirst]
        exact .inr (root_separator_cons rest)
      · exact .inl (root_of_ne hfirst rest)

/-- The root of a root is the root itself. -/
theorem root_root (path : List u) : root (root path) = root path := by
  rcases root_eq_nil_or path with hroot | hroot
  · rw [hroot, root_nil]
  · rw [hroot, root_separator_cons]

/-- What stands behind the separator does not count for the root. -/
theorem root_below (front rest : List u) :
    root (front ++ separator :: rest) = root (parent front) := by
  cases front with
  | nil => rw [List.nil_append, parent, if_pos rfl, root_separator_cons, root_separator_cons]
  | cons first front =>
      rw [parent, if_neg (List.cons_ne_nil first front), List.cons_append]
      by_cases hfirst : first = separator
      · rw [hfirst, root_separator_cons, root_separator_cons]
      · rw [root_of_ne hfirst, root_of_ne hfirst]

theorem root_alone {base : List u} (portion : IsPortion base) (rest : List u) :
    root (base ++ rest) = [] := by
  cases base with
  | nil => exact absurd rfl portion.ne_nil
  | cons first base =>
      have hfirst : first ≠ separator := fun heq =>
        portion.separator_notMem (heq ▸ List.mem_cons_self)
      exact root_of_ne hfirst (base ++ rest)

/-- The parts of a path with the given directory and last portion. -/
def Parts.of (dir base : List u) : Parts (List u) where
  root := Path.root dir
  dir := dir
  base := base
  ext := extension base
  name := base.take (base.length - (extension base).length)

theorem partsOf_separators (count : Nat) :
    partsOf (List.replicate count (separator : u)) =
      .of (root (List.replicate count separator)) [] := by
  rw [partsOf, take_trimmedLength_separators]
  simp [Parts.of, root_root]

theorem partsOf_alone {base : List u} (portion : IsPortion base) (count : Nat) :
    partsOf (base ++ List.replicate count separator) = .of [] base := by
  have htrimmed := take_trimmedLength (portion.getLast?_ne []) count
  rw [List.nil_append] at htrimmed
  simp [partsOf, htrimmed, portion.ne_nil, lastSeparator?_of_notMem portion.separator_notMem,
    Parts.of, root_alone portion, root_nil]

theorem partsOf_below (front : List u) {base : List u} (portion : IsPortion base)
    (count : Nat) :
    partsOf (front ++ separator :: base ++ List.replicate count separator) =
      .of (parent front) base := by
  have htrimmed := take_trimmedLength (portion.getLast?_below_ne front) count
  have hroot := root_below front (base ++ List.replicate count separator)
  rw [← List.cons_append, ← List.append_assoc] at hroot
  rw [partsOf, htrimmed, hroot, lastSeparator?_below front portion.separator_notMem]
  cases front with
  | nil => simp [Parts.of, parent]
  | cons first front => simp [Parts.of, parent]

end Units

theorem wellFormed_of {dir base : List Char} (plain : separator ∉ base)
    (hdir : base = [] → dir = root dir) : (Parts.of dir base).WellFormed where
  root_eq := rfl
  separator_notMem_base := plain
  dir_eq_root := hdir
  ext_eq := rfl
  name_append_ext := name_append_extension plain

/-- Well-formed parts are settled by the directory and the last portion. -/
theorem Parts.WellFormed.eq_of {parts : Parts (List Char)} (wellFormed : parts.WellFormed) :
    parts = .of parts.dir parts.base := by
  obtain ⟨root, dir, base, ext, name⟩ := parts
  have hroot : root = Path.root dir := wellFormed.root_eq
  have hext : ext = extension base := wellFormed.ext_eq
  have hname : base.take (base.length - ext.length) = name :=
    take_length_sub wellFormed.name_append_ext
  rw [hroot, ← hname, hext]
  rfl

/-- Whatever a path is, its parts agree with each other. -/
theorem wellFormed_partsOf (path : List Char) : (partsOf path).WellFormed := by
  cases cut path with
  | separators count =>
      rw [partsOf_separators]
      exact wellFormed_of List.not_mem_nil fun _ => (root_root _).symm
  | alone base portion count =>
      rw [partsOf_alone portion]
      exact wellFormed_of portion.separator_notMem fun hnil => absurd hnil portion.ne_nil
  | below front base portion count =>
      rw [partsOf_below front portion]
      exact wellFormed_of portion.separator_notMem fun hnil => absurd hnil portion.ne_nil

theorem assemble_of_nil {dir : List Char} (hdir : dir = root dir) :
    (Parts.of dir []).assemble = dir := by
  rw [Parts.assemble, Parts.of, extension_nil, ← hdir]
  by_cases hnil : dir = [] <;> simp [hnil, dotted]

theorem assemble_of_portion (dir : List Char) {base : List Char} (portion : IsPortion base) :
    (Parts.of dir base).assemble =
      if dir = [] then base
      else if dir = [separator] then separator :: base
      else dir ++ separator :: base := by
  rw [Parts.assemble, Parts.of]
  cases dir with
  | nil => simp [portion.ne_nil, root_nil]
  | cons first rest =>
      by_cases hroot : first :: rest = [separator]
      · simp [hroot, portion.ne_nil, root_separator_cons]
      · have hproper : first :: rest ≠ root (first :: rest) := by
          intro heq
          rcases root_eq_nil_or (first :: rest) with hnil | hseparator
          · exact List.cons_ne_nil first rest (heq.trans hnil)
          · exact hroot (heq.trans hseparator)
        simp only [List.cons_ne_nil, if_false, hroot, hproper, portion.ne_nil]

/-- A path that has been put together from well-formed parts is taken apart into them. -/
theorem Parts.WellFormed.partsOf_assemble {parts : Parts (List Char)}
    (wellFormed : parts.WellFormed) : partsOf parts.assemble = parts := by
  have hof := wellFormed.eq_of
  have hroot := wellFormed.dir_eq_root
  rw [wellFormed.root_eq] at hroot
  have hplain := wellFormed.separator_notMem_base
  generalize parts.dir = dir at hof hroot
  generalize parts.base = base at hof hroot hplain
  rw [hof]
  by_cases hbase : base = []
  · subst hbase
    have hdir : dir = Path.root dir := hroot rfl
    rw [assemble_of_nil hdir]
    rcases root_eq_nil_or dir with hnil | hseparator
    · rw [hdir, hnil]
      exact partsOf_separators 0
    · rw [hdir, hseparator]
      exact partsOf_separators 1
  · have portion : IsPortion base := ⟨hbase, hplain⟩
    rw [assemble_of_portion dir portion]
    have hbelow (front : List Char) :
        partsOf (front ++ separator :: base) = .of (parent front) base := by
      have htrailing := partsOf_below front portion 0
      rwa [List.replicate_zero, List.append_nil] at htrailing
    by_cases hnil : dir = []
    · have htrailing := partsOf_alone portion 0
      rw [List.replicate_zero, List.append_nil] at htrailing
      rw [if_pos hnil, htrailing, hnil]
    · rw [if_neg hnil]
      by_cases hseparator : dir = [separator]
      · rw [if_pos hseparator, hseparator]
        exact hbelow []
      · rw [if_neg hseparator, hbelow dir, parent, if_neg hnil]

theorem toList_parse (path : String) : (parse path).map String.toList = partsOf path.toList := by
  simp [parse, Parts.map]

/-- **Taking a path apart and putting parts together are inverse to each other.** The
parts of any path are well-formed, and any well-formed parts are those of the path that
they are put together into. So a path may be put together again and again without its
parts changing. -/
theorem parse_format_inverse :
    (∀ path : String, ((parse path).map String.toList).WellFormed) ∧
    (∀ parts : Parts String, (parts.map String.toList).WellFormed →
      parse (format parts) = parts) ∧
    ∀ path : String, parse (format (parse path)) = parse path := by
  have hparts (path : String) : ((parse path).map String.toList).WellFormed := by
    rw [toList_parse]
    exact wellFormed_partsOf path.toList
  have hinverse (parts : Parts String) (wellFormed : (parts.map String.toList).WellFormed) :
      parse (format parts) = parts := by
    rw [parse, format, String.toList_ofList, wellFormed.partsOf_assemble]
    simp [Parts.map]
  exact ⟨hparts, hinverse, fun path => hinverse (parse path) (hparts path)⟩

/-- A hidden file with an extension, below a directory that ends in a separator. -/
theorem parse_format_hidden_file :
    ((⟨"/", "//a/", ".b..c", ".c", ".b."⟩ : Parts String).map String.toList).WellFormed ∧
    parse (format ⟨"/", "//a/", ".b..c", ".c", ".b."⟩) = ⟨"/", "//a/", ".b..c", ".c", ".b."⟩ := by
  have wellFormed :
      ((⟨"/", "//a/", ".b..c", ".c", ".b."⟩ : Parts String).map String.toList).WellFormed :=
    ⟨by decide, by decide, by decide, by decide, by decide⟩
  exact ⟨wellFormed, parse_format_inverse.2.1 _ wellFormed⟩

end CallBench.Path
