/-
# Putting a path together again

A path that is taken apart and put together again comes back without the separators at its
end, and hardly anything else is lost. What is lost besides is the root written more than
once: a path of separators only comes back as the root, and of two separators in front of a
single portion one is kept. The last portion may be left out from the parts, since name and
extension make it up again.
-/

import CallBench.Proofs.Path.Parts
import Mathlib.Data.List.DropRight

namespace CallBench.Path

section Units

variable {u : Type} [DecidableEq u] [PathUnit u]

/-- A path without the separators at its end. -/
def trimmed (path : List u) : List u :=
  path.rdropWhile (· = separator)

theorem take_trimmedLength_eq_trimmed (path : List u) :
    path.take (trimmedLength path) = trimmed path := by
  have hlength : trimmedLength path = (trimmed path).length := by
    rw [trimmed, List.rdropWhile, List.length_reverse, trimmedLength]
  rw [hlength]
  exact (List.prefix_iff_eq_take.mp (List.rdropWhile_prefix _ path)).symm

/-- What is cut off from a path are separators. -/
theorem exists_trimmed_append (path : List u) :
    ∃ count, path = trimmed path ++ List.replicate count separator := by
  refine ⟨(path.rtakeWhile (· = separator)).length, ?_⟩
  have hseparators : ∀ unit ∈ path.rtakeWhile (· = separator), unit = separator := by
    intro unit hmem
    simpa using List.mem_rtakeWhile_imp hmem
  rw [← List.eq_replicate_of_mem hseparators, trimmed, List.rdropWhile_append_rtakeWhile]

theorem getLast?_trimmed_ne (path : List u) : (trimmed path).getLast? ≠ some separator := by
  intro hlast
  have hnonempty : trimmed path ≠ [] := fun hnil => by simp [hnil] at hlast
  rw [List.getLast?_eq_some_getLast hnonempty, Option.some_inj] at hlast
  exact List.rdropWhile_last_not _ path hnonempty (decide_eq_true hlast)

theorem trimmed_eq_nil_iff {path : List u} :
    trimmed path = [] ↔ ∀ unit ∈ path, unit = separator := by
  rw [trimmed, List.rdropWhile_eq_nil_iff]
  simp only [decide_eq_true_eq]

theorem trimmed_separators (count : Nat) :
    trimmed (List.replicate count (separator : u)) = [] := by
  rw [← take_trimmedLength_eq_trimmed, take_trimmedLength_separators]

theorem trimmed_alone {base : List u} (portion : IsPortion base) (count : Nat) :
    trimmed (base ++ List.replicate count separator) = base := by
  rw [← take_trimmedLength_eq_trimmed]
  exact take_trimmedLength (portion.getLast?_ne []) count

theorem trimmed_below (front : List u) {base : List u} (portion : IsPortion base) (count : Nat) :
    trimmed (front ++ separator :: base ++ List.replicate count separator) =
      front ++ separator :: base := by
  rw [← take_trimmedLength_eq_trimmed]
  exact take_trimmedLength (portion.getLast?_below_ne front) count

/-- Where the last portion starts is settled by the path. -/
theorem front_eq_of_below_eq {front other base rest : List u} (hbase : separator ∉ base)
    (hrest : separator ∉ rest) (heq : front ++ separator :: base = other ++ separator :: rest) :
    front = other ∧ base = rest := by
  have hlength : front.length = other.length := by
    have hlast := lastSeparator?_below front hbase
    rw [heq, lastSeparator?_below other hrest] at hlast
    exact (Option.some.inj hlast).symm
  obtain ⟨hfront, hportion⟩ := List.append_inj heq hlength
  exact ⟨hfront, (List.cons.inj hportion).2⟩

end Units

theorem assemble_partsOf_separators (count : Nat) :
    (partsOf (List.replicate count (separator : Char))).assemble =
      root (List.replicate count separator) := by
  rw [partsOf_separators, assemble_of_nil (root_root _).symm]

theorem assemble_partsOf_alone {base : List Char} (portion : IsPortion base) (count : Nat) :
    (partsOf (base ++ List.replicate count separator)).assemble = base := by
  rw [partsOf_alone portion, assemble_of_portion [] portion, if_pos rfl]

theorem assemble_partsOf_below (front : List Char) {base : List Char} (portion : IsPortion base)
    (count : Nat) :
    (partsOf (front ++ separator :: base ++ List.replicate count separator)).assemble =
      if front = [separator] then separator :: base else front ++ separator :: base := by
  rw [partsOf_below front portion, assemble_of_portion _ portion, parent]
  by_cases hfront : front = []
  · simp [hfront]
  · simp [hfront]

theorem assemble_partsOf_of_only_separators {path : List Char} (hpath : path ≠ [])
    (honly : trimmed path = []) : (partsOf path).assemble = [separator] := by
  cases cut path with
  | separators count =>
      cases count with
      | zero => exact absurd rfl hpath
      | succ count =>
          rw [assemble_partsOf_separators, List.replicate_succ, root_separator_cons]
  | alone base portion count =>
      rw [trimmed_alone portion] at honly
      exact absurd honly portion.ne_nil
  | below front base portion count =>
      rw [trimmed_below front portion] at honly
      exact absurd honly (by simp)

/-- Of two separators in front of a single portion one is kept. -/
theorem assemble_partsOf_of_doubled_root {path base : List Char} (plain : separator ∉ base)
    (hdoubled : trimmed path = [separator, separator] ++ base) :
    (partsOf path).assemble = separator :: base := by
  cases cut path with
  | separators count =>
      rw [trimmed_separators] at hdoubled
      cases hdoubled
  | alone other portion count =>
      rw [trimmed_alone portion] at hdoubled
      exact absurd (hdoubled ▸ List.mem_cons_self) portion.separator_notMem
  | below front other portion count =>
      rw [trimmed_below front portion] at hdoubled
      have hsplit : front ++ separator :: other = [separator] ++ separator :: base := hdoubled
      obtain ⟨rfl, rfl⟩ := front_eq_of_below_eq portion.separator_notMem plain hsplit
      rw [assemble_partsOf_below _ portion, if_pos rfl]

/-- Everything else comes back as it was, without the separators at its end. -/
theorem assemble_partsOf_of_proper {path : List Char} (hproper : trimmed path ≠ [])
    (hsingle : ∀ base, trimmed path = [separator, separator] ++ base → separator ∈ base) :
    (partsOf path).assemble = trimmed path := by
  cases cut path with
  | separators count => exact absurd (trimmed_separators count) hproper
  | alone base portion count => rw [assemble_partsOf_alone portion, trimmed_alone portion]
  | below front base portion count =>
      rw [trimmed_below front portion] at hsingle
      have hfront : front ≠ [separator] := by
        rintro rfl
        exact portion.separator_notMem (hsingle base rfl)
      rw [assemble_partsOf_below front portion, if_neg hfront, trimmed_below front portion]

theorem dotted_extension {base : List Char} (plain : separator ∉ base) :
    dotted (extension base) = extension base := by
  rcases extension_eq_nil_or_dot_cons plain with hnil | ⟨tail, htail⟩
  · rw [hnil, dotted, if_pos (.inl rfl)]
  · rw [htail, dotted, if_pos (.inr rfl)]

/-- Name and extension stand for the last portion when it is missing. -/
theorem Parts.WellFormed.assemble_without_base {parts : Parts (List Char)}
    (wellFormed : parts.WellFormed) : { parts with base := [] }.assemble = parts.assemble := by
  have hbase : parts.name ++ dotted parts.ext = parts.base := by
    rw [wellFormed.ext_eq, dotted_extension wellFormed.separator_notMem_base,
      ← wellFormed.ext_eq, wellFormed.name_append_ext]
  rw [assemble, assemble]
  simp [hbase]

/-- **Putting together what was taken apart loses two things.** The path comes back without
the separators at its end, except that a path of separators only comes back as the root, and
that of two separators in front of a single portion one comes back. The last portion of the
parts may be left out: it is made up again from name and extension. -/
theorem format_parse_eq_trimmed (path : String) :
    (path = "" → format (parse path) = "") ∧
    (path ≠ "" → trimmed path.toList = [] → format (parse path) = "/") ∧
    (∀ base, separator ∉ base → trimmed path.toList = [separator, separator] ++ base →
      (format (parse path)).toList = separator :: base) ∧
    (trimmed path.toList ≠ [] →
      (∀ base, trimmed path.toList = [separator, separator] ++ base → separator ∈ base) →
        (format (parse path)).toList = trimmed path.toList) ∧
    format { parse path with base := "" } = format (parse path) := by
  have hchars : (format (parse path)).toList = (partsOf path.toList).assemble := by
    rw [format, toList_parse, String.toList_ofList]
  refine ⟨?_, ?_, ?_, ?_, ?_⟩
  · rintro rfl
    rfl
  · intro hpath honly
    rw [← String.toList_inj, hchars]
    exact assemble_partsOf_of_only_separators (mt String.toList_eq_nil_iff.mp hpath) honly
  · intro base plain hdoubled
    rw [hchars, assemble_partsOf_of_doubled_root plain hdoubled]
  · intro hproper hsingle
    rw [hchars, assemble_partsOf_of_proper hproper hsingle]
  · have hwithout := (wellFormed_partsOf path.toList).assemble_without_base
    rw [← toList_parse] at hwithout
    have hmap : Parts.map String.toList { parse path with base := "" } =
        { (parse path).map String.toList with base := [] } := by
      rw [Parts.map, Parts.map, String.toList_empty]
    rw [format, hmap, hwithout, format]

/-- Separators only, a portion with a letter outside ASCII behind two of them, and a path in
which two of them are kept. -/
theorem format_parse_of_separators :
    ("///" ≠ "" ∧ trimmed "///".toList = [] ∧ format (parse "///") = "/") ∧
    (separator ∉ "é.b".toList ∧
      trimmed "//é.b//".toList = [separator, separator] ++ "é.b".toList ∧
      (format (parse "//é.b//")).toList = separator :: "é.b".toList) ∧
    trimmed "//a//b/".toList ≠ [] ∧
      (∀ base, trimmed "//a//b/".toList = [separator, separator] ++ base → separator ∈ base) ∧
      (format (parse "//a//b/")).toList = trimmed "//a//b/".toList := by
  have hpath : "///" ≠ "" := by decide
  have honly : trimmed "///".toList = [] := by decide
  have plain : separator ∉ "é.b".toList := by decide
  have hdoubled : trimmed "//é.b//".toList = [separator, separator] ++ "é.b".toList := by decide
  have hproper : trimmed "//a//b/".toList ≠ [] := by decide
  have hsingle (base : List Char)
      (hsplit : trimmed "//a//b/".toList = [separator, separator] ++ base) :
      separator ∈ base := by
    have hboth : [separator, separator] ++ "a//b".toList = [separator, separator] ++ base := hsplit
    rw [← List.append_cancel_left hboth]
    decide
  obtain ⟨-, separators, -⟩ := format_parse_eq_trimmed "///"
  obtain ⟨-, -, doubled, -⟩ := format_parse_eq_trimmed "//é.b//"
  obtain ⟨-, -, -, proper, -⟩ := format_parse_eq_trimmed "//a//b/"
  exact ⟨⟨hpath, honly, separators hpath honly⟩, ⟨plain, hdoubled, doubled _ plain hdoubled⟩,
    hproper, hsingle, proper hproper hsingle⟩

end CallBench.Path
