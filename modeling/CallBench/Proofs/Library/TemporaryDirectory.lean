/-
# The directory for temporary files

The directory is what the setting names, without the separators at its end. Where a path leads
does not depend on these, so nothing is lost with them. A setting of separators only is kept as
it is: it is the root, written with as many separators as the setting has.
-/

import CallBench.Library.Call
import CallBench.Proofs.Path.Entry
import CallBench.Proofs.Path.Reassembly
import CallBench.Proofs.Text.Encoding
import CallBench.Recording

namespace CallBench.OS

open CallBench.Path Text

theorem toList_trimSeparators (path : String) :
    (trimSeparators path).toList =
      if trimmed path.toList = [] then path.toList else trimmed path.toList := by
  rw [trimSeparators, take_trimmedLength_eq_trimmed, apply_ite String.toList,
    String.toList_ofList]

/-- A path of separators only stays as it is. -/
theorem trimSeparators_of_separators {path : String}
    (separators : ∀ c ∈ path.toList, c = separator) : trimSeparators path = path := by
  rw [← String.toList_inj, toList_trimSeparators, if_pos (trimmed_eq_nil_iff.mpr separators)]

/-- Any other path loses all separators at its end. -/
theorem getLast?_trimSeparators_ne {path : String}
    (proper : ¬ ∀ c ∈ path.toList, c = separator) :
    (trimSeparators path).toList.getLast? ≠ some separator := by
  rw [toList_trimSeparators, if_neg (mt trimmed_eq_nil_iff.mp proper)]
  exact getLast?_trimmed_ne path.toList

/-- Nothing but separators is cut off, and never all of a path. -/
theorem exists_trimSeparators_append (path : String) :
    ∃ count, path.toList = (trimSeparators path).toList ++ List.replicate count separator ∧
      (count ≠ 0 → (trimSeparators path).toList ≠ []) := by
  rw [toList_trimSeparators]
  by_cases hnil : trimmed path.toList = []
  · refine ⟨0, ?_, fun hcount => absurd rfl hcount⟩
    rw [if_pos hnil, List.replicate_zero, List.append_nil]
  · obtain ⟨count, hsplit⟩ := exists_trimmed_append path.toList
    rw [if_neg hnil]
    exact ⟨count, hsplit, fun _ => hnil⟩

/-- Separators behind a path have no part in what it is resolved to. -/
theorem resolveChars_append_separators {path : List Char} (hpath : path ≠ []) (count : Nat)
    (start : List Char) :
    resolveChars start [path ++ List.replicate count separator] = resolveChars start [path] := by
  apply resolveChars_eq_of_walk_eq
  · simp only [List.any_cons, isAbsolute_append hpath]
  · intro place
    exact walk_append_separators hpath count (walk place start)

theorem resolveFrom_trimSeparators (start path : String) :
    resolveFrom start [trimSeparators path] = resolveFrom start [path] := by
  obtain ⟨count, hsplit, hnonempty⟩ := exists_trimSeparators_append path
  have hchars : resolveChars start.toList [path.toList] =
      resolveChars start.toList [(trimSeparators path).toList] := by
    rw [hsplit]
    by_cases hcount : count = 0
    · rw [hcount, List.replicate_zero, List.append_nil]
    · exact resolveChars_append_separators (hnonempty hcount) count start.toList
  rw [resolveFrom, resolveFrom, List.map_singleton, List.map_singleton, hchars]

theorem tmpdirOf_encode (setting : String) :
    tmpdirOf (some (encode setting)) = trimSeparators setting := by
  rw [tmpdirOf, decodeLossy_encode]

theorem tmpdir_runFrom {ν σ : Type} (surroundings : Surroundings) (recording : Recording ν σ) :
    (tmpdir : Recorded ν σ String).runFrom surroundings recording =
      (.ok (tmpdirOf (surroundings.environment "TMPDIR")), recording) :=
  rfl

/-- **The directory for temporary files is the one that the setting names.** From everywhere it
leads where the setting leads, and the setting is the directory with separators behind it. It
does not end in a separator unless the setting consists of separators only, and then it is the
setting itself. -/
theorem tmpdir_leads_where_setting_leads {ν σ : Type} {surroundings : Surroundings}
    {setting : String} (hsetting : surroundings.environment "TMPDIR" = some (encode setting))
    (recording : Recording ν σ) :
    ∃ directory, (tmpdir : Recorded ν σ String).runFrom surroundings recording =
        (.ok directory, recording) ∧
      (∀ start, resolveFrom start [directory] = resolveFrom start [setting]) ∧
      (∃ count, setting.toList = directory.toList ++ List.replicate count separator) ∧
      ((¬ ∀ c ∈ setting.toList, c = separator) → directory.toList.getLast? ≠ some separator) ∧
      ((∀ c ∈ setting.toList, c = separator) → directory = setting) := by
  refine ⟨trimSeparators setting, ?_, ?_, ?_, ?_, ?_⟩
  · rw [tmpdir_runFrom, hsetting, tmpdirOf_encode]
  · exact fun start => resolveFrom_trimSeparators start setting
  · obtain ⟨count, hsplit, -⟩ := exists_trimSeparators_append setting
    exact ⟨count, hsplit⟩
  · exact getLast?_trimSeparators_ne
  · exact trimSeparators_of_separators

/-- A directory below two separators, with three behind it. -/
theorem tmpdir_of_trailing_separators :
    let surroundings : Surroundings :=
      ⟨.error .notFound, fun _ => some (encode "//é///"), .error .notFound, fun _ => .ofNanos 0⟩
    surroundings.environment "TMPDIR" = some (encode "//é///") ∧
      ∃ directory, (tmpdir : Recorded Empty Unit String).runFrom surroundings { state := () } =
          (.ok directory, { state := () }) ∧
        (∀ start, resolveFrom start [directory] = resolveFrom start ["//é///"]) ∧
        directory.toList.getLast? ≠ some separator := by
  intro surroundings
  have hsetting : surroundings.environment "TMPDIR" = some (encode "//é///") := rfl
  obtain ⟨directory, hrun, hleads, -, hproper, -⟩ :=
    tmpdir_leads_where_setting_leads hsetting ({ state := () } : Recording Empty Unit)
  have named : ¬ ∀ c ∈ "//é///".toList, c = separator :=
    fun all => absurd (all 'é' (by decide)) (by decide)
  exact ⟨hsetting, directory, hrun, hleads, hproper named⟩

/-- A setting of two separators is kept, though it ends in a separator and is not a single one. -/
theorem tmpdirOf_two_separators :
    ¬ ∀ setting : String,
      (tmpdirOf (some (encode setting))).toList.getLast? = some separator →
        tmpdirOf (some (encode setting)) = "/" := by
  intro single
  have hdouble := single "//"
  have htwo : "//".toList = List.replicate 2 separator := by decide
  have hall : ∀ c ∈ "//".toList, c = separator := by
    rw [htwo]
    exact fun _ => List.eq_of_mem_replicate
  rw [tmpdirOf_encode, trimSeparators_of_separators hall] at hdouble
  exact absurd (hdouble (by decide)) (by decide)

end CallBench.OS
