/-
# The extension of a portion

The extension is found by reading the last portion backwards with a few marks: where it
ends, its last dot, and what it starts with. Read forwards, it is simply what follows from
the last dot on, unless nothing is in front of that dot or the portion is the double dot.
Separators at the end and the directory in front do not change it, so a path and its last
portion have the same extension.
-/

import CallBench.Proofs.Path.Cut

namespace CallBench.Path

variable {u : Type} [DecidableEq u] [PathUnit u]

/-- Takes in the units of a portion, one after the other. -/
def ExtensionScan.readAll (scan : ExtensionScan) (items : List (u × Nat)) : ExtensionScan :=
  items.foldl (fun scan item => scan.read item.1 item.2) scan

theorem ExtensionScan.readAll_cons (scan : ExtensionScan) (item : u × Nat)
    (items : List (u × Nat)) :
    scan.readAll (item :: items) = (scan.read item.1 item.2).readAll items :=
  rfl

theorem ExtensionScan.readAll_append (scan : ExtensionScan) (first second : List (u × Nat)) :
    scan.readAll (first ++ second) = (scan.readAll first).readAll second :=
  List.foldl_append

theorem scanExtension_plain {items : List (u × Nat)} (plain : Plain items)
    (rest : List (u × Nat)) (scan : ExtensionScan) :
    scanExtension (items ++ rest) scan = scanExtension rest (scan.readAll items) := by
  induction items generalizing scan with
  | nil => rfl
  | cons item items ih =>
      obtain ⟨hitem, hitems⟩ := List.forall_mem_cons.mp plain
      rw [List.cons_append, scanExtension, if_neg hitem, ih hitems]
      rfl

theorem scanExtension_bare {items : List (u × Nat)} (bare : Bare items)
    (rest : List (u × Nat)) {scan : ExtensionScan} (hscan : scan.finish = none) :
    scanExtension (items ++ rest) scan = scanExtension rest scan := by
  induction items with
  | nil => rfl
  | cons item items ih =>
      obtain ⟨hitem, hitems⟩ := List.forall_mem_cons.mp bare
      rw [List.cons_append, scanExtension, if_pos hitem, hscan, if_pos Option.isNone_none,
        ih hitems]

/-- Whether a portion can begin behind some units. -/
def Opens (before : List u) : Prop :=
  before = [] ∨ ∃ front, before = front ++ [separator]

/-- The reading stops where the portion begins. -/
theorem scanExtension_opens {before : List u} (opens : Opens before) {scan : ExtensionScan}
    (hfinish : scan.finish.isSome) (hstart : scan.start = 0) :
    scanExtension (backwardsFrom 0 before) scan = { scan with start := before.length } := by
  rcases opens with rfl | ⟨front, rfl⟩
  · show scan = { scan with start := 0 }
    rw [← hstart]
  · have hnone : ¬ scan.finish.isNone = true := by
      rw [Option.isNone_iff_eq_none]
      exact Option.isSome_iff_ne_none.mp hfinish
    rw [backwardsFrom_concat, scanExtension, if_pos rfl, if_neg hnone, Nat.zero_add,
      List.length_append]
    rfl

/-- Without a dot nothing changes once the end is known. -/
theorem readAll_of_no_dot {items : List (u × Nat)} (plain : ∀ item ∈ items, item.1 ≠ dot)
    (finish : Nat) :
    ExtensionScan.readAll { finish := some finish } items = { finish := some finish } := by
  induction items with
  | nil => rfl
  | cons item items ih =>
      obtain ⟨hitem, hitems⟩ := List.forall_mem_cons.mp plain
      have hread : ExtensionScan.read { finish := some finish } item.1 item.2 =
          { finish := some finish } := by
        simp [ExtensionScan.read, hitem]
      rw [ExtensionScan.readAll_cons, hread, ih hitems]

/-- Behind the last dot only the end is marked. -/
theorem readAll_tail {tail : List u} (htail : dot ∉ tail) (nonempty : tail ≠ []) (start : Nat) :
    ExtensionScan.readAll {} (backwardsFrom start tail) =
      { finish := some (start + tail.length) } := by
  rcases List.eq_nil_or_concat tail with rfl | ⟨front, last, rfl⟩
  · exact absurd rfl nonempty
  · rw [List.concat_eq_append] at htail ⊢
    rw [List.mem_append, List.mem_singleton, not_or] at htail
    have hlast : ExtensionScan.read {} last (start + front.length) =
        { finish := some (start + front.length + 1) } := by
      simp [ExtensionScan.read, Ne.symm htail.2]
    have hfront : ∀ item ∈ backwardsFrom start front, item.1 ≠ dot :=
      fun _ hmem heq => htail.1 (heq ▸ fst_mem_of_mem_backwardsFrom hmem)
    rw [backwardsFrom_concat, ExtensionScan.readAll_cons, hlast, readAll_of_no_dot hfront,
      List.length_append]
    rfl

/-- Up to the last dot, the end and the dot are marked. -/
theorem readAll_dot_cons {tail : List u} (htail : dot ∉ tail) (start : Nat) :
    ExtensionScan.readAll {} (backwardsFrom start (dot :: tail)) =
      { finish := some (start + (tail.length + 1)), lastDot := some start } := by
  rw [backwardsFrom_cons, ExtensionScan.readAll_append]
  by_cases hnil : tail = []
  · rw [hnil]
    simp [backwardsFrom, ExtensionScan.readAll, ExtensionScan.read]
  · rw [readAll_tail htail hnil, ExtensionScan.readAll_cons, Nat.add_assoc, Nat.add_comm 1]
    simp [ExtensionScan.read, ExtensionScan.readAll]

/-- What a portion with the given stem before its last dot starts with. -/
def BeforeDot.ofStem : List u → BeforeDot
  | [] => .nothing
  | first :: _ => if first = PathUnit.dot then .dot else .other

/-- In front of the last dot only the first unit counts. -/
theorem readAll_stem (stem : List u) (start finish lastDot : Nat) :
    ExtensionScan.readAll { finish := some finish, lastDot := some lastDot }
        (backwardsFrom start stem) =
      { finish := some finish, lastDot := some lastDot, before := .ofStem stem } := by
  induction stem generalizing start with
  | nil => rfl
  | cons first rest ih =>
      rw [backwardsFrom_cons, ExtensionScan.readAll_append, ih, ExtensionScan.readAll_cons]
      rfl

theorem scanExtension_separators (count : Nat) :
    scanExtension (backwardsFrom 0 (List.replicate count (separator : u))) {} = {} := by
  have hfinish : ({} : ExtensionScan).finish = none := rfl
  have hscan := scanExtension_bare (bare_backwardsFrom (u := u) 0 count) [] hfinish
  rwa [List.append_nil] at hscan

/-- A path is read by taking in its last portion. -/
theorem scanExtension_portion {before base : List u} (opens : Opens before)
    (plain : separator ∉ base) (count : Nat) {scan : ExtensionScan}
    (hread : ExtensionScan.readAll {} (backwardsFrom before.length base) = scan)
    (hfinish : scan.finish.isSome) (hstart : scan.start = 0) :
    scanExtension (backwards (before ++ base ++ List.replicate count separator)) {} =
      { scan with start := before.length } := by
  rw [backwards, ← backwardsFrom, backwardsFrom_append, scanExtension_bare
    (bare_backwardsFrom _ count) _ rfl, backwardsFrom_append, Nat.zero_add,
    scanExtension_plain (plain_backwardsFrom plain _), hread,
    scanExtension_opens opens hfinish hstart]

theorem extensionSpan?_separators (count : Nat) :
    extensionSpan? (List.replicate count (separator : u)) = none := by
  rw [extensionSpan?, backwards, ← backwardsFrom, scanExtension_separators]

theorem extensionSpan?_of_no_dot {before base : List u} (opens : Opens before)
    (portion : IsPortion base) (hdot : dot ∉ base) (count : Nat) :
    extensionSpan? (before ++ base ++ List.replicate count separator) = none := by
  rw [extensionSpan?, scanExtension_portion opens portion.separator_notMem count
    (readAll_tail hdot portion.ne_nil _) rfl rfl]

/-- The marks rule an extension out exactly when nothing is in front of the dot, or when
the portion is the double dot. -/
theorem ofStem_rules_out_iff (stem tail : List u) (start : Nat) :
    (BeforeDot.ofStem stem = .nothing ∨ BeforeDot.ofStem stem = .dot ∧
        start + stem.length + 1 = start + stem.length + (tail.length + 1) ∧
        start + stem.length = start + 1) ↔
      stem = [] ∨ stem = [dot] ∧ tail = [] := by
  cases stem with
  | nil => simp [BeforeDot.ofStem]
  | cons first rest =>
      have hlast : start + (first :: rest).length + 1 =
          start + (first :: rest).length + (tail.length + 1) ↔ tail = [] := by
        rw [← List.length_eq_zero_iff]
        omega
      have hsecond : start + (first :: rest).length = start + 1 ↔ rest = [] := by
        rw [← List.length_eq_zero_iff, List.length_cons]
        omega
      rw [hlast, hsecond]
      by_cases hfirst : first = dot <;> simp [BeforeDot.ofStem, hfirst, and_comm]

/-- The extension starts with the last dot, unless nothing is in front of it or the
portion is the double dot. -/
theorem extensionSpan?_of_last_dot {before stem tail : List u} (opens : Opens before)
    (plain : separator ∉ stem ++ dot :: tail) (htail : dot ∉ tail) (count : Nat) :
    extensionSpan? (before ++ (stem ++ dot :: tail) ++ List.replicate count separator) =
      if stem = [] ∨ stem = [dot] ∧ tail = [] then none
      else some ((before ++ stem).length, (before ++ stem ++ dot :: tail).length) := by
  have hread : ExtensionScan.readAll {} (backwardsFrom before.length (stem ++ dot :: tail)) =
      { finish := some (before.length + stem.length + (tail.length + 1))
        lastDot := some (before.length + stem.length)
        before := .ofStem stem } := by
    rw [backwardsFrom_append, ExtensionScan.readAll_append, readAll_dot_cons htail, readAll_stem]
  rw [extensionSpan?, scanExtension_portion opens plain count hread rfl rfl]
  dsimp only
  by_cases hnone : stem = [] ∨ stem = [dot] ∧ tail = []
  · rw [if_pos ((ofStem_rules_out_iff stem tail before.length).mpr hnone), if_pos hnone]
  · rw [if_neg (mt (ofStem_rules_out_iff stem tail before.length).mp hnone), if_neg hnone,
      List.length_append, List.length_append, List.length_append, List.length_cons]

theorem extension_separators (count : Nat) :
    extension (List.replicate count (separator : u)) = [] := by
  rw [extension, extensionSpan?_separators]

theorem extension_of_no_dot {before base : List u} (opens : Opens before)
    (portion : IsPortion base) (hdot : dot ∉ base) (count : Nat) :
    extension (before ++ base ++ List.replicate count separator) = [] := by
  rw [extension, extensionSpan?_of_no_dot opens portion hdot]

theorem extension_of_last_dot {before stem tail : List u} (opens : Opens before)
    (plain : separator ∉ stem ++ dot :: tail) (htail : dot ∉ tail) (count : Nat) :
    extension (before ++ (stem ++ dot :: tail) ++ List.replicate count separator) =
      if stem = [] ∨ stem = [dot] ∧ tail = [] then [] else dot :: tail := by
  rw [extension, extensionSpan?_of_last_dot opens plain htail]
  by_cases hnone : stem = [] ∨ stem = [dot] ∧ tail = []
  · rw [if_pos hnone, if_pos hnone]
  · rw [if_neg hnone, if_neg hnone, ← List.append_assoc]
    exact slice_middle (before ++ stem) (dot :: tail) (List.replicate count separator)

omit [DecidableEq u] in
/-- A portion with a dot in it has a last one. -/
theorem exists_last_dot {base : List u} (hdot : dot ∈ base) :
    ∃ stem tail, base = stem ++ dot :: tail ∧ dot ∉ tail := by
  obtain ⟨tail, stem, hsplit, htail⟩ :=
    List.eq_append_cons_of_mem (List.mem_reverse.mpr hdot)
  refine ⟨stem.reverse, tail.reverse, ?_, mt List.mem_reverse.mp htail⟩
  rw [← List.reverse_reverse base, hsplit]
  simp

omit [DecidableEq u] in
theorem nothing_around (base : List u) : [] ++ base ++ List.replicate 0 separator = base :=
  List.append_nil base

theorem extension_eq_of_last_dot {stem tail : List u} (plain : separator ∉ stem ++ dot :: tail)
    (htail : dot ∉ tail) : extension (stem ++ dot :: tail) =
      if stem = [] ∨ stem = [dot] ∧ tail = [] then [] else dot :: tail := by
  have hext := extension_of_last_dot (.inl rfl) plain htail 0
  rwa [nothing_around] at hext

theorem extension_eq_nil_of_no_dot {base : List u} (portion : IsPortion base)
    (hdot : dot ∉ base) : extension base = [] := by
  have hext := extension_of_no_dot (.inl rfl) portion hdot 0
  rwa [nothing_around] at hext

/-- The extension of a portion does not depend on what stands around it. -/
theorem extension_around {before base : List u} (opens : Opens before)
    (portion : IsPortion base) (count : Nat) :
    extension (before ++ base ++ List.replicate count separator) = extension base := by
  have halone (found : List u)
      (hfound : ∀ {before : List u} (_ : Opens before) (count : Nat),
        extension (before ++ base ++ List.replicate count separator) = found) :
      extension (before ++ base ++ List.replicate count separator) = extension base := by
    have hbase := hfound (.inl rfl) 0
    rw [nothing_around] at hbase
    rw [hfound opens, hbase]
  by_cases hdot : dot ∈ base
  · obtain ⟨stem, tail, rfl, htail⟩ := exists_last_dot hdot
    exact halone _ fun opens => extension_of_last_dot opens portion.separator_notMem htail
  · exact halone _ fun opens => extension_of_no_dot opens portion hdot

theorem extension_alone {base : List u} (portion : IsPortion base) (count : Nat) :
    extension (base ++ List.replicate count separator) = extension base :=
  extension_around (.inl rfl) portion count

theorem extension_below (front : List u) {base : List u} (portion : IsPortion base)
    (count : Nat) :
    extension (front ++ separator :: base ++ List.replicate count separator) =
      extension base := by
  rw [List.append_cons]
  exact extension_around (.inr ⟨front, rfl⟩) portion count

theorem extension_nil : extension ([] : List u) = [] :=
  extension_separators 0

/-- A portion is a name and its extension. The name is not empty unless the portion is. -/
theorem exists_name {base : List u} (plain : separator ∉ base) :
    ∃ name, base = name ++ extension base ∧ (name = [] → base = []) := by
  by_cases hnil : base = []
  · exact ⟨[], by rw [hnil, extension_nil]; rfl, fun _ => hnil⟩
  · have portion : IsPortion base := ⟨hnil, plain⟩
    by_cases hdot : dot ∈ base
    · obtain ⟨stem, tail, rfl, htail⟩ := exists_last_dot hdot
      rw [extension_eq_of_last_dot plain htail]
      by_cases hnone : stem = [] ∨ stem = [dot] ∧ tail = []
      · rw [if_pos hnone]
        exact ⟨_, (List.append_nil _).symm, id⟩
      · rw [if_neg hnone]
        exact ⟨stem, rfl, fun hstem => absurd (.inl hstem) hnone⟩
    · rw [extension_eq_nil_of_no_dot portion hdot]
      exact ⟨base, (List.append_nil base).symm, id⟩

/-- An extension starts with its dot. -/
theorem extension_eq_nil_or_dot_cons {base : List u} (plain : separator ∉ base) :
    extension base = [] ∨ ∃ tail, extension base = dot :: tail := by
  by_cases hnil : base = []
  · rw [hnil]
    exact .inl extension_nil
  · by_cases hdot : dot ∈ base
    · obtain ⟨stem, tail, rfl, htail⟩ := exists_last_dot hdot
      rw [extension_eq_of_last_dot plain htail]
      split
      · exact .inl rfl
      · exact .inr ⟨tail, rfl⟩
    · exact .inl (extension_eq_nil_of_no_dot ⟨hnil, plain⟩ hdot)

omit [DecidableEq u] [PathUnit u] in
/-- What is left of a portion when a suffix is cut off by its length. -/
theorem take_length_sub {name suffix base : List u} (happend : name ++ suffix = base) :
    base.take (base.length - suffix.length) = name := by
  rw [← happend, List.length_append, Nat.add_sub_cancel, List.take_left]

theorem name_append_extension {base : List u} (plain : separator ∉ base) :
    base.take (base.length - (extension base).length) ++ extension base = base := by
  obtain ⟨name, hname, -⟩ := exists_name plain
  rw [take_length_sub hname.symm]
  exact hname.symm

end CallBench.Path
