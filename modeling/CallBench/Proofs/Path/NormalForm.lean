/-
# Components of a normal form

Reading a path keeps its stack of segments settled: components only, with the climbs
below the names, and no climb at all where nothing is above the start. A normal form
is written from settled components, and splitting it gives them back. What a single
segment does to the stack is said once, in `push_cases`; everything about whole paths
follows from it by induction on the segments.
-/

import CallBench.Path.Canonical

namespace CallBench.Path

/-- A separator divides the segments of a path into those before and those after it. -/
theorem segments_append_separator (first second : List Char) :
    segments (first ++ separator :: second) = segments first ++ segments second :=
  List.splitOn_append_cons_self first second

theorem separator_notMem_of_mem_segments {path : List Char} {segment : Segment}
    (hmem : segment ∈ segments path) : separator ∉ segment := by
  induction path generalizing segment with
  | nil =>
      rw [segments, List.splitOn_nil, List.mem_singleton] at hmem
      rw [hmem]
      exact List.not_mem_nil
  | cons first rest ih =>
      rw [segments, List.splitOn_cons_eq_if_modifyHead] at hmem
      by_cases hfirst : first = separator
      · rw [if_pos (beq_iff_eq.mpr hfirst)] at hmem
        rcases List.mem_cons.mp hmem with hempty | hlater
        · rw [hempty]
          exact List.not_mem_nil
        · exact ih hlater
      · rw [if_neg (mt beq_iff_eq.mp hfirst)] at hmem
        obtain ⟨head, tail, hsplit⟩ :=
          List.exists_cons_of_ne_nil (List.splitOn_ne_nil separator rest)
        rw [hsplit, List.modifyHead_cons] at hmem
        rcases List.mem_cons.mp hmem with hhead | hlater
        · have hrest : separator ∉ head :=
            ih (by rw [segments, hsplit]; exact List.mem_cons_self)
          rw [hhead, List.mem_cons, not_or]
          exact ⟨Ne.symm hfirst, hrest⟩
        · exact ih (by rw [segments, hsplit]; exact List.mem_cons_of_mem _ hlater)

/-- Components written as a path split into themselves, with an empty segment for the
root and one for a trailing separator. -/
theorem segments_written (absolute trailing : Bool) {components : List Segment}
    (nonempty : components ≠ []) (plain : ∀ component ∈ components, separator ∉ component) :
    segments (written absolute trailing components) =
      (if absolute then [[]] else []) ++ components ++ if trailing then [[]] else [] := by
  have hjoined : segments (joined components) = components :=
    List.splitOn_intercalate separator plain nonempty
  have htrailing : segments (joined components ++ if trailing then [separator] else []) =
      components ++ if trailing then [[]] else [] := by
    cases trailing with
    | false => simpa using hjoined
    | true =>
        have hlast := segments_append_separator (joined components) []
        rw [hjoined] at hlast
        simpa [segments] using hlast
  cases absolute with
  | false => simpa [written] using htrailing
  | true =>
      have hroot := segments_append_separator []
        (joined components ++ if trailing then [separator] else [])
      rw [htrailing] at hroot
      simpa [written, segments] using hroot

theorem isAbsolute_iff {path : List Char} :
    isAbsolute path = true ↔ ∃ rest, path = separator :: rest := by
  rw [isAbsolute, beq_iff_eq, List.head?_eq_some_iff]

theorem hasTrailing_iff {path : List Char} :
    hasTrailing path = true ↔ ∃ front, path = front ++ [separator] := by
  rw [hasTrailing, beq_iff_eq, List.getLast?_eq_some_iff]

/-- Everything that a segment can do to the stack: nothing, take back a name, climb,
or add a name. -/
theorem push_cases (aboveStart : Bool) (stack : List Segment) (segment : Segment) :
    ((segment = [] ∨ segment = Segment.here) ∧ push aboveStart stack segment = stack) ∨
    (segment = Segment.up ∧ ∃ top rest, stack = top :: rest ∧ top ≠ Segment.up ∧
      push aboveStart stack segment = rest) ∨
    (segment = Segment.up ∧ (∀ top ∈ stack.head?, top = Segment.up) ∧
      push aboveStart stack segment = if aboveStart then Segment.up :: stack else stack) ∨
    ((segment ≠ [] ∧ segment ≠ Segment.here) ∧ segment ≠ Segment.up ∧
      push aboveStart stack segment = segment :: stack) := by
  unfold push
  by_cases hskip : segment = [] ∨ segment = Segment.here
  · rw [if_pos hskip]
    exact .inl ⟨hskip, rfl⟩
  · rw [if_neg hskip]
    by_cases hup : segment = Segment.up
    · rw [if_pos hup]
      cases stack with
      | nil => exact .inr (.inr (.inl ⟨hup, by simp, by simp [hup]⟩))
      | cons top rest =>
          by_cases htop : top = Segment.up
          · exact .inr (.inr (.inl ⟨hup, by simp [htop], by simp [htop, hup]⟩))
          · exact .inr (.inl ⟨hup, top, rest, rfl, htop, by simp [htop]⟩)
    · rw [if_neg hup]
      exact .inr (.inr (.inr ⟨not_or.mp hskip, hup, rfl⟩))

theorem Settled.nil (absolute : Bool) : Settled absolute [] :=
  ⟨by simp, List.Pairwise.nil, by simp⟩

/-- An innermost climb has only climbs outside of it. -/
theorem Settled.eq_up_of_head {absolute : Bool} {stack : List Segment}
    (settled : Settled absolute stack.reverse) (htop : ∀ top ∈ stack.head?, top = Segment.up) :
    ∀ segment ∈ stack, segment = Segment.up := by
  cases stack with
  | nil => simp
  | cons top rest =>
      have hup : top = Segment.up := htop top rfl
      have hbelow := (List.pairwise_cons.mp (List.pairwise_reverse.mp settled.climbsFirst)).1
      intro segment hmem
      rcases List.mem_cons.mp hmem with rfl | hrest
      · exact hup
      · exact hbelow segment hrest hup

/-- A segment leaves the stack settled. The stack has its top first, so it is settled
read backwards. -/
theorem Settled.push {absolute : Bool} {stack : List Segment}
    (settled : Settled absolute stack.reverse) {segment : Segment}
    (plain : separator ∉ segment) :
    Settled absolute (Path.push (!absolute) stack segment).reverse := by
  rcases push_cases (!absolute) stack segment with
    ⟨-, hpush⟩ | ⟨-, top, rest, rfl, -, hpush⟩ | ⟨-, htop, hpush⟩ | ⟨hcomponent, hname, hpush⟩
  · rw [hpush]
    exact settled
  · rw [hpush]
    rw [List.reverse_cons] at settled
    exact ⟨fun component hmem => settled.isComponent component (List.mem_append_left _ hmem),
      (List.pairwise_append.mp settled.climbsFirst).1,
      fun habsolute hmem => settled.rooted habsolute (List.mem_append_left _ hmem)⟩
  · rw [hpush]
    cases absolute with
    | true => exact settled
    | false =>
        have hclimbs := settled.eq_up_of_head htop
        refine ⟨?_, ?_, by simp⟩
        · intro component hmem
          have hup : component = Segment.up := by
            rcases List.mem_cons.mp (List.mem_reverse.mp hmem) with hup | hstack
            · exact hup
            · exact hclimbs component hstack
          rw [hup]
          exact ⟨by decide, by decide, by decide⟩
        · exact List.pairwise_reverse.mpr (List.pairwise_cons.mpr
            ⟨fun below hmem _ => hclimbs below hmem,
              List.pairwise_reverse.mp settled.climbsFirst⟩)
  · rw [hpush, List.reverse_cons]
    refine ⟨?_, ?_, ?_⟩
    · intro component hmem
      rcases List.mem_append.mp hmem with hstack | hlast
      · exact settled.isComponent component hstack
      · rw [List.mem_singleton.mp hlast]
        exact ⟨plain, hcomponent⟩
    · exact List.pairwise_append.mpr ⟨settled.climbsFirst, List.pairwise_singleton _ _,
        fun _ _ later hlater hup => absurd (List.mem_singleton.mp hlater ▸ hup) hname⟩
    · intro habsolute hmem
      rcases List.mem_append.mp hmem with hstack | hlast
      · exact settled.rooted habsolute hstack
      · exact hname (List.mem_singleton.mp hlast).symm

/-- Whatever a path says, the components that are left of it are settled. -/
theorem settled_collapse (absolute : Bool) (path : List Char) :
    Settled absolute (collapse (!absolute) path) := by
  have hfold : ∀ (read : List Segment) (stack : List Segment),
      (∀ segment ∈ read, separator ∉ segment) → Settled absolute stack.reverse →
      Settled absolute (read.foldl (push (!absolute)) stack).reverse := by
    intro read
    induction read with
    | nil => exact fun stack _ settled => settled
    | cons segment read ih =>
        intro stack plain settled
        exact ih (push (!absolute) stack segment)
          (fun later hlater => plain later (List.mem_cons_of_mem _ hlater))
          (settled.push (plain segment List.mem_cons_self))
  exact hfold (segments path) [] (fun _ hmem => separator_notMem_of_mem_segments hmem)
    (Settled.nil absolute)

/-- The normal form with the given components. -/
def normalForm (absolute trailing : Bool) (components : List Segment) : List Char :=
  match components with
  | [] =>
      if absolute then [separator]
      else if trailing then Segment.here ++ [separator]
      else Segment.here
  | components => written absolute trailing components

theorem normalForm_of_ne_nil {absolute trailing : Bool} {components : List Segment}
    (nonempty : components ≠ []) :
    normalForm absolute trailing components = written absolute trailing components := by
  cases components with
  | nil => exact absurd rfl nonempty
  | cons first rest => rfl

/-- The empty path needs no case of its own: nothing is left of it either. -/
theorem normalizeChars_eq_normalForm (path : List Char) :
    normalizeChars path =
      normalForm (isAbsolute path) (hasTrailing path) (collapse (!isAbsolute path) path) := by
  cases path with
  | nil => rfl
  | cons first rest =>
      rw [normalizeChars, if_neg (List.cons_ne_nil first rest)]
      cases collapse (!isAbsolute (first :: rest)) (first :: rest) with
      | nil => rfl
      | cons component components => rfl

/-- A normal form starts at the root exactly when it is written to. -/
theorem isAbsolute_normalForm {absolute : Bool} {components : List Segment}
    (settled : Settled absolute components) (trailing : Bool) :
    isAbsolute (normalForm absolute trailing components) = absolute := by
  cases components with
  | nil => cases absolute <;> cases trailing <;> rfl
  | cons first rest =>
      have plain : ∀ component ∈ first :: rest, separator ∉ component :=
        fun component hmem => (settled.isComponent component hmem).1
      rw [normalForm_of_ne_nil (List.cons_ne_nil first rest)]
      cases absolute with
      | true => rfl
      | false =>
          rw [Bool.eq_false_iff]
          intro habsolute
          obtain ⟨after, hafter⟩ := isAbsolute_iff.mp habsolute
          have hsegments :=
            segments_written false trailing (List.cons_ne_nil first rest) plain
          rw [hafter, ← List.nil_append (separator :: after), segments_append_separator]
            at hsegments
          have hfirst : [] = first := (List.cons.inj hsegments).1
          exact (settled.isComponent first List.mem_cons_self).2.1 hfirst.symm

/-- A normal form ends in a separator exactly when it is written to, the root apart. -/
theorem hasTrailing_normalForm {absolute : Bool} {components : List Segment}
    (settled : Settled absolute components) (trailing : Bool)
    (proper : absolute = true → components ≠ []) :
    hasTrailing (normalForm absolute trailing components) = trailing := by
  rcases List.eq_nil_or_concat components with rfl | ⟨front, last, rfl⟩
  · cases absolute with
    | true => exact absurd rfl (proper rfl)
    | false => cases trailing <;> rfl
  · rw [List.concat_eq_append] at settled ⊢
    have nonempty : front ++ [last] ≠ [] := List.concat_ne_nil last front
    have plain : ∀ component ∈ front ++ [last], separator ∉ component :=
      fun component hmem => (settled.isComponent component hmem).1
    rw [normalForm_of_ne_nil nonempty]
    cases trailing with
    | true => exact hasTrailing_iff.mpr ⟨_, rfl⟩
    | false =>
        rw [Bool.eq_false_iff]
        intro htrailing
        obtain ⟨before, hbefore⟩ := hasTrailing_iff.mp htrailing
        have hsegments := segments_written absolute false nonempty plain
        have hempty : segments [] = [[]] := rfl
        rw [hbefore, segments_append_separator, hempty, if_neg Bool.false_ne_true,
          List.append_nil, ← List.append_assoc] at hsegments
        have hlast : [[]] = [last] := (List.append_inj' hsegments rfl).2
        have hmem : last ∈ front ++ [last] := List.mem_append_right _ List.mem_cons_self
        exact (settled.isComponent last hmem).2.1 (List.cons.inj hlast).1.symm

end CallBench.Path
