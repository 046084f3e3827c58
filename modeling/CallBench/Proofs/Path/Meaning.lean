/-
# The meaning of normal forms

A path means the walk it stands for from every directory. Normalizing keeps that
meaning, and it loses nothing else but how the path is spelt: two paths have the same
normal form exactly when they mean the same, start at the same place and agree on a
trailing separator. For the second half, two directories tell any two normal forms
apart: the root, where only the names are seen, and one deep enough that every climb
takes something away.
-/

import CallBench.Path
import CallBench.Path.Walk
import CallBench.Proofs.Path.NormalForm

namespace CallBench.Path

/-- Whether a segment can be an entry of a directory. -/
structure Segment.IsName (segment : Segment) : Prop where
  isComponent : segment.IsComponent
  ne_up : segment ≠ Segment.up

theorem follow_nil (directory : List Segment) : follow directory [] = directory := by
  rw [follow, if_pos (Or.inl rfl)]

theorem follow_up (directory : List Segment) :
    follow directory Segment.up = directory.tail := by
  rw [follow, if_neg (by decide), if_pos rfl]

theorem follow_name {name : Segment} (hname : name.IsName) (directory : List Segment) :
    follow directory name = name :: directory := by
  rw [follow, if_neg (not_or.mpr hname.isComponent.2), if_neg hname.ne_up]

/-- Following the stack leads where following the segments read so far does. Above the
root the stack drops a climb that the walk takes in vain. -/
theorem foldl_follow_push {absolute : Bool} {directory stack : List Segment}
    (settled : Settled absolute stack.reverse) (rooted : absolute = true → directory = [])
    (segment : Segment) :
    (push (!absolute) stack segment).reverse.foldl follow directory =
      follow (stack.reverse.foldl follow directory) segment := by
  rcases push_cases (!absolute) stack segment with
    ⟨hskip, hpush⟩ | ⟨rfl, top, rest, rfl, htop, hpush⟩ | ⟨rfl, htop, hpush⟩ | ⟨-, -, hpush⟩
  · rw [hpush, follow, if_pos hskip]
  · have hname : top.IsName :=
      ⟨settled.isComponent top (List.mem_reverse.mpr List.mem_cons_self), htop⟩
    rw [hpush, List.reverse_cons, List.foldl_append, List.foldl_cons, List.foldl_nil,
      follow_name hname, follow_up, List.tail_cons]
  · rw [hpush]
    cases absolute with
    | false => simp
    | true =>
        have hempty : stack = [] := by
          cases stack with
          | nil => rfl
          | cons top rest =>
              have hup : top = Segment.up := htop top rfl
              exact absurd (List.mem_reverse.mpr (hup ▸ List.mem_cons_self))
                (settled.rooted rfl)
        rw [hempty, rooted rfl]
        rfl
  · rw [hpush, List.reverse_cons, List.foldl_append, List.foldl_cons, List.foldl_nil]

/-- The components that are left of a path lead where the whole path leads. -/
theorem foldl_follow_collapse {absolute : Bool} {directory : List Segment}
    (rooted : absolute = true → directory = []) (path : List Char) :
    (collapse (!absolute) path).foldl follow directory =
      (segments path).foldl follow directory := by
  have hfold : ∀ (read : List Segment) (stack : List Segment),
      (∀ segment ∈ read, separator ∉ segment) → Settled absolute stack.reverse →
      (read.foldl (push (!absolute)) stack).reverse.foldl follow directory =
        read.foldl follow (stack.reverse.foldl follow directory) := by
    intro read
    induction read with
    | nil => exact fun stack _ _ => rfl
    | cons segment read ih =>
        intro stack plain settled
        rw [List.foldl_cons, List.foldl_cons,
          ih _ (fun later hlater => plain later (List.mem_cons_of_mem _ hlater))
            (settled.push (plain segment List.mem_cons_self)),
          foldl_follow_push settled rooted]
  exact hfold (segments path) [] (fun _ hmem => separator_notMem_of_mem_segments hmem)
    (Settled.nil absolute)

/-- A normal form leads where its components lead. -/
theorem walk_normalForm {absolute : Bool} {components : List Segment}
    (settled : Settled absolute components) (trailing : Bool) (directory : List Segment) :
    walk directory (normalForm absolute trailing components) =
      components.foldl follow (if absolute then [] else directory) := by
  rw [walk, isAbsolute_normalForm settled]
  cases components with
  | nil => cases absolute <;> cases trailing <;> rfl
  | cons first rest =>
      rw [normalForm_of_ne_nil (List.cons_ne_nil first rest),
        segments_written absolute trailing (List.cons_ne_nil first rest)
          (fun component hmem => (settled.isComponent component hmem).1),
        List.foldl_append, List.foldl_append]
      cases absolute <;> cases trailing <;> simp [follow_nil]

/-- A path and its normal form lead to the same place. -/
theorem walk_normalizeChars (path : List Char) (directory : List Segment) :
    walk directory (normalizeChars path) = walk directory path := by
  rw [normalizeChars_eq_normalForm, walk_normalForm (settled_collapse _ _),
    foldl_follow_collapse (fun habsolute => if_pos habsolute), walk]

theorem isAbsolute_normalizeChars (path : List Char) :
    isAbsolute (normalizeChars path) = isAbsolute path := by
  rw [normalizeChars_eq_normalForm, isAbsolute_normalForm (settled_collapse _ _)]

/-- Settled components are climbs, then names. -/
theorem Settled.exists_climbs {absolute : Bool} {components : List Segment}
    (settled : Settled absolute components) :
    ∃ climbs names, components = List.replicate climbs Segment.up ++ names ∧
      ∀ name ∈ names, Segment.IsName name := by
  induction components with
  | nil => exact ⟨0, [], rfl, by simp⟩
  | cons first rest ih =>
      by_cases hup : first = Segment.up
      · obtain ⟨climbs, names, hrest, hnames⟩ := ih
          ⟨fun component hmem => settled.isComponent component (List.mem_cons_of_mem _ hmem),
            (List.pairwise_cons.mp settled.climbsFirst).2,
            fun habsolute hmem => settled.rooted habsolute (List.mem_cons_of_mem _ hmem)⟩
        exact ⟨climbs + 1, names, by rw [hup, hrest]; rfl, hnames⟩
      · have hlater := (List.pairwise_cons.mp settled.climbsFirst).1
        refine ⟨0, first :: rest, rfl, fun name hmem =>
          ⟨settled.isComponent name hmem, fun hname => hup ?_⟩⟩
        rcases List.mem_cons.mp hmem with hfirst | hrest
        · exact hfirst ▸ hname
        · exact hlater name hrest hname

/-- Climbs take the innermost names of a directory away, and names are added to it. -/
theorem foldl_follow_climbs {names : List Segment} (hnames : ∀ name ∈ names, name.IsName)
    (climbs : Nat) (directory : List Segment) :
    (List.replicate climbs Segment.up ++ names).foldl follow directory =
      names.reverse ++ directory.drop climbs := by
  rw [List.foldl_append]
  have hclimbs : (List.replicate climbs Segment.up).foldl follow directory =
      directory.drop climbs := by
    induction climbs generalizing directory with
    | zero => rfl
    | succ climbs ih =>
        rw [List.replicate_succ, List.foldl_cons, follow_up, ih, List.drop_tail]
  rw [hclimbs]
  generalize directory.drop climbs = start
  induction names generalizing start with
  | nil => rfl
  | cons name names ih =>
      rw [List.foldl_cons, follow_name (hnames name List.mem_cons_self),
        ih (fun later hmem => hnames later (List.mem_cons_of_mem _ hmem)),
        List.reverse_cons, List.append_assoc, List.singleton_append]

/-- Settled components that lead to the same place from every directory are the same. -/
theorem Settled.eq_of_foldl_follow {absolute : Bool} {first second : List Segment}
    (hfirst : Settled absolute first) (hsecond : Settled absolute second)
    (same : ∀ directory : List Segment, (∀ name ∈ directory, name.IsName) →
      first.foldl follow (if absolute then [] else directory) =
        second.foldl follow (if absolute then [] else directory)) :
    first = second := by
  obtain ⟨firstClimbs, firstNames, rfl, hfirstNames⟩ := hfirst.exists_climbs
  obtain ⟨secondClimbs, secondNames, rfl, hsecondNames⟩ := hsecond.exists_climbs
  simp only [foldl_follow_climbs hfirstNames, foldl_follow_climbs hsecondNames] at same
  -- At the root only the names are seen.
  have hnames : firstNames = secondNames := by
    have hroot := same [] (by simp)
    simp only [ite_self, List.drop_nil, List.append_nil] at hroot
    exact List.reverse_inj.mp hroot
  have hclimbs : firstClimbs = secondClimbs := by
    cases absolute with
    | true =>
        have hnone : ∀ {climbs : Nat} {names : List Segment},
            Settled true (List.replicate climbs Segment.up ++ names) → climbs = 0 := by
          intro climbs names settled
          cases climbs with
          | zero => rfl
          | succ climbs => exact absurd List.mem_cons_self (settled.rooted rfl)
        rw [hnone hfirst, hnone hsecond]
    | false =>
        -- A directory deeper than both climbs keeps a different depth after each.
        have hdeep := same (List.replicate (firstClimbs + secondClimbs) ['a'])
          (fun name hmem => by
            rw [List.eq_of_mem_replicate hmem]
            exact ⟨⟨by decide, by decide, by decide⟩, by decide⟩)
        have hlength := congrArg List.length hdeep
        simp only [hnames, Bool.false_eq_true, if_false, List.length_append,
          List.length_reverse, List.length_drop, List.length_replicate] at hlength
        omega
  rw [hnames, hclimbs]

/-- Paths of the same kind that lead to the same place have the same components left. -/
theorem collapse_eq_of_walk_eq {first second : List Char}
    (kind : isAbsolute first = isAbsolute second)
    (same : ∀ directory : List Segment, (∀ name ∈ directory, name.IsName) →
      walk directory first = walk directory second) :
    collapse (!isAbsolute first) first = collapse (!isAbsolute second) second := by
  rw [kind]
  apply Settled.eq_of_foldl_follow (settled_collapse _ _) (settled_collapse _ _)
  intro directory hdirectory
  rw [foldl_follow_collapse (fun h => if_pos h), foldl_follow_collapse (fun h => if_pos h)]
  have hwalk := same directory hdirectory
  rwa [walk, walk, kind] at hwalk

/-- Nothing is left of an absolute path exactly when it leads to the root. -/
theorem collapse_eq_nil_iff {path : List Char} (habsolute : isAbsolute path = true) :
    collapse (!isAbsolute path) path = [] ↔ walk [] path = [] := by
  have settled := settled_collapse (isAbsolute path) path
  have hwalk : (collapse (!isAbsolute path) path).foldl follow [] = walk [] path := by
    rw [foldl_follow_collapse (fun _ => rfl), walk, ite_self]
  rw [← hwalk]
  constructor
  · intro hnil
    rw [hnil]
    rfl
  · intro hroot
    apply settled.eq_of_foldl_follow (Settled.nil _)
    intro directory _
    rw [if_pos habsolute]
    exact hroot

/-- The trailing separator of a path shows in its normal form, the root apart. -/
theorem hasTrailing_normalizeChars {path : List Char}
    (proper : ¬ (isAbsolute path = true ∧ walk [] path = [])) :
    hasTrailing (normalizeChars path) = hasTrailing path := by
  rw [normalizeChars_eq_normalForm]
  exact hasTrailing_normalForm (settled_collapse _ _) _ fun habsolute hnil =>
    proper ⟨habsolute, (collapse_eq_nil_iff habsolute).mp hnil⟩

/-- **Normal forms are sound and complete for where paths lead.** Two paths have the same
normal form exactly when both or neither are absolute, they lead to the same place from
every directory, and they agree on a trailing separator unless both are the root. A path
leads where its normal form leads, from any stack of segments whatsoever. -/
theorem normalize_eq_iff_walk_eq (first second : String) :
    (normalize first = normalize second ↔
      absolute first = absolute second ∧
      (∀ directory : List Segment, (∀ name ∈ directory, name.IsName) →
        walk directory first.toList = walk directory second.toList) ∧
      (hasTrailing first.toList = hasTrailing second.toList ∨
        (absolute first = true ∧ walk [] first.toList = []) ∧
          absolute second = true ∧ walk [] second.toList = [])) ∧
    (∀ (path : String) (directory : List Segment),
      walk directory (normalize path).toList = walk directory path.toList) ∧
    ∀ path : String, absolute (normalize path) = absolute path := by
  have hchars (path : String) : (normalize path).toList = normalizeChars path.toList :=
    String.toList_ofList
  have hwalk (path : String) (directory : List Segment) :
      walk directory (normalize path).toList = walk directory path.toList := by
    rw [hchars, walk_normalizeChars]
  have hkind (path : String) : absolute (normalize path) = absolute path := by
    rw [absolute, hchars, isAbsolute_normalizeChars, absolute]
  refine ⟨⟨?_, ?_⟩, hwalk, hkind⟩
  · intro hequal
    have kind : absolute first = absolute second := by
      rw [← hkind first, hequal, hkind second]
    have same (directory : List Segment) :
        walk directory first.toList = walk directory second.toList := by
      rw [← hwalk first, hequal, hwalk second]
    refine ⟨kind, fun directory _ => same directory, ?_⟩
    by_cases hroot : absolute first = true ∧ walk [] first.toList = []
    · exact .inr ⟨hroot, kind ▸ hroot.1, same [] ▸ hroot.2⟩
    · have hproper : ¬ (absolute second = true ∧ walk [] second.toList = []) := by
        rwa [← kind, ← same []]
      apply Or.inl
      rw [← hasTrailing_normalizeChars hroot, ← hasTrailing_normalizeChars hproper,
        ← hchars, ← hchars, hequal]
  · intro ⟨kind, same, htrailing⟩
    have hcomponents := collapse_eq_of_walk_eq kind same
    have hforms : normalizeChars first.toList = normalizeChars second.toList := by
      rw [normalizeChars_eq_normalForm, normalizeChars_eq_normalForm, hcomponents]
      have kind' : isAbsolute first.toList = isAbsolute second.toList := kind
      rw [kind']
      rcases htrailing with hagree | ⟨-, habsolute, hroot⟩
      · rw [hagree]
      · rw [(collapse_eq_nil_iff habsolute).mpr hroot]
        have habsolute' : isAbsolute second.toList = true := habsolute
        rw [habsolute']
        rfl
    rw [normalize, normalize, hforms]

end CallBench.Path
