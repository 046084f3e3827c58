/-
# Reading a path from its end

A path is cut by reading it backwards, and what its readers find depends only on how it is
built around its last portion. There are three ways: the path has no portion, the portion
stands alone, or it stands below a directory. `cut` says that there are no others, and each
reader is described by what it answers on each of them. Everything about directories,
portions and parts of paths follows from these answers, and no reader has to be followed
through a path a second time. Nothing here looks at the units besides the separator, so it
holds for the characters of a path and for its bytes.
-/

import CallBench.Path.Parts
import Mathlib.Data.List.Basic
import Mathlib.Data.List.Induction

namespace CallBench.Path

variable {u : Type}

section Build

variable [PathUnit u]

/-- Whether some units can be the last portion of a path. -/
structure IsPortion (base : List u) : Prop where
  ne_nil : base ≠ []
  separator_notMem : separator ∉ base

/-- How a path is built around its last portion. -/
inductive Cut : List u → Prop where
  /-- There is no portion, only separators. -/
  | separators (count : Nat) : Cut (List.replicate count separator)
  /-- The portion stands alone. -/
  | alone (base : List u) (portion : IsPortion base) (count : Nat) :
      Cut (base ++ List.replicate count separator)
  /-- The portion stands below a directory, which is the root if nothing is in front of
  the separator. -/
  | below (front base : List u) (portion : IsPortion base) (count : Nat) :
      Cut (front ++ separator :: base ++ List.replicate count separator)

/-- A separator at the end is one more to be trimmed. -/
theorem Cut.append_separator {path : List u} (cut : Cut path) : Cut (path ++ [separator]) := by
  have more (front : List u) (count : Nat) :
      front ++ List.replicate count separator ++ [separator] =
        front ++ List.replicate (count + 1) separator := by
    rw [List.append_assoc, ← List.replicate_succ']
  cases cut with
  | separators count =>
      rw [← List.replicate_succ']
      exact .separators (count + 1)
  | alone base portion count =>
      rw [more]
      exact .alone base portion (count + 1)
  | below front base portion count =>
      rw [more]
      exact .below front base portion (count + 1)

theorem IsPortion.singleton {unit : u} (hunit : unit ≠ separator) : IsPortion [unit] :=
  ⟨List.cons_ne_nil unit [], fun hmem => hunit (List.mem_singleton.mp hmem).symm⟩

theorem IsPortion.append_singleton {base : List u} (portion : IsPortion base) {unit : u}
    (hunit : unit ≠ separator) : IsPortion (base ++ [unit]) := by
  refine ⟨List.concat_ne_nil unit base, ?_⟩
  rw [List.mem_append, List.mem_singleton, not_or]
  exact ⟨portion.separator_notMem, Ne.symm hunit⟩

/-- Any other unit at the end goes on with the portion, or begins one behind separators. -/
theorem Cut.append_unit {path : List u} (cut : Cut path) {unit : u} (hunit : unit ≠ separator) :
    Cut (path ++ [unit]) := by
  have begins (front : List u) (count : Nat) :
      Cut (front ++ List.replicate (count + 1) separator ++ [unit]) := by
    have built := Cut.below (front ++ List.replicate count separator) [unit] (.singleton hunit) 0
    simpa [List.replicate_succ'] using built
  cases cut with
  | separators count =>
      cases count with
      | zero => exact .alone [unit] (.singleton hunit) 0
      | succ count => exact begins [] count
  | alone base portion count =>
      cases count with
      | zero => simpa using Cut.alone (base ++ [unit]) (portion.append_singleton hunit) 0
      | succ count => exact begins base count
  | below front base portion count =>
      cases count with
      | zero => simpa using Cut.below front (base ++ [unit]) (portion.append_singleton hunit) 0
      | succ count => exact begins (front ++ separator :: base) count

theorem cut [DecidableEq u] (path : List u) : Cut path := by
  induction path using List.reverseRecOn with
  | nil => exact .separators 0
  | append_singleton path unit ih =>
      by_cases hunit : unit = separator
      · rw [hunit]
        exact ih.append_separator
      · exact ih.append_unit hunit

end Build

/-- The units of the rest of a path with their offsets, from the last to the first, when
the rest starts at an offset. -/
def backwardsFrom (start : Nat) (rest : List u) : List (u × Nat) :=
  (rest.zipIdx start).reverse

theorem backwardsFrom_append (start : Nat) (first second : List u) :
    backwardsFrom start (first ++ second) =
      backwardsFrom (start + first.length) second ++ backwardsFrom start first := by
  rw [backwardsFrom, List.zipIdx_append, List.reverse_append]
  rfl

theorem backwardsFrom_concat (start : Nat) (front : List u) (last : u) :
    backwardsFrom start (front ++ [last]) =
      (last, start + front.length) :: backwardsFrom start front := by
  rw [backwardsFrom_append]
  rfl

theorem backwardsFrom_cons (start : Nat) (first : u) (rest : List u) :
    backwardsFrom start (first :: rest) =
      backwardsFrom (start + 1) rest ++ [(first, start)] := by
  rw [backwardsFrom, List.zipIdx_cons, List.reverse_cons]
  rfl

theorem fst_mem_of_mem_backwardsFrom {start : Nat} {rest : List u} {item : u × Nat}
    (hmem : item ∈ backwardsFrom start rest) : item.1 ∈ rest :=
  List.fst_mem_of_mem_zipIdx (List.mem_reverse.mp hmem)

variable [PathUnit u]

/-- Whether all units that are to be read belong to one portion. -/
def Plain (items : List (u × Nat)) : Prop :=
  ∀ item ∈ items, item.1 ≠ separator

/-- Whether only separators are to be read. -/
def Bare (items : List (u × Nat)) : Prop :=
  ∀ item ∈ items, item.1 = separator

theorem plain_backwardsFrom {base : List u} (hbase : separator ∉ base) (start : Nat) :
    Plain (backwardsFrom start base) :=
  fun _ hmem heq => hbase (heq ▸ fst_mem_of_mem_backwardsFrom hmem)

theorem bare_backwardsFrom (start count : Nat) :
    Bare (backwardsFrom start (List.replicate count (separator : u))) :=
  fun _ hmem => List.eq_of_mem_replicate (fst_mem_of_mem_backwardsFrom hmem)

theorem IsPortion.backwardsFrom_ne_nil {base : List u} (portion : IsPortion base) (start : Nat) :
    backwardsFrom start base ≠ [] := by
  simp [backwardsFrom, portion.ne_nil]

theorem IsPortion.getLast?_ne {base : List u} (portion : IsPortion base) (before : List u) :
    ∀ unit ∈ (before ++ base).getLast?, unit ≠ separator := by
  intro unit hlast heq
  rw [List.getLast?_append_of_ne_nil _ portion.ne_nil] at hlast
  exact portion.separator_notMem (heq ▸ List.mem_of_getLast? hlast)

theorem IsPortion.getLast?_below_ne {base : List u} (portion : IsPortion base) (front : List u) :
    ∀ unit ∈ (front ++ separator :: base).getLast?, unit ≠ separator := by
  rw [List.append_cons]
  exact portion.getLast?_ne (front ++ [separator])

variable [DecidableEq u]

theorem trimmedLength_append_separators {path : List u}
    (ends : ∀ unit ∈ path.getLast?, unit ≠ separator) (count : Nat) :
    trimmedLength (path ++ List.replicate count separator) = path.length := by
  have hkept : path.reverse.dropWhile (· = separator) = path.reverse := by
    rw [← List.head?_reverse] at ends
    cases hreverse : path.reverse with
    | nil => rfl
    | cons last front =>
        rw [hreverse] at ends
        exact List.dropWhile_cons_of_neg (by simpa using ends last rfl)
  rw [trimmedLength, List.reverse_append, List.reverse_replicate,
    List.dropWhile_append_of_pos (by simp), hkept, List.length_reverse]

/-- What is left of a path without the separators at its end. -/
theorem take_trimmedLength {path : List u} (ends : ∀ unit ∈ path.getLast?, unit ≠ separator)
    (count : Nat) :
    (path ++ List.replicate count separator).take
      (trimmedLength (path ++ List.replicate count separator)) = path := by
  rw [trimmedLength_append_separators ends, List.take_left]

theorem take_trimmedLength_separators (count : Nat) :
    (List.replicate count (separator : u)).take
      (trimmedLength (List.replicate count (separator : u))) = [] := by
  have ends : ∀ unit ∈ ([] : List u).getLast?, unit ≠ separator := by simp
  exact take_trimmedLength ends count

theorem lastSeparator?_of_notMem {path : List u} (plain : separator ∉ path) :
    lastSeparator? path = none := by
  have hnone : (backwards path).find? (·.1 = separator) = none := by
    rw [List.find?_eq_none]
    intro item hmem
    simpa using plain_backwardsFrom plain 0 item hmem
  rw [lastSeparator?, hnone, Option.map_none]

theorem lastSeparator?_below (front : List u) {base : List u} (plain : separator ∉ base) :
    lastSeparator? (front ++ separator :: base) = some front.length := by
  have hitems : backwards (front ++ separator :: base) =
      backwardsFrom (front.length + 1) base ++ (separator, front.length) ::
        backwardsFrom 0 front := by
    rw [backwards, ← backwardsFrom, backwardsFrom_append, backwardsFrom_cons, Nat.zero_add,
      List.append_assoc, List.singleton_append]
  have hnone : (backwardsFrom (front.length + 1) base).find? (·.1 = separator) = none := by
    rw [List.find?_eq_none]
    intro item hmem
    simpa using plain_backwardsFrom plain _ item hmem
  rw [lastSeparator?, hitems, List.find?_append, hnone, Option.none_or,
    List.find?_cons_of_pos (by simp), Option.map_some]

theorem findParent_bare {items : List (u × Nat)} (bare : Bare items) (rest : List (u × Nat)) :
    findParent false (items ++ rest) = findParent false rest := by
  induction items with
  | nil => rfl
  | cons item items ih =>
      obtain ⟨hitem, hitems⟩ := List.forall_mem_cons.mp bare
      rw [List.cons_append, findParent, if_pos hitem, if_neg Bool.false_ne_true, ih hitems]

theorem findParent_plain {items : List (u × Nat)} (plain : Plain items) (hitems : items ≠ [])
    (inPortion : Bool) (rest : List (u × Nat)) :
    findParent inPortion (items ++ rest) = findParent true rest := by
  induction items generalizing inPortion with
  | nil => exact absurd rfl hitems
  | cons item items ih =>
      obtain ⟨hitem, hrest⟩ := List.forall_mem_cons.mp plain
      rw [List.cons_append, findParent, if_neg hitem]
      cases items with
      | nil => rfl
      | cons next items => exact ih hrest (List.cons_ne_nil next items) true

/-- The first unit of a path is not looked at when its directory is searched for. -/
theorem directoryEnd?_cons (first : u) (rest : List u) :
    directoryEnd? (first :: rest) =
      match findParent false (backwardsFrom 1 rest) with
      | none => if first = separator then some 1 else none
      | some 1 => if first = separator then some 2 else some 1
      | some offset => some offset := by
  have hitems : (backwards (first :: rest)).dropLast = backwardsFrom 1 rest := by
    rw [backwards, ← backwardsFrom, backwardsFrom_cons, List.dropLast_concat]
  rw [← hitems]
  rfl

theorem directoryEnd?_separators (count : Nat) :
    directoryEnd? (List.replicate count (separator : u)) = if count = 0 then none else some 1 := by
  cases count with
  | zero => rfl
  | succ count =>
      have hnone := findParent_bare (bare_backwardsFrom (u := u) 1 count) []
      rw [List.append_nil] at hnone
      rw [List.replicate_succ, directoryEnd?_cons, hnone]
      simp [findParent]

theorem directoryEnd?_alone {base : List u} (portion : IsPortion base) (count : Nat) :
    directoryEnd? (base ++ List.replicate count separator) = none := by
  cases base with
  | nil => exact absurd rfl portion.ne_nil
  | cons first rest =>
      obtain ⟨hfirst, hrest⟩ := not_or.mp (mt List.mem_cons.mpr portion.separator_notMem)
      have hnone : findParent false (backwardsFrom 1 (rest ++ List.replicate count separator)) =
          none := by
        rw [backwardsFrom_append, findParent_bare (bare_backwardsFrom _ count)]
        by_cases hempty : backwardsFrom 1 rest = []
        · rw [hempty]
          rfl
        · rw [← List.append_nil (backwardsFrom 1 rest),
            findParent_plain (plain_backwardsFrom hrest 1) hempty]
          rfl
      rw [List.cons_append, directoryEnd?_cons, hnone]
      exact if_neg (Ne.symm hfirst)

/-- The directory in front of the separator before a portion, which is the root if
nothing else is there. -/
def parent (front : List u) : List u :=
  if front = [] then [separator] else front

/-- The directory ends where the separator before the portion is, except that the root and
two separators at the start of a path belong to it. -/
theorem directoryEnd?_below (front : List u) {base : List u} (portion : IsPortion base)
    (count : Nat) :
    directoryEnd? (front ++ separator :: base ++ List.replicate count separator) =
      some (if front = [separator] then 2 else (parent front).length) := by
  -- Up to the separator before the portion, the reading is the same for all fronts.
  have hread (start : Nat) (between : List u) :
      findParent false (backwardsFrom start
        (between ++ separator :: base ++ List.replicate count separator)) =
          some (start + between.length) := by
    rw [backwardsFrom_append, findParent_bare (bare_backwardsFrom _ count), backwardsFrom_append,
      backwardsFrom_cons, List.append_assoc,
      findParent_plain (plain_backwardsFrom portion.separator_notMem _)
        (portion.backwardsFrom_ne_nil _), List.singleton_append, findParent, if_pos rfl,
      if_pos rfl]
  cases front with
  | nil =>
      have hnone : findParent false
          (backwardsFrom 1 (base ++ List.replicate count separator)) = none := by
        rw [backwardsFrom_append, findParent_bare (bare_backwardsFrom _ count),
          ← List.append_nil (backwardsFrom 1 base),
          findParent_plain (plain_backwardsFrom portion.separator_notMem 1)
            (portion.backwardsFrom_ne_nil 1)]
        rfl
      rw [List.nil_append, List.cons_append, directoryEnd?_cons, hnone]
      simp [parent]
  | cons first between =>
      rw [parent, if_neg (List.cons_ne_nil first between), List.cons_append, List.cons_append,
        directoryEnd?_cons, hread]
      cases between with
      | nil => by_cases hfirst : first = separator <;> simp [hfirst]
      | cons second between =>
          have hlength : 1 + (second :: between).length = between.length + 2 := by
            rw [List.length_cons, Nat.add_comm]
          have hmore : first :: second :: between ≠ [separator] := by simp
          rw [hlength, if_neg hmore]
          rfl

theorem directory_separators (count : Nat) :
    directory (List.replicate count (separator : u)) = if count = 0 then [dot] else [separator] := by
  cases count with
  | zero => rfl
  | succ count =>
      rw [directory, directoryEnd?_separators, if_neg (Nat.succ_ne_zero count),
        if_neg (Nat.succ_ne_zero count), List.replicate_succ]
      rfl

theorem directory_alone {base : List u} (portion : IsPortion base) (count : Nat) :
    directory (base ++ List.replicate count separator) = [dot] := by
  rw [directory, directoryEnd?_alone portion]

/-- A portion below a directory has it for its directory, except that two separators at
the start of a path stay together. -/
theorem directory_below (front : List u) {base : List u} (portion : IsPortion base)
    (count : Nat) :
    directory (front ++ separator :: base ++ List.replicate count separator) =
      if front = [separator] then [separator, separator] else parent front := by
  rw [directory, directoryEnd?_below front portion]
  by_cases hdouble : front = [separator]
  · simp [hdouble]
  · by_cases hnil : front = []
    · simp [hnil, parent]
    · simp [hdouble, hnil, parent]

omit [PathUnit u] [DecidableEq u] in
theorem slice_middle (before middle after : List u) :
    slice (before ++ middle ++ after) (before.length, (before ++ middle).length) = middle := by
  rw [slice, List.take_left, List.drop_left]

theorem portion_separators (count : Nat) :
    portion (List.replicate count (separator : u)) = [] := by
  rw [portion, portionSpan, take_trimmedLength_separators,
    lastSeparator?_of_notMem List.not_mem_nil]
  exact take_trimmedLength_separators count

theorem portion_alone {base : List u} (portion : IsPortion base) (count : Nat) :
    Path.portion (base ++ List.replicate count separator) = base := by
  have ends := portion.getLast?_ne []
  rw [List.nil_append] at ends
  rw [Path.portion, portionSpan, take_trimmedLength ends, trimmedLength_append_separators ends,
    lastSeparator?_of_notMem portion.separator_notMem]
  simpa using slice_middle [] base (List.replicate count separator)

theorem portion_below (front : List u) {base : List u} (portion : IsPortion base) (count : Nat) :
    Path.portion (front ++ separator :: base ++ List.replicate count separator) = base := by
  have ends := portion.getLast?_below_ne front
  rw [Path.portion, portionSpan, take_trimmedLength ends, trimmedLength_append_separators ends,
    lastSeparator?_below front portion.separator_notMem, List.append_cons]
  have hstart : front.length + 1 = (front ++ [separator]).length := by simp
  dsimp only
  rw [hstart]
  exact slice_middle (front ++ [separator]) base (List.replicate count separator)

end CallBench.Path
