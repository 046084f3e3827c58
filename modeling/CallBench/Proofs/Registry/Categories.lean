/-
# Categories in the order of first registration

The categories of a registry are collected in one pass over its benchmarks, and no matter how
the benchmarks of different categories alternate, each category is named once, in the order in
which the first benchmarks of the categories were registered. Every registry comes from a new
one by registering benchmarks one by one, so all of this is shown for one benchmark more: a
known category changes nothing, and a new one has its first benchmark behind all others. Along
a history the list of categories therefore only grows at its end.
-/

import CallBench.Proofs.Registry.Growth

namespace CallBench.Registry

variable {α ν σ : Type}

/-- What holds of a new registry, and of every registry with one benchmark more, holds of all
registries. -/
@[elab_as_elim]
theorem registerRec {motive : Registry α → Prop} (new : motive {})
    (register : ∀ registry category title action, motive registry →
      motive (registry.register category title action))
    (registry : Registry α) : motive registry := by
  obtain ⟨entries⟩ := registry
  induction entries using List.reverseRecOn with
  | nil => exact new
  | append_singleton entries entry ih =>
      exact register ⟨entries⟩ entry.category entry.title entry.action ih

theorem categories_eq_eraseDups (registry : Registry α) :
    registry.categories = (registry.entries.map Entry.category).eraseDups := by
  induction registry using registerRec with
  | new => rfl
  | register registry category title action ih =>
      rw [categories_register, ih, register, List.map_append, List.map_singleton,
        Suite.eraseDups_concat]
      exact if_congr List.mem_eraseDups rfl rfl

theorem nodup_categories (registry : Registry α) : registry.categories.Nodup :=
  registry.categories_eq_eraseDups ▸ Suite.nodup_eraseDups _

theorem mem_categories_iff {registry : Registry α} {category : String} :
    category ∈ registry.categories ↔ ∃ entry ∈ registry.entries, entry.category = category := by
  rw [categories_eq_eraseDups, List.mem_eraseDups, List.mem_map]

/-- More benchmarks leave the categories in their places. -/
theorem prefix_categories {registry later : Registry α}
    (grows : registry.entries <+: later.entries) : registry.categories <+: later.categories := by
  obtain ⟨more, hmore⟩ := grows
  rw [categories_eq_eraseDups, categories_eq_eraseDups, ← hmore, List.map_append,
    List.eraseDups_append]
  exact List.prefix_append _ _

/-- Where the first benchmark of a category stands; behind all benchmarks, if there is none. -/
def firstPlace (registry : Registry α) (category : String) : Nat :=
  registry.entries.findIdx (·.category = category)

theorem firstPlace_lt_size_iff {registry : Registry α} {category : String} :
    registry.firstPlace category < registry.size ↔ category ∈ registry.categories := by
  rw [firstPlace, size, List.findIdx_lt_length, mem_categories_iff]
  simp

theorem firstPlace_register_of_mem {registry : Registry α} {known : String}
    (hknown : known ∈ registry.categories) (category title : String) (action : α) :
    (registry.register category title action).firstPlace known = registry.firstPlace known := by
  have hplace := firstPlace_lt_size_iff.mpr hknown
  rw [firstPlace, register, List.findIdx_append]
  exact if_pos hplace

theorem firstPlace_register_self {registry : Registry α} {category : String}
    (new : category ∉ registry.categories) (title : String) (action : α) :
    (registry.register category title action).firstPlace category = registry.size := by
  have hplace := mt firstPlace_lt_size_iff.mp new
  rw [firstPlace, register, List.findIdx_append]
  refine (if_neg hplace).trans ?_
  simp [size]

/-- Categories are named in the order of their first benchmarks. -/
theorem pairwise_firstPlace (registry : Registry α) :
    registry.categories.Pairwise fun first second =>
      registry.firstPlace first < registry.firstPlace second := by
  induction registry using registerRec with
  | new => exact List.Pairwise.nil
  | register registry category title action ih =>
      -- The categories there are keep their first benchmarks, so only a new one is to be placed.
      have hold : registry.categories.Pairwise fun first second =>
          (registry.register category title action).firstPlace first <
            (registry.register category title action).firstPlace second := by
        refine ih.imp_of_mem fun hfirst hsecond hlt => ?_
        rwa [firstPlace_register_of_mem hfirst, firstPlace_register_of_mem hsecond]
      rw [categories_register]
      split_ifs with hknown
      · exact hold
      · refine List.pairwise_append.mpr ⟨hold, List.pairwise_singleton _ _, ?_⟩
        intro first hfirst second hsecond
        rw [List.mem_singleton.mp hsecond, firstPlace_register_of_mem hfirst,
          firstPlace_register_self hknown]
        exact firstPlace_lt_size_iff.mpr hfirst

theorem firstPlace_lt_of_idxOf_lt {registry : Registry α} {first second : String}
    (hsecond : second ∈ registry.categories)
    (hlt : registry.categories.idxOf first < registry.categories.idxOf second) :
    registry.firstPlace first < registry.firstPlace second := by
  have hsecond := List.idxOf_lt_length_of_mem hsecond
  have hplaces := List.pairwise_iff_getElem.mp registry.pairwise_firstPlace _ _
    (Nat.lt_trans hlt hsecond) hsecond hlt
  rwa [List.getElem_idxOf, List.getElem_idxOf] at hplaces

/-- Of two categories the one whose first benchmark was registered earlier is named first. -/
theorem firstPlace_lt_iff {registry : Registry α} {first second : String}
    (hfirst : first ∈ registry.categories) (hsecond : second ∈ registry.categories) :
    registry.firstPlace first < registry.firstPlace second ↔
      registry.categories.idxOf first < registry.categories.idxOf second := by
  refine ⟨fun hlt => ?_, firstPlace_lt_of_idxOf_lt hsecond⟩
  rcases Nat.lt_trichotomy (registry.categories.idxOf first) (registry.categories.idxOf second)
    with hbefore | hsame | hbehind
  · exact hbefore
  · rw [List.idxOf_inj hfirst] at hsame
    exact absurd (hsame ▸ hlt) (Nat.lt_irrefl _)
  · exact absurd hlt (Nat.lt_asymm (firstPlace_lt_of_idxOf_lt hfirst hbehind))

/-- What the categories of a registry are. -/
structure NamesFirstMentions (registry : Registry α) : Prop where
  /-- They are those of the benchmarks, without the later repetitions. -/
  eq_eraseDups : registry.categories = (registry.entries.map Entry.category).eraseDups
  nodup : registry.categories.Nodup
  /-- Each benchmark has its category among them, and no other is there. -/
  mem_iff : ∀ category, category ∈ registry.categories ↔
    ∃ entry ∈ registry.entries, entry.category = category
  /-- Of two the one whose first benchmark was registered earlier comes first. -/
  order : ∀ first ∈ registry.categories, ∀ second ∈ registry.categories,
    (registry.firstPlace first < registry.firstPlace second ↔
      registry.categories.idxOf first < registry.categories.idxOf second)
  /-- A benchmark more brings its category to the end, if it is new. -/
  register : ∀ category title action, (registry.register category title action).categories =
    if category ∈ registry.categories then registry.categories
    else registry.categories ++ [category]

/-- **Categories are named once each, in the order in which they came first.** However a
registry has grown, by benchmarks and by suites, its categories are those of its benchmarks in
the order in which the first benchmarks of the categories were registered. A benchmark more
brings its category to the end, if it is new, and changes nothing otherwise; so what is named
stays in its place whatever is registered later. -/
theorem categories_name_first_mentions (call : Job α → Recorded ν σ Unit)
    (surroundings : Surroundings) (recording : Recording ν σ) (steps : List (Step α)) :
    let after := reached call surroundings recording
    NamesFirstMentions (after steps).1 ∧
    (∀ category title action, (after (steps ++ [.register category title action])).1 =
      (after steps).1.register category title (.custom action)) ∧
    ∀ later, (after steps).1.categories <+: (after (steps ++ later)).1.categories := by
  intro after
  refine ⟨⟨categories_eq_eraseDups _, nodup_categories _, fun _ => mem_categories_iff,
    fun first hfirst second hsecond => firstPlace_lt_iff hfirst hsecond, categories_register _⟩,
    fun category title action => ?_, fun later => ?_⟩
  · exact congrArg Prod.fst (reached_append_singleton call surroundings recording steps _)
  · exact prefix_categories (entries_grow call surroundings recording steps later)

/-- Benchmarks of somebody's own before, between and behind those of two suites, one of them
under the category of a suite, with a run in between that ends at its first line. -/
def interleaved : List (Step Unit) :=
  [.register "path" "own" (), .part .os, .run 1, .register "own" "own" (), .suite "path",
    .suite "net", .register "os" "own" ()]

theorem categories_of_interleaved :
    let after := reached (fun _ => pure () : Job Unit → Recorded Unit Unit Unit)
      ⟨.error .notFound, fun _ => none, .error .notFound, fun _ => .ofNanos 0⟩ { state := () }
    let registry := (after interleaved).1
    registry.categories = ["path", "os", "own"] ∧
    registry.firstPlace "os" = 1 ∧ registry.firstPlace "own" = 6 ∧
    registry.categories.idxOf "os" < registry.categories.idxOf "own" ∧
    registry.categories <+: (after (interleaved ++ [.allSuites])).1.categories := by
  intro after registry
  obtain ⟨names, -, hgrow⟩ := categories_name_first_mentions
    (fun _ => pure () : Job Unit → Recorded Unit Unit Unit)
    ⟨.error .notFound, fun _ => none, .error .notFound, fun _ => .ofNanos 0⟩ { state := () }
    interleaved
  have hcategories : registry.categories = ["path", "os", "own"] := by decide +kernel
  have hos : registry.firstPlace "os" = 1 := by decide +kernel
  have hown : registry.firstPlace "own" = 6 := by decide +kernel
  have hbefore := (names.order "os" (by rw [hcategories]; decide) "own"
    (by rw [hcategories]; decide)).mp (by rw [hos, hown]; decide)
  exact ⟨hcategories, hos, hown, hbefore, hgrow _⟩

end CallBench.Registry
