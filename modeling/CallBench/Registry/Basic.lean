/-
# Benchmark registries

A registry is an ordered collection of benchmarks, each with a category, a title
and an action. The order in which they are registered is the order in which they
run. What an action is, is left open.
-/

import CallBench.Text.Layout

namespace CallBench

/-- One benchmark. -/
structure Entry (α : Type) where
  category : String
  title : String
  action : α

/-- Benchmarks in the order they were registered. -/
structure Registry (α : Type) where
  entries : List (Entry α) := []

/-- The benchmark as it is shown to a reader, who does not see its action. -/
def Entry.layout {α : Type} (entry : Entry α) : Text.Layout :=
  .record "BenchmarkEntry"
    [("category", .text entry.category), ("title", .text entry.title)] true

namespace Registry

variable {α : Type}

/-- Adds a benchmark at the end. The same category and title can occur again. -/
def register (registry : Registry α) (category title : String) (action : α) : Registry α :=
  ⟨registry.entries ++ [⟨category, title, action⟩]⟩

/-- How many benchmarks there are. -/
def size (registry : Registry α) : Nat :=
  registry.entries.length

/-- Whether there are no benchmarks. -/
def isEmpty (registry : Registry α) : Bool :=
  registry.entries.isEmpty

/-- Category and title of every benchmark. -/
def titles (registry : Registry α) : List (String × String) :=
  registry.entries.map fun entry => (entry.category, entry.title)

/-- Adds a category to those seen so far, unless it is among them. -/
def noteCategory (seen : List String) (entry : Entry α) : List String :=
  if entry.category ∈ seen then seen else seen ++ [entry.category]

/-- The different categories, in the order in which each came first. -/
def categories (registry : Registry α) : List String :=
  registry.entries.foldl noteCategory []

theorem size_register (registry : Registry α) (category title : String) (action : α) :
    (registry.register category title action).size = registry.size + 1 := by
  simp [size, register]

theorem titles_register (registry : Registry α) (category title : String) (action : α) :
    (registry.register category title action).titles =
      registry.titles ++ [(category, title)] := by
  simp [titles, register]

/-- A benchmark of a known category leaves the categories alone; a new category goes
to the end. -/
theorem categories_register (registry : Registry α) (category title : String) (action : α) :
    (registry.register category title action).categories =
      if category ∈ registry.categories then registry.categories
      else registry.categories ++ [category] := by
  rw [categories, register, List.foldl_append]
  rfl

/-- A line for every benchmark: its category and its title, with a tab between. -/
def listing (registry : Registry α) : List String :=
  registry.titles.map fun (category, title) => category ++ "\t" ++ title

/-- The registry as it is shown to a reader. -/
def layout (registry : Registry α) : Text.Layout :=
  .record "Registry" [("entries", .list (registry.entries.map Entry.layout))] false

end Registry

end CallBench
