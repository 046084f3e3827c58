/-
# Actions that do the same

Two actions may differ in general and still do the same from every recording that a run can
come to. `Agree` says that they do from the recordings with a property, and that the property
is not lost; so it can be gone through the parts of a run, and where each part of one run
agrees with the same part of another, the runs do. An action agrees with itself if it keeps
the property.
-/

import CallBench.Proofs.Recording.Invariant

namespace CallBench.Recorded

variable {ν σ α β : Type}

/-- From recordings with a property two actions do the same, and they do not lose it. -/
def Agree (property : Recording ν σ → Prop) (first second : Recorded ν σ α) : Prop :=
  ∀ surroundings recording, property recording →
    first.runFrom surroundings recording = second.runFrom surroundings recording ∧
      property (second.runFrom surroundings recording).2

variable {property : Recording ν σ → Prop}

theorem Keeps.agree {action : Recorded ν σ α} (kept : Keeps property action) :
    Agree property action action :=
  fun surroundings recording holds => ⟨rfl, kept surroundings recording holds⟩

theorem Agree.keeps {first second : Recorded ν σ α} (agree : Agree property first second) :
    Keeps property second :=
  fun surroundings recording holds => (agree surroundings recording holds).2

theorem Agree.bind {first second : Recorded ν σ α} (agree : Agree property first second)
    {next other : α → Recorded ν σ β} (rest : ∀ value, Agree property (next value) (other value)) :
    Agree property (first >>= next) (second >>= other) := by
  intro surroundings recording holds
  obtain ⟨hsame, hkept⟩ := agree surroundings recording holds
  rw [runFrom_bind, runFrom_bind, hsame]
  revert hkept
  rcases second.runFrom surroundings recording with ⟨stop | value, later⟩
  · exact fun hkept => ⟨rfl, hkept⟩
  · exact fun hkept => rest value surroundings later hkept

theorem Agree.resultOf {first second : Recorded ν σ α} (agree : Agree property first second) :
    Agree property (CallBench.resultOf first) (CallBench.resultOf second) := by
  intro surroundings recording holds
  obtain ⟨hsame, hkept⟩ := agree surroundings recording holds
  rw [runFrom_resultOf, runFrom_resultOf, hsame]
  exact ⟨rfl, hkept⟩

theorem Agree.forM {ι : Type} {act other : ι → Recorded ν σ Unit} {items : List ι}
    (each : ∀ item ∈ items, Agree property (act item) (other item)) :
    Agree property (items.forM act) (items.forM other) := by
  induction items with
  | nil => exact (Keeps.pure ()).agree
  | cons item items ih =>
      obtain ⟨hitem, hitems⟩ := List.forall_mem_cons.mp each
      exact hitem.bind fun _ => ih hitems

end CallBench.Recorded
