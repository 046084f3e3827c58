/-
# Live listeners of a growing history

A history is read here as it grows by one step at its end, the way an emitter lives it. A
removal or an emission takes listeners out of the live ones and an addition puts one at
their end, so everything that is said of a history's live listeners can be followed step
by step: their arrangement under each name, their ids, and the periods in which a name
has any.
-/

import CallBench.Emitter.History
import Mathlib.Data.List.Induction

namespace CallBench.Emitter

variable {τ β : Type}

/-- The addition that a step makes, if any. -/
def Step.added (next : UInt64) : Step τ β → List (Addition β)
  | .add placement once name callback => [⟨name, placement, ⟨⟨next⟩, callback, once⟩⟩]
  | _ => []

theorem Step.added_of_not_isAddition {step : Step τ β} (hstep : step.isAddition = false)
    (next : UInt64) : step.added next = [] := by
  cases step with
  | add placement once name callback => exact absurd hstep (by simp [Step.isAddition])
  | off name id => rfl
  | emit name argument => rfl

theorem additions_append_singleton (steps : List (Step τ β)) (step : Step τ β) :
    additions (steps ++ [step]) = additions steps + if step.isAddition then 1 else 0 := by
  rw [additions, List.countP_append, List.countP_singleton]
  rfl

/-- A step that adds nothing takes no id, and counts only as a later step. -/
theorem liveFrom_cons_of_not_isAddition {first : Step τ β} (hfirst : first.isAddition = false)
    (next : UInt64) (later : List (Step τ β)) :
    liveFrom next (first :: later) = liveFrom next later := by
  cases first with
  | add placement once name callback => exact absurd hfirst (by simp [Step.isAddition])
  | off name id => rfl
  | emit name argument => rfl

theorem liveFrom_append_singleton (next : UInt64) (steps : List (Step τ β)) (step : Step τ β) :
    liveFrom next (steps ++ [step]) =
      (liveFrom next steps).filter (step.spares ·) ++
        step.added (next + .ofNat (additions steps)) := by
  induction steps generalizing next with
  | nil =>
      have hnext : next + .ofNat (additions ([] : List (Step τ β))) = next := UInt64.add_zero next
      rw [hnext]
      cases step <;> simp [liveFrom, Step.added]
  | cons first steps ih =>
      cases hfirst : first.isAddition with
      | false =>
          have hcount : additions (first :: steps) = additions steps :=
            List.countP_cons_of_neg (by simp [hfirst])
          rw [List.cons_append, liveFrom_cons_of_not_isAddition hfirst,
            liveFrom_cons_of_not_isAddition hfirst, ih, hcount]
      | true =>
          have hcount : additions (first :: steps) = additions steps + 1 :=
            List.countP_cons_of_pos hfirst
          have hnext : next + .ofNat (additions steps + 1) =
              next + 1 + .ofNat (additions steps) := by
            rw [UInt64.ofNat_add, UInt64.add_comm (.ofNat _), ← UInt64.add_assoc]
            rfl
          cases first with
          | off name id => simp [Step.isAddition] at hfirst
          | emit name argument => simp [Step.isAddition] at hfirst
          | add placement once name callback =>
              rw [List.cons_append, liveFrom, ih, liveFrom, hcount, hnext, List.all_append]
              -- The first addition stays exactly if the steps up to now and the last spare it.
              cases steps.all fun later => later.spares
                  (⟨name, placement, ⟨⟨next⟩, callback, once⟩⟩ : Addition β) with
              | false => simp
              | true =>
                  cases hlast : step.spares
                      (⟨name, placement, ⟨⟨next⟩, callback, once⟩⟩ : Addition β) with
                  | false => simp [hlast]
                  | true => simp [hlast]

theorem live_append_singleton (steps : List (Step τ β)) (step : Step τ β) :
    live (steps ++ [step]) =
      (live steps).filter (step.spares ·) ++ step.added (.ofNat (additions steps)) := by
  rw [live, liveFrom_append_singleton, UInt64.zero_add, live]

/-- The listeners of additions to one name in the order they are called. -/
def arrange (additions : List (Addition β)) : List (Listener β) :=
  (additions.filter (·.placement = .first)).reverse.map (·.listener) ++
    (additions.filter (·.placement = .last)).map (·.listener)

theorem liveListeners_eq_arrange (steps : List (Step τ β)) (name : String) :
    liveListeners steps name = arrange (liveAt steps name) :=
  rfl

theorem arrange_append_singleton (earlier : List (Addition β)) (addition : Addition β) :
    arrange (earlier ++ [addition]) =
      place addition.placement addition.listener (arrange earlier) := by
  cases hplacement : addition.placement <;> simp [arrange, place, hplacement]

theorem arrange_filter (additions : List (Addition β)) (keep : Listener β → Bool) :
    arrange (additions.filter (keep ·.listener)) = (arrange additions).filter keep := by
  simp only [arrange, List.filter_append, List.filter_map, List.filter_reverse,
    List.filter_filter, Function.comp_def, Bool.and_comm]

/-- The arrangement puts the listeners in another order, and no more. -/
theorem arrange_perm (additions : List (Addition β)) :
    (arrange additions).Perm (additions.map (·.listener)) := by
  have hlast : additions.filter (·.placement = .last) =
      additions.filter fun addition => !decide (addition.placement = .first) := by
    congr 1
    funext addition
    cases addition.placement <;> rfl
  have hperm := (List.filter_append_perm (·.placement = .first) additions).map (·.listener)
  rw [List.map_append, ← hlast] at hperm
  exact (((List.reverse_perm _).map _).append_right _).trans hperm

theorem length_liveListeners (steps : List (Step τ β)) (name : String) :
    (liveListeners steps name).length = (liveAt steps name).length := by
  rw [liveListeners_eq_arrange, (arrange_perm _).length_eq, List.length_map]

theorem liveListeners_eq_nil_iff (steps : List (Step τ β)) (name : String) :
    liveListeners steps name = [] ↔ liveAt steps name = [] := by
  rw [← List.length_eq_zero_iff, length_liveListeners, List.length_eq_zero_iff]

theorem liveAt_append_singleton (steps : List (Step τ β)) (step : Step τ β) (name : String) :
    liveAt (steps ++ [step]) name =
      (liveAt steps name).filter (step.spares ·) ++
        (step.added (.ofNat (additions steps))).filter (·.name = name) := by
  rw [liveAt, live_append_singleton, List.filter_append, List.filter_filter, liveAt,
    List.filter_filter]
  simp only [Bool.and_comm]

theorem liveListeners_add (steps : List (Step τ β)) (placement : Placement) (once : Bool)
    (name : String) (callback : β) (other : String) :
    liveListeners (steps ++ [.add placement once name callback]) other =
      if other = name then
        place placement ⟨⟨.ofNat (additions steps)⟩, callback, once⟩ (liveListeners steps other)
      else liveListeners steps other := by
  have hkept : (liveAt steps other).filter
      ((Step.add (τ := τ) placement once name callback).spares ·) = liveAt steps other :=
    List.filter_eq_self.mpr fun _ _ => rfl
  rw [liveListeners_eq_arrange, liveAt_append_singleton, hkept, Step.added]
  by_cases hother : other = name
  · rw [if_pos hother, List.filter_cons_of_pos (by simpa using hother.symm), List.filter_nil,
      arrange_append_singleton, liveListeners_eq_arrange]
  · rw [if_neg hother, List.filter_cons_of_neg (by simpa using Ne.symm hother), List.filter_nil,
      List.append_nil, liveListeners_eq_arrange]

/-- A step that takes out the listeners of a name which are not to be kept. -/
structure Step.Restricts (step : Step τ β) (name : String) (keep : Listener β → Bool) :
    Prop where
  spares_eq : ∀ addition, step.spares addition = (!(name = addition.name) || keep addition.listener)
  added_eq_nil : ∀ next, step.added next = []

theorem Step.Restricts.isAddition_eq_false {step : Step τ β} {name : String}
    {keep : Listener β → Bool} (restricts : step.Restricts name keep) :
    step.isAddition = false := by
  cases step with
  | add placement once name callback => exact absurd (restricts.added_eq_nil 0) (by simp [added])
  | off name id => rfl
  | emit name argument => rfl

theorem Step.restricts_off (name : String) (id : ListenerId) :
    (Step.off name id : Step τ β).Restricts name
      fun listener => !decide (listener.id = id) := by
  refine ⟨?_, fun _ => rfl⟩
  intro addition
  rw [Step.spares, Bool.not_and]
  simp only [eq_comm]

theorem Step.restricts_emit (name : String) (argument : τ) :
    (Step.emit name argument : Step τ β).Restricts name (!·.once) := by
  refine ⟨?_, fun _ => rfl⟩
  intro addition
  rw [Step.spares, Bool.not_and]

theorem liveListeners_restricts {step : Step τ β} {name : String} {keep : Listener β → Bool}
    (restricts : step.Restricts name keep) (steps : List (Step τ β)) (other : String) :
    liveListeners (steps ++ [step]) other =
      if other = name then (liveListeners steps other).filter keep
      else liveListeners steps other := by
  rw [liveListeners_eq_arrange, liveAt_append_singleton, restricts.added_eq_nil, List.filter_nil,
    List.append_nil, liveListeners_eq_arrange]
  by_cases hother : other = name
  · rw [if_pos hother, ← arrange_filter]
    congr 1
    apply List.filter_congr
    intro addition hmem
    have hname : addition.name = other := by simpa using (List.mem_filter.mp hmem).2
    simp [restricts.spares_eq, hname, hother]
  · rw [if_neg hother]
    congr 1
    rw [List.filter_eq_self]
    intro addition hmem
    have hname : addition.name = other := by simpa using (List.mem_filter.mp hmem).2
    simp [restricts.spares_eq, hname, Ne.symm hother]

/-- Ids are handed out upwards, and as long as they last none is handed out twice. -/
theorem live_ids {steps : List (Step τ β)} (few : additions steps ≤ UInt64.size) :
    (∀ addition ∈ live steps, addition.listener.id.number.toNat < additions steps) ∧
      (live steps).Pairwise fun earlier later =>
        earlier.listener.id.number.toNat < later.listener.id.number.toNat := by
  induction steps using List.reverseRecOn with
  | nil => exact ⟨by simp [live, liveFrom], List.Pairwise.nil⟩
  | append_singleton steps step ih =>
      have hcount := additions_append_singleton steps step
      obtain ⟨hbelow, hordered⟩ := ih (by omega)
      rw [live_append_singleton]
      cases hstep : step.isAddition with
      | false =>
          rw [Step.added_of_not_isAddition hstep, List.append_nil]
          refine ⟨?_, hordered.filter _⟩
          intro addition hmem
          have hid := hbelow addition (List.mem_filter.mp hmem).1
          omega
      | true =>
          have hnext : (UInt64.ofNat (additions steps)).toNat = additions steps :=
            UInt64.toNat_ofNat_of_lt' (by simp [hstep] at hcount; omega)
          have hnew : ∀ addition ∈ step.added (.ofNat (additions steps)),
              addition.listener.id.number.toNat = additions steps := by
            cases step with
            | add placement once name callback => simpa [Step.added] using hnext
            | off name id => simp [Step.added]
            | emit name argument => simp [Step.added]
          have hone : (step.added (.ofNat (additions steps))).Pairwise fun earlier later =>
              earlier.listener.id.number.toNat < later.listener.id.number.toNat := by
            cases step <;> simp [Step.added]
          refine ⟨?_, List.pairwise_append.mpr ⟨hordered.filter _, hone, ?_⟩⟩
          · intro addition hmem
            rcases List.mem_append.mp hmem with hearlier | hlast
            · have hid := hbelow addition (List.mem_filter.mp hearlier).1
              omega
            · have hid := hnew addition hlast
              simp only [hstep, if_true] at hcount
              omega
          · intro earlier hearlier later hlater
            have hid := hbelow earlier (List.mem_filter.mp hearlier).1
            have hlast := hnew later hlater
            omega

/-- The listeners of a name have different ids. -/
theorem liveListeners_ids_nodup {steps : List (Step τ β)} (few : additions steps ≤ UInt64.size)
    (name : String) : ((liveListeners steps name).map (·.id)).Nodup := by
  have hids : ((liveAt steps name).map (·.listener.id)).Nodup := by
    rw [List.Nodup, List.pairwise_map]
    apply ((live_ids few).2.filter _).imp
    intro earlier later hlt heq
    rw [heq] at hlt
    exact Nat.lt_irrefl _ hlt
  have hperm := (arrange_perm (liveAt steps name)).map (·.id)
  rw [List.map_map] at hperm
  exact hperm.nodup_iff.mpr hids

theorem hasHeld_append_singleton {steps : List (Step τ β)} {step : Step τ β} {name : String}
    {since : Nat} (hsince : since ≤ steps.length + 1) :
    HasHeld (steps ++ [step]) name since ↔
      liveAt (steps ++ [step]) name ≠ [] ∧ HasHeld steps name since := by
  have hlength : (steps ++ [step]).length = steps.length + 1 := List.length_append
  constructor
  · intro held
    constructor
    · have hlast := held (steps.length + 1) hsince (by omega)
      rwa [List.take_of_length_le (by omega)] at hlast
    · intro taken hfrom hto
      have hearlier := held taken hfrom (by omega)
      rwa [List.take_append_of_le_length hto] at hearlier
  · intro ⟨hlast, held⟩ taken hfrom hto
    rcases Nat.lt_or_ge steps.length taken with hbeyond | hwithin
    · rwa [List.take_of_length_le (by omega)]
    · rw [List.take_append_of_le_length hwithin]
      exact held taken hfrom hwithin

/-- A name that keeps a live listener stays in its period. -/
theorem BeganAt.append_singleton {steps : List (Step τ β)} {name : String} {start : Nat}
    (began : BeganAt steps name start) {step : Step τ β}
    (hlive : liveAt (steps ++ [step]) name ≠ []) :
    BeganAt (steps ++ [step]) name start := by
  obtain ⟨hstart, held, hfirst⟩ := began
  refine ⟨by rw [List.length_append]; omega, ?_, ?_⟩
  · exact (hasHeld_append_singleton (by omega)).mpr ⟨hlive, held⟩
  · intro earlier hearlier hheld
    exact hfirst earlier hearlier ((hasHeld_append_singleton (by omega)).mp hheld).2

/-- A name that has got its only live listener begins a period. -/
theorem beganAt_append_singleton {steps : List (Step τ β)} {name : String}
    (hempty : liveAt steps name = []) {step : Step τ β}
    (hlive : liveAt (steps ++ [step]) name ≠ []) :
    BeganAt (steps ++ [step]) name (steps.length + 1) := by
  have hlength : (steps ++ [step]).length = steps.length + 1 := List.length_append
  refine ⟨by omega, ?_, ?_⟩
  · refine (hasHeld_append_singleton (by omega)).mpr ⟨hlive, ?_⟩
    intro taken hfrom hto
    omega
  · intro earlier hearlier hheld
    have held := ((hasHeld_append_singleton (by omega)).mp hheld).2
    have hnow := held steps.length (by omega) (by omega)
    rw [List.take_length] at hnow
    exact hnow hempty

end CallBench.Emitter
