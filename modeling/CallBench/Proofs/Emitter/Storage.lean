/-
# What an emitter stores

The storage of an emitter changes in two ways only: the listeners of a name are extended,
or they are restricted and an emptied name goes. Both keep the storage orderly, so that a
name has a place exactly when it has listeners. Here both changes are said as changes of
what is seen from outside: the listeners of each name, and the names in their order.
-/

import CallBench.Emitter.Basic

namespace CallBench.Emitter

variable {β : Type}

/-- The listeners of a name in the storage of an emitter; none when it has no place. -/
def listenersIn (events : List (String × List (Listener β))) (name : String) :
    List (Listener β) :=
  ((events.find? (·.1 = name)).map (·.2)).getD []

/-- The names in the storage of an emitter. -/
def namesIn (events : List (String × List (Listener β))) : List String :=
  events.map (·.1)

/-- Storage that has one place for each name, and only names with listeners. -/
structure Orderly (events : List (String × List (Listener β))) : Prop where
  nodup : (namesIn events).Nodup
  nonempty : ∀ event ∈ events, event.2 ≠ []

theorem listenersIn_cons (event : String × List (Listener β))
    (events : List (String × List (Listener β))) (name : String) :
    listenersIn (event :: events) name =
      if event.1 = name then event.2 else listenersIn events name := by
  by_cases hname : event.1 = name <;> simp [listenersIn, hname]

theorem namesIn_cons (event : String × List (Listener β))
    (events : List (String × List (Listener β))) :
    namesIn (event :: events) = event.1 :: namesIn events :=
  rfl

theorem listenersIn_of_notMem {events : List (String × List (Listener β))} {name : String}
    (habsent : name ∉ namesIn events) : listenersIn events name = [] := by
  induction events with
  | nil => rfl
  | cons event events ih =>
      rw [namesIn_cons, List.mem_cons, not_or] at habsent
      rw [listenersIn_cons, if_neg (Ne.symm habsent.1)]
      exact ih habsent.2

namespace Orderly

theorem nil : Orderly ([] : List (String × List (Listener β))) :=
  ⟨List.nodup_nil, by simp⟩

theorem tail {event : String × List (Listener β)} {events : List (String × List (Listener β))}
    (orderly : Orderly (event :: events)) : Orderly events :=
  ⟨(List.nodup_cons.mp orderly.nodup).2,
    fun later hmem => orderly.nonempty later (List.mem_cons_of_mem _ hmem)⟩

theorem notMem_tail {event : String × List (Listener β)}
    {events : List (String × List (Listener β))} (orderly : Orderly (event :: events)) :
    event.1 ∉ namesIn events :=
  (List.nodup_cons.mp orderly.nodup).1

/-- A name has a place exactly when it has listeners. -/
theorem mem_namesIn_iff {events : List (String × List (Listener β))} (orderly : Orderly events)
    {name : String} : name ∈ namesIn events ↔ listenersIn events name ≠ [] := by
  constructor
  · intro hmem
    induction events with
    | nil => simp [namesIn] at hmem
    | cons event events ih =>
        rw [listenersIn_cons]
        by_cases hname : event.1 = name
        · rw [if_pos hname]
          exact orderly.nonempty event List.mem_cons_self
        · rw [if_neg hname]
          apply ih orderly.tail
          rw [namesIn_cons, List.mem_cons] at hmem
          exact hmem.resolve_left (Ne.symm hname)
  · intro hlisteners
    apply Decidable.byContradiction
    intro habsent
    exact hlisteners (listenersIn_of_notMem habsent)

end Orderly

theorem listenersIn_extend (name : String) (change : List (Listener β) → List (Listener β))
    (events : List (String × List (Listener β))) (other : String) :
    listenersIn (extend name change events) other =
      if other = name then change (listenersIn events name) else listenersIn events other := by
  induction events with
  | nil =>
      by_cases hother : other = name
      · simp [extend, listenersIn, hother]
      · simp [extend, listenersIn, hother, Ne.symm hother]
  | cons event events ih =>
      rw [extend]
      by_cases hevent : event.1 = name
      · rw [if_pos hevent, listenersIn_cons, listenersIn_cons, listenersIn_cons]
        by_cases hother : other = name
        · rw [if_pos (hevent.trans hother.symm), if_pos hother, if_pos hevent]
        · have hne : event.1 ≠ other := fun heq => hother (heq.symm.trans hevent)
          rw [if_neg hne, if_neg hother, if_neg hne]
      · rw [if_neg hevent, listenersIn_cons, listenersIn_cons, listenersIn_cons, ih,
          if_neg hevent]
        by_cases hother : other = name
        · have hne : event.1 ≠ other := fun heq => hevent (heq.trans hother)
          rw [if_pos hother, if_neg hne, if_pos hother]
        · rw [if_neg hother, if_neg hother]

theorem namesIn_extend (name : String) (change : List (Listener β) → List (Listener β))
    (events : List (String × List (Listener β))) :
    namesIn (extend name change events) =
      if name ∈ namesIn events then namesIn events else namesIn events ++ [name] := by
  induction events with
  | nil => rfl
  | cons event events ih =>
      by_cases hevent : event.1 = name
      · simp [extend, namesIn, hevent]
      · rw [extend, if_neg hevent, namesIn_cons, namesIn_cons, ih]
        by_cases hmem : name ∈ namesIn events
        · rw [if_pos hmem, if_pos (List.mem_cons_of_mem _ hmem)]
        · have hnew : name ∉ event.1 :: namesIn events := by
            rw [List.mem_cons, not_or]
            exact ⟨Ne.symm hevent, hmem⟩
          rw [if_neg hmem, if_neg hnew, List.cons_append]

/-- What holds of all lists of listeners, and of each list that is extended, still holds. -/
theorem forall_extend (holds : List (Listener β) → Prop)
    {events : List (String × List (Listener β))} (hall : ∀ event ∈ events, holds event.2)
    (name : String) {change : List (Listener β) → List (Listener β)}
    (hchange : ∀ listeners, listeners = [] ∨ holds listeners → holds (change listeners)) :
    ∀ event ∈ extend name change events, holds event.2 := by
  induction events with
  | nil =>
      intro event hevent
      rw [extend, List.mem_singleton] at hevent
      rw [hevent]
      exact hchange [] (.inl rfl)
  | cons first events ih =>
      obtain ⟨hfirst, hrest⟩ := List.forall_mem_cons.mp hall
      rw [extend]
      by_cases hname : first.1 = name
      · rw [if_pos hname]
        exact List.forall_mem_cons.mpr ⟨hchange first.2 (.inr hfirst), hrest⟩
      · rw [if_neg hname]
        exact List.forall_mem_cons.mpr ⟨hfirst, ih hrest⟩

theorem Orderly.extend {events : List (String × List (Listener β))} (orderly : Orderly events)
    (name : String) {change : List (Listener β) → List (Listener β)}
    (filled : ∀ listeners, change listeners ≠ []) :
    Orderly (Emitter.extend name change events) := by
  refine ⟨?_, forall_extend (· ≠ []) orderly.nonempty name fun listeners _ => filled listeners⟩
  rw [namesIn_extend]
  by_cases hmem : name ∈ namesIn events
  · rw [if_pos hmem]
    exact orderly.nodup
  · rw [if_neg hmem]
    exact List.nodup_append.mpr ⟨orderly.nodup, by simp,
      fun first hfirst second hsecond heq =>
        hmem (List.mem_singleton.mp hsecond ▸ heq ▸ hfirst)⟩

/-- What becomes of the first place under a restriction of its name. -/
theorem restrict_cons_self (event : String × List (Listener β))
    (events : List (String × List (Listener β)))
    (change : List (Listener β) → List (Listener β)) :
    restrict event.1 change (event :: events) =
      if change event.2 = [] then events else (event.1, change event.2) :: events := by
  rw [restrict, if_pos rfl]
  cases change event.2 with
  | nil => rfl
  | cons first rest => rfl

theorem restrict_cons_of_ne {event : String × List (Listener β)} {name : String}
    (hname : event.1 ≠ name) (events : List (String × List (Listener β)))
    (change : List (Listener β) → List (Listener β)) :
    restrict name change (event :: events) = event :: restrict name change events := by
  rw [restrict, if_neg hname]

theorem namesIn_restrict {events : List (String × List (Listener β))} (orderly : Orderly events)
    (name : String) (change : List (Listener β) → List (Listener β)) :
    namesIn (restrict name change events) =
      if change (listenersIn events name) = [] then (namesIn events).filter (· ≠ name)
      else namesIn events := by
  induction events with
  | nil => simp [restrict, namesIn]
  | cons event events ih =>
      rw [listenersIn_cons]
      by_cases hname : event.1 = name
      · subst hname
        have hrest : (namesIn events).filter (· ≠ event.1) = namesIn events := by
          rw [List.filter_eq_self]
          intro other hother
          have hne : other ≠ event.1 := fun heq => orderly.notMem_tail (heq ▸ hother)
          simpa using hne
        rw [restrict_cons_self, if_pos rfl]
        by_cases hchange : change event.2 = []
        · rw [if_pos hchange, if_pos hchange]
          simpa [namesIn] using hrest.symm
        · rw [if_neg hchange, if_neg hchange]
          rfl
      · rw [restrict_cons_of_ne hname, namesIn_cons, namesIn_cons, ih orderly.tail,
          if_neg hname]
        by_cases hchange : change (listenersIn events name) = []
        · rw [if_pos hchange, if_pos hchange, List.filter_cons_of_pos (by simpa using hname)]
        · rw [if_neg hchange, if_neg hchange]

theorem listenersIn_restrict {events : List (String × List (Listener β))}
    (orderly : Orderly events) (name : String)
    {change : List (Listener β) → List (Listener β)} (hnil : change [] = []) (other : String) :
    listenersIn (restrict name change events) other =
      if other = name then change (listenersIn events name) else listenersIn events other := by
  induction events with
  | nil =>
      by_cases hother : other = name
      · rw [if_pos hother]
        exact hnil.symm
      · rw [if_neg hother]
        rfl
  | cons event events ih =>
      by_cases hname : event.1 = name
      · subst hname
        rw [restrict_cons_self, listenersIn_cons, listenersIn_cons, if_pos rfl]
        by_cases hother : other = event.1
        · subst hother
          rw [if_pos rfl]
          by_cases hchange : change event.2 = []
          · rw [if_pos hchange, hchange, listenersIn_of_notMem orderly.notMem_tail]
          · rw [if_neg hchange, listenersIn_cons, if_pos rfl]
        · rw [if_neg hother, if_neg (Ne.symm hother)]
          by_cases hchange : change event.2 = []
          · rw [if_pos hchange]
          · rw [if_neg hchange, listenersIn_cons, if_neg (Ne.symm hother)]
      · rw [restrict_cons_of_ne hname, listenersIn_cons, listenersIn_cons, listenersIn_cons,
          ih orderly.tail, if_neg hname]
        by_cases hother : other = name
        · subst hother
          rw [if_pos rfl, if_neg hname, if_pos rfl]
        · rw [if_neg hother, if_neg hother]

/-- What holds of all lists of listeners, and of each list that is left of a restriction,
still holds. -/
theorem forall_restrict (holds : List (Listener β) → Prop)
    {events : List (String × List (Listener β))} (hall : ∀ event ∈ events, holds event.2)
    (name : String) {change : List (Listener β) → List (Listener β)}
    (hchange : ∀ listeners, holds listeners → change listeners ≠ [] →
      holds (change listeners)) :
    ∀ event ∈ restrict name change events, holds event.2 := by
  induction events with
  | nil => simp [restrict]
  | cons first events ih =>
      obtain ⟨hfirst, hrest⟩ := List.forall_mem_cons.mp hall
      by_cases hname : first.1 = name
      · subst hname
        rw [restrict_cons_self]
        by_cases hempty : change first.2 = []
        · rw [if_pos hempty]
          exact hrest
        · rw [if_neg hempty]
          exact List.forall_mem_cons.mpr ⟨hchange first.2 hfirst hempty, hrest⟩
      · rw [restrict_cons_of_ne hname]
        exact List.forall_mem_cons.mpr ⟨hfirst, ih hrest⟩

theorem Orderly.restrict {events : List (String × List (Listener β))}
    (orderly : Orderly events) (name : String)
    (change : List (Listener β) → List (Listener β)) :
    Orderly (Emitter.restrict name change events) := by
  refine ⟨?_, forall_restrict (· ≠ []) orderly.nonempty name fun _ _ hleft => hleft⟩
  rw [namesIn_restrict orderly]
  by_cases hchange : change (listenersIn events name) = []
  · rw [if_pos hchange]
    exact orderly.nodup.filter _
  · rw [if_neg hchange]
    exact orderly.nodup

theorem place_ne_nil (placement : Placement) (listener : Listener β)
    (listeners : List (Listener β)) : place placement listener listeners ≠ [] := by
  cases placement <;> simp [place]

namespace Orderly

variable {emitter : Emitter β}

theorem add (orderly : Orderly emitter.events) (placement : Placement) (once : Bool)
    (name : String) (callback : β) :
    Orderly (emitter.add placement once name callback).2.events :=
  orderly.extend name (place_ne_nil placement _)

theorem off (orderly : Orderly emitter.events) (name : String) (id : ListenerId) :
    Orderly (emitter.off name id).2.events := by
  rw [Emitter.off]
  cases ((emitter.listeners? name).getD []).any (·.id = id) with
  | false => exact orderly
  | true => exact orderly.restrict name _

theorem detachOnce (orderly : Orderly emitter.events) (name : String) :
    Orderly (emitter.detachOnce name).events :=
  orderly.restrict name _

/-- A name has listeners or it has no place. -/
theorem listeners?_eq (orderly : Orderly emitter.events) (name : String) :
    emitter.listeners? name =
      if listenersIn emitter.events name = [] then none
      else some (listenersIn emitter.events name) := by
  cases hlisteners : emitter.listeners? name with
  | none =>
      have hnil : listenersIn emitter.events name = [] := congrArg (·.getD []) hlisteners
      rw [if_pos hnil]
  | some listeners =>
      have heq : listenersIn emitter.events name = listeners := congrArg (·.getD []) hlisteners
      have hmem : name ∈ namesIn emitter.events := by
        apply Decidable.byContradiction
        intro habsent
        rw [listeners?_eq_none_iff.mpr habsent] at hlisteners
        cases hlisteners
      rw [if_neg (orderly.mem_namesIn_iff.mp hmem), heq]

theorem listeners?_detachOnce (orderly : Orderly emitter.events) (name other : String) :
    (emitter.detachOnce name).listeners? other =
      if other = name then
        if (listenersIn emitter.events name).filter (!·.once) = [] then none
        else some ((listenersIn emitter.events name).filter (!·.once))
      else emitter.listeners? other := by
  rw [(orderly.detachOnce name).listeners?_eq, Emitter.detachOnce,
    listenersIn_restrict orderly name List.filter_nil]
  by_cases hother : other = name
  · rw [if_pos hother, if_pos hother]
  · rw [if_neg hother, if_neg hother, orderly.listeners?_eq]

end Orderly

/-- A removal tells whether the name has the id. -/
theorem off_fst (emitter : Emitter β) (name : String) (id : ListenerId) :
    (emitter.off name id).1 = (listenersIn emitter.events name).any (·.id = id) := by
  have hlisteners : (emitter.listeners? name).getD [] = listenersIn emitter.events name := rfl
  rw [off, hlisteners]
  cases (listenersIn emitter.events name).any (·.id = id) <;> rfl

theorem listenerCount_eq_length (emitter : Emitter β) (name : String) :
    emitter.listenerCount name = (listenersIn emitter.events name).length := by
  rw [listenerCount, listenersIn, listeners?]
  cases emitter.events.find? (·.1 = name) <;> rfl

/-- How many of the stored listeners are counted. -/
def storedCount (counts : Listener β → Bool) : List (String × List (Listener β)) → Nat
  | [] => 0
  | event :: events => event.2.countP counts + storedCount counts events

/-- An extension counts for what it makes of one list. -/
theorem storedCount_extend (counts : Listener β → Bool)
    (events : List (String × List (Listener β))) (name : String)
    (change : List (Listener β) → List (Listener β)) :
    storedCount counts (extend name change events) + (listenersIn events name).countP counts =
      storedCount counts events + (change (listenersIn events name)).countP counts := by
  induction events with
  | nil =>
      rw [extend, storedCount]
      show (change []).countP counts + 0 + 0 = 0 + (change []).countP counts
      omega
  | cons event events ih =>
      rw [extend, storedCount, listenersIn_cons]
      by_cases hname : event.1 = name
      · rw [if_pos hname, if_pos hname, storedCount]
        dsimp only
        omega
      · rw [if_neg hname, if_neg hname, storedCount]
        dsimp only
        omega

/-- A restriction counts for what it makes of one list. -/
theorem storedCount_restrict (counts : Listener β → Bool)
    (events : List (String × List (Listener β))) (name : String)
    (change : List (Listener β) → List (Listener β)) (hnil : change [] = []) :
    storedCount counts (restrict name change events) + (listenersIn events name).countP counts =
      storedCount counts events + (change (listenersIn events name)).countP counts := by
  induction events with
  | nil =>
      show 0 + 0 = 0 + (change []).countP counts
      rw [hnil, List.countP_nil]
  | cons event events ih =>
      rw [storedCount, listenersIn_cons]
      by_cases hname : event.1 = name
      · subst hname
        rw [restrict_cons_self, if_pos rfl]
        by_cases hempty : change event.2 = []
        · rw [if_pos hempty, hempty, List.countP_nil]
          omega
        · rw [if_neg hempty, storedCount]
          dsimp only
          omega
      · rw [restrict_cons_of_ne hname, storedCount, if_neg hname]
        omega

theorem storedCount_off_le (counts : Listener β → Bool) (emitter : Emitter β) (name : String)
    (id : ListenerId) :
    storedCount counts (emitter.off name id).2.events ≤ storedCount counts emitter.events := by
  rw [off]
  cases ((emitter.listeners? name).getD []).any (·.id = id) with
  | false => exact Nat.le_refl _
  | true =>
      have hstored := storedCount_restrict counts emitter.events name (List.eraseP (·.id = id)) rfl
      have herased := (List.eraseP_sublist (p := (·.id = id))
        (l := listenersIn emitter.events name)).countP_le (p := counts)
      show storedCount counts (restrict name _ emitter.events) ≤ _
      omega

end CallBench.Emitter
