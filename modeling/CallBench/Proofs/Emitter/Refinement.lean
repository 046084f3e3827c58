/-
# Emitters and their histories

An emitter changes its storage in place, and nothing in it remembers what has happened.
Still it is exactly what its history says: under each name the live listeners, and the
names in the order in which their present periods began. `Represents` is the relation
between the two that every step keeps, whatever the listeners do that are called on the
way. Removals look for an id and stop at the first; this is enough because ids are not
handed out twice as long as fewer than `2 ^ 64` listeners are added.
-/

import CallBench.Proofs.Emitter.Live
import CallBench.Proofs.Emitter.Storage
import CallBench.Proofs.Recording.Journal

namespace CallBench.Emitter

variable {τ β ν σ : Type}

/-- Whether the present period of a name began with the addition at a position of the
history. -/
structure BeganWith (steps : List (Step τ β)) (name : String) (position : Nat) : Prop where
  addition : ∃ placement once callback,
    steps[position]? = some (.add placement once name callback)
  beganAt : BeganAt steps name (position + 1)

/-- Names in the order of the additions with which their present periods began. -/
def InOrder (steps : List (Step τ β)) (names : List String) : Prop :=
  ∃ began : String → Nat, (∀ name ∈ names, BeganWith steps name (began name)) ∧
    names.Pairwise (began · < began ·)

/-- What an emitter has in common with its history. -/
structure Represents (steps : List (Step τ β)) (emitter : Emitter β) : Prop where
  nextId_eq : emitter.nextId = .ofNat (additions steps)
  orderly : Orderly emitter.events
  listeners_eq : ∀ name, listenersIn emitter.events name = liveListeners steps name
  inOrder : InOrder steps (namesIn emitter.events)

theorem restrict_congr {events : List (String × List (Listener β))} {name : String}
    {first second : List (Listener β) → List (Listener β)}
    (same : first (listenersIn events name) = second (listenersIn events name)) :
    restrict name first events = restrict name second events := by
  induction events with
  | nil => rfl
  | cons event events ih =>
      rw [listenersIn_cons] at same
      by_cases hname : event.1 = name
      · subst hname
        rw [if_pos rfl] at same
        rw [restrict_cons_self, restrict_cons_self, same]
      · rw [if_neg hname] at same
        rw [restrict_cons_of_ne hname, restrict_cons_of_ne hname, ih same]

theorem restrict_eq_self {events : List (String × List (Listener β))} (orderly : Orderly events)
    {name : String} {change : List (Listener β) → List (Listener β)}
    (same : change (listenersIn events name) = listenersIn events name) :
    restrict name change events = events := by
  induction events with
  | nil => rfl
  | cons event events ih =>
      rw [listenersIn_cons] at same
      by_cases hname : event.1 = name
      · subst hname
        rw [if_pos rfl] at same
        rw [restrict_cons_self, same, if_neg (orderly.nonempty event List.mem_cons_self)]
      · rw [if_neg hname] at same
        rw [restrict_cons_of_ne hname, ih orderly.tail same]

/-- Where ids differ, taking out the first listener with an id takes out all of them. -/
theorem eraseP_eq_filter {listeners : List (Listener β)} (nodup : (listeners.map (·.id)).Nodup)
    (id : ListenerId) :
    listeners.eraseP (·.id = id) = listeners.filter fun listener => !decide (listener.id = id) := by
  induction listeners with
  | nil => rfl
  | cons listener listeners ih =>
      obtain ⟨hfirst, hrest⟩ := List.nodup_cons.mp nodup
      by_cases hid : listener.id = id
      · have hothers : listeners.filter (fun other => !decide (other.id = id)) = listeners := by
          rw [List.filter_eq_self]
          intro other hmem
          have hne : other.id ≠ id := fun heq =>
            hfirst (List.mem_map.mpr ⟨other, hmem, heq.trans hid.symm⟩)
          simpa using hne
        rw [List.eraseP_cons_of_pos (by simpa using hid),
          List.filter_cons_of_neg (by simpa using hid), hothers]
      · rw [List.eraseP_cons_of_neg (by simpa using hid),
          List.filter_cons_of_pos (by simpa using hid), ih hrest]

theorem off_snd_eq_restrict {emitter : Emitter β} (orderly : Orderly emitter.events)
    {name : String} (nodup : ((listenersIn emitter.events name).map (·.id)).Nodup)
    (id : ListenerId) :
    (emitter.off name id).2 = { emitter with
      events := restrict name (List.filter fun listener => !decide (listener.id = id))
        emitter.events } := by
  rw [off]
  by_cases hfound : ((emitter.listeners? name).getD []).any (·.id = id)
  · rw [if_pos hfound, restrict_congr (eraseP_eq_filter nodup id)]
  · rw [if_neg hfound, restrict_eq_self orderly]
    rw [List.filter_eq_self]
    intro listener hmem
    have hnone : ∀ other ∈ listenersIn emitter.events name, other.id ≠ id := by
      simpa [listenersIn, listeners?] using hfound
    simpa using hnone listener hmem

theorem mem_namesIn_iff_live {steps : List (Step τ β)}
    {events : List (String × List (Listener β))} (orderly : Orderly events)
    (hlisteners : ∀ name, listenersIn events name = liveListeners steps name) {name : String} :
    name ∈ namesIn events ↔ liveAt steps name ≠ [] := by
  rw [orderly.mem_namesIn_iff, hlisteners, Ne, liveListeners_eq_nil_iff]

theorem Represents.mem_namesIn_iff {steps : List (Step τ β)} {emitter : Emitter β}
    (represents : Represents steps emitter) {name : String} :
    name ∈ namesIn emitter.events ↔ liveAt steps name ≠ [] :=
  mem_namesIn_iff_live represents.orderly represents.listeners_eq

/-- A name that still has a live listener after a step is in the period it was in. -/
theorem BeganWith.append_singleton {steps : List (Step τ β)} {name : String} {position : Nat}
    (began : BeganWith steps name position) {step : Step τ β}
    (hlive : liveAt (steps ++ [step]) name ≠ []) :
    BeganWith (steps ++ [step]) name position := by
  refine ⟨?_, began.beganAt.append_singleton hlive⟩
  obtain ⟨placement, once, callback, hstep⟩ := began.addition
  refine ⟨placement, once, callback, ?_⟩
  rw [List.getElem?_append_left (List.getElem?_eq_some_iff.mp hstep).1, hstep]

theorem BeganWith.lt_length {steps : List (Step τ β)} {name : String} {position : Nat}
    (began : BeganWith steps name position) : position < steps.length := by
  obtain ⟨placement, once, callback, hstep⟩ := began.addition
  exact (List.getElem?_eq_some_iff.mp hstep).1

/-- The names that still have a live listener after a step keep their order. -/
theorem InOrder.append_singleton {steps : List (Step τ β)} {names left : List String}
    (inOrder : InOrder steps names) (hsublist : left.Sublist names) {step : Step τ β}
    (hlive : ∀ name ∈ left, liveAt (steps ++ [step]) name ≠ []) :
    InOrder (steps ++ [step]) left := by
  obtain ⟨began, hbegan, hordered⟩ := inOrder
  refine ⟨began, ?_, hordered.sublist hsublist⟩
  intro name hmem
  exact (hbegan name (hsublist.subset hmem)).append_singleton (hlive name hmem)

/-- A name that gets its only live listener begins later than all the others. -/
theorem InOrder.concat {steps : List (Step τ β)} {names : List String}
    (inOrder : InOrder steps names) {name : String} (hnew : name ∉ names)
    (hempty : liveAt steps name = []) {placement : Placement} {once : Bool} {callback : β}
    (hlive : ∀ other ∈ names ++ [name],
      liveAt (steps ++ [.add placement once name callback]) other ≠ []) :
    InOrder (steps ++ [.add placement once name callback]) (names ++ [name]) := by
  obtain ⟨began, hbegan, hordered⟩ := inOrder
  let begins (other : String) : Nat := if other = name then steps.length else began other
  have hlast : begins name = steps.length := if_pos rfl
  have hold {other : String} (hmem : other ∈ names) : begins other = began other := by
    have hne : other ≠ name := fun heq => hnew (heq ▸ hmem)
    exact if_neg hne
  refine ⟨begins, ?_, List.pairwise_append.mpr ⟨?_, List.pairwise_singleton _ _, ?_⟩⟩
  · intro other hmem
    rcases List.mem_append.mp hmem with hearlier | hthis
    · rw [hold hearlier]
      exact (hbegan other hearlier).append_singleton (hlive other hmem)
    · have hother : other = name := List.mem_singleton.mp hthis
      subst hother
      rw [hlast]
      refine ⟨⟨placement, once, callback, List.getElem?_concat_length⟩, ?_⟩
      exact beganAt_append_singleton hempty (hlive other hmem)
  · apply hordered.imp_of_mem
    intro earlier later hearlier hlater hlt
    rwa [hold hearlier, hold hlater]
  · intro earlier hearlier later hlater
    rw [List.mem_singleton.mp hlater, hlast, hold hearlier]
    exact (hbegan earlier hearlier).lt_length

theorem Represents.new : Represents ([] : List (Step τ β)) {} where
  nextId_eq := rfl
  orderly := Orderly.nil
  listeners_eq _ := rfl
  inOrder := ⟨fun _ => 0, by simp [namesIn], by simp [namesIn]⟩

theorem Represents.restricts {steps : List (Step τ β)} {emitter : Emitter β}
    (represents : Represents steps emitter) {step : Step τ β} {name : String}
    {keep : Listener β → Bool} (restricts : step.Restricts name keep) :
    Represents (steps ++ [step])
      { emitter with events := restrict name (List.filter keep) emitter.events } := by
  have orderly := represents.orderly.restrict name (List.filter keep)
  have hlisteners (other : String) :
      listenersIn (restrict name (List.filter keep) emitter.events) other =
        liveListeners (steps ++ [step]) other := by
    rw [listenersIn_restrict represents.orderly name List.filter_nil,
      liveListeners_restricts restricts, represents.listeners_eq, represents.listeners_eq]
    by_cases hother : other = name
    · rw [if_pos hother, if_pos hother, hother]
    · rw [if_neg hother, if_neg hother]
  have hsublist : (namesIn (restrict name (List.filter keep) emitter.events)).Sublist
      (namesIn emitter.events) := by
    rw [namesIn_restrict represents.orderly]
    split
    · exact List.filter_sublist
    · exact List.Sublist.refl _
  refine ⟨?_, orderly, hlisteners, ?_⟩
  · rw [additions_append_singleton, restricts.isAddition_eq_false]
    exact represents.nextId_eq
  · apply represents.inOrder.append_singleton hsublist
    intro other hmem
    exact (mem_namesIn_iff_live orderly hlisteners).mp hmem

theorem Represents.add {steps : List (Step τ β)} {emitter : Emitter β}
    (represents : Represents steps emitter) (placement : Placement) (once : Bool)
    (name : String) (callback : β) :
    Represents (steps ++ [.add placement once name callback])
      (emitter.add placement once name callback).2 := by
  have orderly := represents.orderly.add placement once name callback
  have hlisteners (other : String) :
      listenersIn (emitter.add placement once name callback).2.events other =
        liveListeners (steps ++ [.add placement once name callback]) other := by
    rw [Emitter.add, listenersIn_extend, liveListeners_add, represents.listeners_eq,
      represents.listeners_eq, represents.nextId_eq]
    by_cases hother : other = name
    · rw [if_pos hother, if_pos hother, hother]
    · rw [if_neg hother, if_neg hother]
  have hlive : ∀ other ∈ namesIn (emitter.add placement once name callback).2.events,
      liveAt (steps ++ [.add placement once name callback]) other ≠ [] := by
    intro other hmem
    exact (mem_namesIn_iff_live orderly hlisteners).mp hmem
  have hnames : namesIn (emitter.add placement once name callback).2.events =
      if name ∈ namesIn emitter.events then namesIn emitter.events
      else namesIn emitter.events ++ [name] := namesIn_extend _ _ _
  refine ⟨?_, orderly, hlisteners, ?_⟩
  · rw [additions_append_singleton, Emitter.add, represents.nextId_eq]
    exact (UInt64.ofNat_add _ 1).symm
  · rw [hnames] at hlive ⊢
    by_cases hknown : name ∈ namesIn emitter.events
    · rw [if_pos hknown] at hlive ⊢
      exact represents.inOrder.append_singleton (List.Sublist.refl _) hlive
    · rw [if_neg hknown] at hlive ⊢
      have hempty : liveAt steps name = [] :=
        Decidable.not_not.mp (mt represents.mem_namesIn_iff.mpr hknown)
      exact represents.inOrder.concat hknown hempty hlive

theorem ofHistory_append_singleton (steps : List (Step τ β)) (step : Step τ β) :
    ofHistory (steps ++ [step]) = (ofHistory steps).after step := by
  rw [ofHistory, List.foldl_append]
  rfl

theorem orderly_ofHistory (steps : List (Step τ β)) : Orderly (ofHistory steps).events := by
  induction steps using List.reverseRecOn with
  | nil => exact Orderly.nil
  | append_singleton steps step ih =>
      rw [ofHistory_append_singleton]
      cases step with
      | add placement once name callback => exact ih.add placement once name callback
      | off name id => exact ih.off name id
      | emit name argument => exact ih.detachOnce name

theorem represents_ofHistory {steps : List (Step τ β)} (few : additions steps ≤ UInt64.size) :
    Represents steps (ofHistory steps) := by
  induction steps using List.reverseRecOn with
  | nil => exact Represents.new
  | append_singleton steps step ih =>
      have hcount := additions_append_singleton steps step
      have hfew : additions steps ≤ UInt64.size := by omega
      have represents := ih hfew
      rw [ofHistory_append_singleton]
      cases step with
      | add placement once name callback =>
          exact represents.add placement once name callback
      | off name id =>
          have hids : ((listenersIn (ofHistory steps).events name).map (·.id)).Nodup := by
            rw [represents.listeners_eq]
            exact liveListeners_ids_nodup hfew name
          rw [after, off_snd_eq_restrict represents.orderly hids]
          exact represents.restricts (Step.restricts_off name id)
      | emit name argument =>
          exact represents.restricts (Step.restricts_emit name argument)

/-- An emission answers with how its delivery ends, and what that has recorded stays. -/
theorem runFrom_advance_emit (call : τ → β → Recorded ν σ Unit) (emitter : Emitter β)
    (name : String) (argument : τ) (surroundings : Surroundings) (recording : Recording ν σ) :
    (advance call emitter (.emit name argument)).runFrom surroundings recording =
      (.ok (.emitted ((emitter.emit name (call argument)).1.runFrom surroundings recording).1,
          emitter.after (.emit name argument : Step τ β)),
        ((emitter.emit name (call argument)).1.runFrom surroundings recording).2) := by
  rw [advance, Recorded.runFrom_bind, Recorded.runFrom_attempt, after,
    ← emit_snd emitter name (call argument)]
  rfl

/-- A step is taken whatever the listeners do, and the emitter it leaves does not depend
on it. -/
theorem runFrom_advance (call : τ → β → Recorded ν σ Unit) (emitter : Emitter β)
    (step : Step τ β) (surroundings : Surroundings) (recording : Recording ν σ) :
    ∃ reply later, (advance call emitter step).runFrom surroundings recording =
      (.ok (reply, emitter.after step), later) := by
  cases step with
  | add placement once name callback => exact ⟨_, _, rfl⟩
  | off name id => exact ⟨_, _, rfl⟩
  | emit name argument => exact ⟨_, _, runFrom_advance_emit call emitter name argument _ _⟩

/-- A history is taken by its first step and then the others. -/
theorem runFrom_replay_cons {call : τ → β → Recorded ν σ Unit} {emitter left last : Emitter β}
    {step : Step τ β} {steps : List (Step τ β)} {reply : Reply} {replies : List Reply}
    {surroundings : Surroundings} {recording middle later : Recording ν σ}
    (hfirst : (advance call emitter step).runFrom surroundings recording =
      (.ok (reply, left), middle))
    (hrest : (replay call left steps).runFrom surroundings middle = (.ok (replies, last), later)) :
    (replay call emitter (step :: steps)).runFrom surroundings recording =
      (.ok (reply :: replies, last), later) := by
  rw [replay, Recorded.runFrom_bind, hfirst]
  show ((replay call left steps >>= _).runFrom _ _) = _
  rw [Recorded.runFrom_bind, hrest]
  rfl

/-- A history is taken to its end, and each of its steps answers from the emitter that the
steps before have left. -/
theorem runFrom_replay (call : τ → β → Recorded ν σ Unit) (emitter : Emitter β)
    (steps : List (Step τ β)) (surroundings : Surroundings) (recording : Recording ν σ) :
    ∃ replies later, (replay call emitter steps).runFrom surroundings recording =
        (.ok (replies, steps.foldl after emitter), later) ∧
      ∀ before step rest, steps = before ++ step :: rest →
        ∃ earlier reply left later,
          (advance call (before.foldl after emitter) step).runFrom surroundings earlier =
            (.ok (reply, left), later) ∧
          replies[before.length]? = some reply := by
  induction steps generalizing emitter recording with
  | nil =>
      refine ⟨[], recording, rfl, ?_⟩
      intro before step rest hsplit
      exact absurd hsplit.symm (List.append_ne_nil_of_right_ne_nil _ (List.cons_ne_nil _ _))
  | cons first steps ih =>
      obtain ⟨reply, middle, hfirst⟩ := runFrom_advance call emitter first surroundings recording
      obtain ⟨replies, later, hrest, hreplies⟩ := ih (emitter.after first) middle
      refine ⟨reply :: replies, later, runFrom_replay_cons hfirst hrest, ?_⟩
      intro before step rest hsplit
      cases before with
      | nil =>
          have hstep : first = step := (List.cons.inj hsplit).1
          rw [← hstep]
          exact ⟨recording, reply, _, middle, hfirst, rfl⟩
      | cons head before =>
          obtain ⟨hhead, htail⟩ := List.cons.inj hsplit
          rw [← hhead]
          exact hreplies before step rest htail

theorem off_fst_of_represents {steps : List (Step τ β)} {emitter : Emitter β}
    (represents : Represents steps emitter) (name : String) (id : ListenerId) :
    (emitter.off name id).1 = (liveAt steps name).any (·.listener.id = id) := by
  rw [off_fst, represents.listeners_eq, liveListeners_eq_arrange, (arrange_perm _).any_eq,
    List.any_map]
  rfl

/-- An emitter and the answers on the way to it, as its history says. -/
structure Determined (steps : List (Step τ β)) (replies : List Reply) (emitter : Emitter β) :
    Prop where
  /-- Each name has its live listeners, in the order of their arrangement. -/
  listeners_eq : ∀ name, (emitter.listeners? name).getD [] = liveListeners steps name
  mem_eventNames_iff : ∀ name, name ∈ emitter.eventNames ↔ liveAt steps name ≠ []
  /-- The names are in the order of the additions that began their present periods. -/
  inOrder : InOrder steps emitter.eventNames
  count_eq : ∀ name, emitter.listenerCount name = (liveAt steps name).length
  /-- An addition has answered with the id that the history gives it. -/
  added : ∀ before placement once name callback rest,
    steps = before ++ .add placement once name callback :: rest →
      replies[before.length]? = some (.added ⟨.ofNat (additions before)⟩)
  /-- A removal has answered whether the id was live under the name just before. -/
  removed : ∀ before name id rest, steps = before ++ .off name id :: rest →
    replies[before.length]? =
      some (.removed ((liveAt before name).any (·.listener.id = id)))

/-- **An emitter is exactly what its history says.** Whatever the listeners do that are
called on the way, a history of fewer than `2 ^ 64` additions is taken to its end. Then
each name has its live listeners in the order of their arrangement, the names are those
with a live listener in the order of the additions that began their present periods, and
the counts are right. On the way an addition has answered with the id that the history
gives it, and a removal with whether the id was live under the name just before. -/
theorem replay_determined_by_history (call : τ → β → Recorded ν σ Unit)
    (steps : List (Step τ β)) (few : additions steps < UInt64.size) (surroundings : Surroundings)
    (recording : Recording ν σ) :
    ∃ replies emitter later,
      (replay call {} steps).runFrom surroundings recording =
        (.ok (replies, emitter), later) ∧
      Determined steps replies emitter := by
  have hfew : additions steps ≤ UInt64.size := Nat.le_of_lt few
  have represents := represents_ofHistory hfew
  have hbefore {before rest : List (Step τ β)} (hsplit : steps = before ++ rest) :
      Represents before (ofHistory before) := by
    apply represents_ofHistory
    rw [hsplit, additions, List.countP_append] at hfew
    exact Nat.le_trans (Nat.le_add_right _ _) hfew
  obtain ⟨replies, later, hrun, hreplies⟩ :=
    runFrom_replay call {} steps surroundings recording
  refine ⟨replies, ofHistory steps, later, hrun, represents.listeners_eq,
    fun name => represents.mem_namesIn_iff, represents.inOrder, ?count, ?added, ?removed⟩
  case count =>
    intro name
    rw [← length_liveListeners, ← represents.listeners_eq name, listenerCount, listenersIn,
      listeners?]
    cases (ofHistory steps).events.find? (·.1 = name) <;> rfl
  case added =>
    intro before placement once name callback rest hsplit
    obtain ⟨earlier, reply, left, after, hadvance, hreply⟩ := hreplies before _ rest hsplit
    have hid : reply = .added ⟨(ofHistory before).nextId⟩ :=
      (congrArg (·.1) (Except.ok.inj (congrArg (·.1) hadvance))).symm
    rw [hreply, hid, (hbefore hsplit).nextId_eq]
  case removed =>
    intro before name id rest hsplit
    obtain ⟨earlier, reply, left, after, hadvance, hreply⟩ := hreplies before _ rest hsplit
    have hfound : reply = .removed ((ofHistory before).off name id).1 :=
      (congrArg (·.1) (Except.ok.inj (congrArg (·.1) hadvance))).symm
    rw [hreply, hfound, off_fst_of_represents (hbefore hsplit)]

/-- A name is emptied by an emission that stops, and then used again. -/
theorem replay_of_reopened_name :
    additions ([.add .last true "a" 1, .add .last false "b" 2, .emit "a" (),
      .add .first false "a" 3, .off "b" ⟨1⟩] : List (Step Unit Nat)) < UInt64.size ∧
    ∃ replies emitter later,
      (replay (fun _ _ => (throw (.panicked "stopped") : Recorded Unit Unit Unit)) {}
          [.add .last true "a" 1, .add .last false "b" 2, .emit "a" (),
            .add .first false "a" 3, .off "b" ⟨1⟩]).runFrom
          ⟨.error .notFound, fun _ => none, .error .notFound, fun _ => .ofNanos 0⟩
          { state := () } =
        (.ok (replies, emitter), later) ∧
      (emitter.listeners? "a").getD [] = [⟨⟨2⟩, 3, false⟩] ∧
      "b" ∉ emitter.eventNames ∧
      replies[4]? = some (.removed true) := by
  have few : additions ([.add .last true "a" 1, .add .last false "b" 2, .emit "a" (),
      .add .first false "a" 3, .off "b" ⟨1⟩] : List (Step Unit Nat)) < UInt64.size := by decide
  refine ⟨few, ?_⟩
  obtain ⟨replies, emitter, later, hrun, determined⟩ :=
    replay_determined_by_history
      (fun _ _ => (throw (.panicked "stopped") : Recorded Unit Unit Unit)) _ few
      ⟨.error .notFound, fun _ => none, .error .notFound, fun _ => .ofNanos 0⟩ { state := () }
  refine ⟨replies, emitter, later, hrun, ?_, ?_, ?_⟩
  · rw [determined.listeners_eq]
    rfl
  · rw [determined.mem_eventNames_iff, not_not]
    rfl
  · exact determined.removed [.add .last true "a" 1, .add .last false "b" 2, .emit "a" (),
      .add .first false "a" 3] "b" ⟨1⟩ [] rfl

end CallBench.Emitter
