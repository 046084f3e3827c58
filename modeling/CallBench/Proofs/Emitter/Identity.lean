/-
# The identity of listeners

A listener is known by its id, and lookups stop at the first id that fits. That is sound
because of what every step keeps: no id is stored twice, under whatever names, and all
that are stored have been handed out. A listener that is taken out, by a removal or by an
emission, leaves its id spent. No later step stores it again, so each id is removed at
most once in the life of an emitter.
-/

import CallBench.Proofs.Emitter.Refinement

namespace CallBench.Emitter

variable {τ β ν σ : Type}

/-- The ids of all stored listeners, across all names. -/
def storedIds (events : List (String × List (Listener β))) : List ListenerId :=
  events.flatMap fun event => event.2.map (·.id)

theorem storedIds_cons (event : String × List (Listener β))
    (events : List (String × List (Listener β))) :
    storedIds (event :: events) = event.2.map (·.id) ++ storedIds events :=
  List.flatMap_cons

theorem mem_storedIds_of_mem_listenersIn {events : List (String × List (Listener β))}
    {name : String} {listener : Listener β} (hmem : listener ∈ listenersIn events name) :
    listener.id ∈ storedIds events := by
  induction events with
  | nil => cases hmem
  | cons event events ih =>
      rw [listenersIn_cons] at hmem
      rw [storedIds_cons, List.mem_append]
      by_cases hname : event.1 = name
      · rw [if_pos hname] at hmem
        exact .inl (List.mem_map_of_mem hmem)
      · rw [if_neg hname] at hmem
        exact .inr (ih hmem)

theorem place_perm (placement : Placement) (listener : Listener β)
    (listeners : List (Listener β)) :
    (place placement listener listeners).Perm (listener :: listeners) := by
  cases placement with
  | last => exact List.perm_append_singleton listener listeners
  | first => exact List.Perm.refl _

/-- A listener that is placed adds its id. -/
theorem storedIds_extend (events : List (String × List (Listener β))) (name : String)
    (placement : Placement) (listener : Listener β) :
    (storedIds (extend name (place placement listener) events)).Perm
      (listener.id :: storedIds events) := by
  induction events with
  | nil =>
      have hplaced := (place_perm placement listener []).map (·.id)
      rw [extend, storedIds_cons]
      simpa [storedIds] using hplaced
  | cons event events ih =>
      rw [extend]
      by_cases hname : event.1 = name
      · rw [if_pos hname, storedIds_cons, storedIds_cons]
        exact ((place_perm placement listener event.2).map (·.id)).append_right _
      · rw [if_neg hname, storedIds_cons, storedIds_cons]
        exact (ih.append_left _).trans List.perm_middle

/-- A restriction takes away the ids of what it removes from one list, and no others. -/
theorem storedIds_restrict {change removed : List (Listener β) → List (Listener β)}
    (splits : ∀ listeners, (removed listeners ++ change listeners).Perm listeners)
    (events : List (String × List (Listener β))) (name : String) :
    ((removed (listenersIn events name)).map (·.id) ++
      storedIds (restrict name change events)).Perm (storedIds events) := by
  induction events with
  | nil =>
      have hnil : removed [] = [] := (List.append_eq_nil_iff.mp (splits []).eq_nil).1
      show ((removed []).map Listener.id ++ []).Perm []
      rw [hnil]
      exact List.Perm.refl _
  | cons event events ih =>
      rw [listenersIn_cons]
      by_cases hname : event.1 = name
      · subst hname
        have hrest : storedIds (restrict event.1 change (event :: events)) =
            (change event.2).map (·.id) ++ storedIds events := by
          rw [restrict_cons_self]
          by_cases hempty : change event.2 = []
          · rw [if_pos hempty, hempty]
            rfl
          · rw [if_neg hempty, storedIds_cons]
        rw [if_pos rfl, hrest, ← List.append_assoc, ← List.map_append, storedIds_cons]
        exact ((splits event.2).map Listener.id).append_right _
      · rw [if_neg hname, restrict_cons_of_ne hname, storedIds_cons, storedIds_cons]
        exact (List.perm_append_comm_assoc _ _ _).trans (ih.append_left _)

/-- An emitter in which names and ids tell the listeners apart. -/
structure Sound (emitter : Emitter β) : Prop where
  orderly : Orderly emitter.events
  nodup : (storedIds emitter.events).Nodup
  below : ∀ id ∈ storedIds emitter.events, id.number < emitter.nextId

/-- Whether an id has been handed out and its listener is no more stored. -/
structure Spent (emitter : Emitter β) (id : ListenerId) : Prop where
  below : id.number < emitter.nextId
  notStored : id ∉ storedIds emitter.events

theorem Sound.new : Sound ({} : Emitter β) :=
  ⟨Orderly.nil, List.nodup_nil, by simp [storedIds]⟩

/-- As long as ids last, the next one is greater than those before. -/
theorem number_lt_succ {number next : UInt64} (room : next.toNat + 1 < UInt64.size)
    (hle : number ≤ next) : number < next + 1 := by
  rw [UInt64.le_iff_toNat_le] at hle
  have hnext : (next + 1).toNat = next.toNat + 1 := by
    rw [UInt64.toNat_add]
    exact Nat.mod_eq_of_lt room
  rw [UInt64.lt_iff_toNat_lt, hnext]
  omega

section Add

variable {emitter : Emitter β} (placement : Placement) (once : Bool) (name : String)
  (callback : β)

theorem Sound.add (sound : Sound emitter) (room : emitter.nextId.toNat + 1 < UInt64.size) :
    Sound (emitter.add placement once name callback).2 := by
  have hids := storedIds_extend emitter.events name placement
    ⟨⟨emitter.nextId⟩, callback, once⟩
  have hnew : (⟨emitter.nextId⟩ : ListenerId) ∉ storedIds emitter.events :=
    fun hmem => UInt64.lt_irrefl _ (sound.below _ hmem)
  refine ⟨sound.orderly.add placement once name callback, ?_, ?_⟩
  · exact hids.nodup_iff.mpr (List.nodup_cons.mpr ⟨hnew, sound.nodup⟩)
  · intro id hmem
    rcases List.mem_cons.mp (hids.mem_iff.mp hmem) with rfl | hold
    · exact number_lt_succ room UInt64.le_rfl
    · exact number_lt_succ room (UInt64.le_of_lt (sound.below id hold))

theorem Spent.add {id : ListenerId} (spent : Spent emitter id)
    (room : emitter.nextId.toNat + 1 < UInt64.size) :
    Spent (emitter.add placement once name callback).2 id := by
  refine ⟨number_lt_succ room (UInt64.le_of_lt spent.below), ?_⟩
  intro hmem
  have hids := storedIds_extend emitter.events name placement
    ⟨⟨emitter.nextId⟩, callback, once⟩
  rcases List.mem_cons.mp (hids.mem_iff.mp hmem) with rfl | hold
  · exact UInt64.lt_irrefl _ spent.below
  · exact spent.notStored hold

end Add

section Restrict

variable {emitter : Emitter β} {change removed : List (Listener β) → List (Listener β)}
  (splits : ∀ listeners, (removed listeners ++ change listeners).Perm listeners)
  (name : String)

include splits

theorem Sound.restrict (sound : Sound emitter) :
    Sound { emitter with events := Emitter.restrict name change emitter.events } := by
  have hids := storedIds_restrict splits emitter.events name
  refine ⟨sound.orderly.restrict name change, ?_, ?_⟩
  · exact (List.nodup_append.mp (hids.nodup_iff.mpr sound.nodup)).2.1
  · intro id hmem
    exact sound.below id (hids.mem_iff.mp (List.mem_append_right _ hmem))

theorem Spent.restrict {id : ListenerId} (spent : Spent emitter id) :
    Spent { emitter with events := Emitter.restrict name change emitter.events } id := by
  have hids := storedIds_restrict splits emitter.events name
  exact ⟨spent.below, fun hmem =>
    spent.notStored (hids.mem_iff.mp (List.mem_append_right _ hmem))⟩

/-- A listener that is removed leaves its id spent. -/
theorem Sound.spent_of_removed (sound : Sound emitter) {listener : Listener β}
    (hmem : listener ∈ removed (listenersIn emitter.events name)) :
    Spent { emitter with events := Emitter.restrict name change emitter.events }
      listener.id := by
  have hids := storedIds_restrict splits emitter.events name
  have hremoved : listener.id ∈ (removed (listenersIn emitter.events name)).map (·.id) :=
    List.mem_map_of_mem hmem
  constructor
  · exact sound.below _ (hids.mem_iff.mp (List.mem_append_left _ hremoved))
  · intro hstored
    have hdisjoint := (List.nodup_append.mp (hids.nodup_iff.mpr sound.nodup)).2.2
    exact hdisjoint _ hremoved _ hstored rfl

end Restrict

/-- A removal splits off the first listener with the id, if there is one. -/
theorem splits_eraseP (id : ListenerId) (listeners : List (Listener β)) :
    ((listeners.find? (·.id = id)).toList ++ listeners.eraseP (·.id = id)).Perm listeners := by
  induction listeners with
  | nil => exact List.Perm.refl _
  | cons listener listeners ih =>
      by_cases hid : listener.id = id
      · simp [hid]
      · have hmiddle : ((listeners.find? (·.id = id)).toList ++
            listener :: listeners.eraseP (·.id = id)).Perm (listener :: listeners) :=
          List.perm_middle.trans (ih.cons listener)
        simpa [hid] using hmiddle

/-- An emission splits off the listeners that asked for a single one. -/
theorem splits_once (listeners : List (Listener β)) :
    (listeners.filter (·.once) ++ listeners.filter (!·.once)).Perm listeners :=
  List.filter_append_perm _ _

section Steps

variable {emitter : Emitter β}

/-- A spent id is not there to be removed, under any name. -/
theorem Spent.off_eq_false {id : ListenerId} (spent : Spent emitter id) (name : String) :
    (emitter.off name id).1 = false := by
  rw [off_fst, List.any_eq_false]
  intro listener hmem hid
  exact spent.notStored (of_decide_eq_true hid ▸ mem_storedIds_of_mem_listenersIn hmem)

theorem Sound.off (sound : Sound emitter) (name : String) (id : ListenerId) :
    Sound (emitter.off name id).2 := by
  rw [Emitter.off]
  cases ((emitter.listeners? name).getD []).any (·.id = id) with
  | false => exact sound
  | true => exact sound.restrict (splits_eraseP id) name

theorem Spent.off {id : ListenerId} (spent : Spent emitter id) (name : String)
    (other : ListenerId) : Spent (emitter.off name other).2 id := by
  rw [Emitter.off]
  cases ((emitter.listeners? name).getD []).any (·.id = other) with
  | false => exact spent
  | true => exact spent.restrict (splits_eraseP other) name

/-- An id that has been removed is spent. -/
theorem Sound.spent_of_off (sound : Sound emitter) {name : String} {id : ListenerId}
    (hfound : (emitter.off name id).1 = true) : Spent (emitter.off name id).2 id := by
  rw [Emitter.off] at hfound ⊢
  cases hany : ((emitter.listeners? name).getD []).any (·.id = id) with
  | false =>
      rw [hany] at hfound
      cases hfound
  | true =>
      obtain ⟨listener, hlistener, hid⟩ := List.any_eq_true.mp hany
      have hsome : (listenersIn emitter.events name).find? (·.id = id) |>.isSome :=
        List.find?_isSome.mpr ⟨listener, hlistener, hid⟩
      obtain ⟨first, hfirst⟩ := Option.isSome_iff_exists.mp hsome
      have hfits := List.find?_some hfirst
      have hfirstId : first.id = id := of_decide_eq_true hfits
      rw [← hfirstId]
      apply sound.spent_of_removed (splits_eraseP first.id) name
      rw [hfirstId, hfirst, Option.mem_toList]

theorem Sound.detachOnce (sound : Sound emitter) (name : String) :
    Sound (emitter.detachOnce name) :=
  sound.restrict splits_once name

theorem Spent.detachOnce {id : ListenerId} (spent : Spent emitter id) (name : String) :
    Spent (emitter.detachOnce name) id :=
  spent.restrict splits_once name

/-- A listener that asked for a single emission leaves its id spent. -/
theorem Sound.spent_of_detachOnce (sound : Sound emitter) {name : String}
    {listener : Listener β} (hmem : listener ∈ listenersIn emitter.events name)
    (honce : listener.once = true) : Spent (emitter.detachOnce name) listener.id :=
  sound.spent_of_removed splits_once name (List.mem_filter.mpr ⟨hmem, honce⟩)

theorem Sound.after (sound : Sound emitter) (step : Step τ β)
    (room : step.isAddition = true → emitter.nextId.toNat + 1 < UInt64.size) :
    Sound (emitter.after step) := by
  cases step with
  | add placement once name callback => exact sound.add placement once name callback (room rfl)
  | off name id => exact sound.off name id
  | emit name argument => exact sound.detachOnce name

theorem Spent.after {id : ListenerId} (spent : Spent emitter id) (step : Step τ β)
    (room : step.isAddition = true → emitter.nextId.toNat + 1 < UInt64.size) :
    Spent (emitter.after step) id := by
  cases step with
  | add placement once name callback => exact spent.add placement once name callback (room rfl)
  | off name other => exact spent.off name other
  | emit name argument => exact spent.detachOnce name

end Steps

theorem nextId_ofHistory {steps : List (Step τ β)} (few : additions steps < UInt64.size) :
    (ofHistory steps).nextId.toNat = additions steps := by
  rw [(represents_ofHistory (Nat.le_of_lt few)).nextId_eq]
  exact UInt64.toNat_ofNat_of_lt' few

theorem room_of_few {steps : List (Step τ β)} {step : Step τ β}
    (few : additions (steps ++ [step]) < UInt64.size) (hstep : step.isAddition = true) :
    (ofHistory steps).nextId.toNat + 1 < UInt64.size := by
  rw [additions_append_singleton, if_pos hstep] at few
  rw [nextId_ofHistory (by omega)]
  exact few

theorem few_of_append {before after : List (Step τ β)}
    (few : additions (before ++ after) < UInt64.size) : additions before < UInt64.size := by
  rw [additions, List.countP_append] at few
  exact Nat.lt_of_le_of_lt (Nat.le_add_right _ _) few

theorem sound_ofHistory {steps : List (Step τ β)} (few : additions steps < UInt64.size) :
    Sound (ofHistory steps) := by
  induction steps using List.reverseRecOn with
  | nil => exact Sound.new
  | append_singleton steps step ih =>
      rw [ofHistory_append_singleton]
      exact (ih (few_of_append few)).after step (room_of_few few)

/-- A spent id stays spent. -/
theorem Spent.ofHistory_append {before : List (Step τ β)} {id : ListenerId}
    (spent : Spent (ofHistory before) id) {later : List (Step τ β)}
    (few : additions (before ++ later) < UInt64.size) : Spent (ofHistory (before ++ later)) id := by
  induction later using List.reverseRecOn with
  | nil => rwa [List.append_nil]
  | append_singleton later step ih =>
      rw [← List.append_assoc] at few ⊢
      rw [ofHistory_append_singleton]
      exact (ih (few_of_append few)).after step (room_of_few few)

/-- What goes on with an action that does not return `false` does not return it either. -/
theorem bind_ne_ok_false {α : Type} {action : Recorded ν σ α} {next : α → Recorded ν σ Bool}
    {surroundings : Surroundings}
    (hnext : ∀ value recording,
      ((next value).runFrom surroundings recording).1 ≠ .ok false)
    (recording : Recording ν σ) :
    ((action >>= next).runFrom surroundings recording).1 ≠ .ok false := by
  rw [Recorded.runFrom_bind]
  rcases action.runFrom surroundings recording with ⟨stop | value, later⟩
  · exact fun hequal => by cases hequal
  · exact hnext value later

/-- An emission tells whether there was anybody to call, if it tells anything. -/
theorem emit_eq_false_iff (emitter : Emitter β) (name : String)
    (call : β → Recorded ν σ Unit) (surroundings : Surroundings) (recording : Recording ν σ) :
    ((emitter.emit name call).1.runFrom surroundings recording).1 = .ok false ↔
      name ∉ emitter.eventNames := by
  rw [← listeners?_eq_none_iff, emit]
  cases emitter.listeners? name with
  | none => exact ⟨fun _ => rfl, fun _ => rfl⟩
  | some listeners =>
      have hdelivery : ((report (.eventEmitted name listeners.length) >>= fun _ =>
          listeners.forM (fun listener => call listener.callback) >>= fun _ =>
            pure true : Recorded ν σ Bool).runFrom surroundings recording).1 ≠ .ok false :=
        bind_ne_ok_false (fun _ => bind_ne_ok_false fun _ _ hequal => by cases hequal) recording
      exact ⟨fun hequal => absurd hequal hdelivery, fun hnone => by cases hnone⟩

/-- What the answer to a step says about the emitter it was taken from. -/
inductive Answers (emitter : Emitter β) : Step τ β → Reply → Prop where
  | added (placement : Placement) (once : Bool) (name : String) (callback : β) :
      Answers emitter (.add placement once name callback) (.added ⟨emitter.nextId⟩)
  | removed (name : String) (id : ListenerId) :
      Answers emitter (.off name id) (.removed (emitter.off name id).1)
  | emitted (name : String) (argument : τ) (outcome : Except Stop Bool)
      (told : outcome = .ok false ↔ name ∉ emitter.eventNames) :
      Answers emitter (.emit name argument) (.emitted outcome)

/-- Only an addition hands out an id, and it is the next one. -/
theorem Answers.added_inv {emitter : Emitter β} {step : Step τ β} {id : ListenerId}
    (answers : Answers emitter step (.added id)) :
    step.isAddition = true ∧ emitter.nextId = id.number := by
  cases answers with
  | added placement once name callback => exact ⟨rfl, rfl⟩

theorem Answers.removed_inv {emitter : Emitter β} {name : String} {id : ListenerId}
    {reply : Reply} (answers : Answers (τ := τ) emitter (.off name id) reply) :
    reply = .removed (emitter.off name id).1 := by
  cases answers with
  | removed name id => rfl

theorem advance_answers (call : τ → β → Recorded ν σ Unit) (emitter : Emitter β)
    (step : Step τ β) (surroundings : Surroundings) (recording : Recording ν σ) :
    ∃ reply later, (advance call emitter step).runFrom surroundings recording =
        (.ok (reply, emitter.after step), later) ∧ Answers emitter step reply := by
  cases step with
  | add placement once name callback => exact ⟨_, _, rfl, .added placement once name callback⟩
  | off name id => exact ⟨_, _, rfl, .removed name id⟩
  | emit name argument =>
      have htold := emit_eq_false_iff emitter name (call argument) surroundings recording
      exact ⟨_, _, runFrom_advance_emit call emitter name argument surroundings recording,
        .emitted name argument _ htold⟩

/-- A history is taken to its end, with one answer to each step. -/
theorem replay_answers (call : τ → β → Recorded ν σ Unit) (emitter : Emitter β)
    (steps : List (Step τ β)) (surroundings : Surroundings) (recording : Recording ν σ) :
    ∃ replies later, (replay call emitter steps).runFrom surroundings recording =
        (.ok (replies, steps.foldl after emitter), later) ∧
      replies.length = steps.length ∧
      ∀ (place : Nat) step reply, steps[place]? = some step → replies[place]? = some reply →
        Answers ((steps.take place).foldl after emitter) step reply := by
  induction steps generalizing emitter recording with
  | nil =>
      refine ⟨[], recording, rfl, rfl, ?_⟩
      intro place step reply hstep
      cases hstep
  | cons first steps ih =>
      obtain ⟨reply, middle, hfirst, hanswers⟩ :=
        advance_answers call emitter first surroundings recording
      obtain ⟨replies, later, hrest, hlength, hreplies⟩ := ih (emitter.after first) middle
      refine ⟨reply :: replies, later, runFrom_replay_cons hfirst hrest,
        congrArg (· + 1) hlength, ?_⟩
      intro place step answer hstep hanswer
      cases place with
      | zero =>
          cases hstep
          cases hanswer
          exact hanswers
      | succ place => exact hreplies place step answer hstep hanswer

/-! ## Places in a history -/

section Places

variable {steps : List (Step τ β)} {place : Nat} {step : Step τ β}

theorem take_succ_eq (hstep : steps[place]? = some step) :
    steps.take (place + 1) = steps.take place ++ [step] := by
  rw [List.take_add_one, hstep]
  rfl

theorem ofHistory_take_succ (hstep : steps[place]? = some step) :
    ofHistory (steps.take (place + 1)) = (ofHistory (steps.take place)).after step := by
  rw [take_succ_eq hstep, ofHistory_append_singleton]

theorem additions_take_le {first second : Nat} (hle : first ≤ second) :
    additions (steps.take first) ≤ additions (steps.take second) :=
  (List.take_sublist_take_left hle).countP_le

theorem few_take (few : additions steps < UInt64.size) (place : Nat) :
    additions (steps.take place) < UInt64.size :=
  Nat.lt_of_le_of_lt (List.take_sublist place steps).countP_le few

/-- From the place where an id is spent on, it is not there to be removed. -/
theorem Spent.ofHistory_take (few : additions steps < UInt64.size) {id : ListenerId}
    {first second : Nat} (spent : Spent (ofHistory (steps.take first)) id)
    (hle : first ≤ second) : Spent (ofHistory (steps.take second)) id := by
  have hsplit : steps.take second = steps.take first ++ (steps.take second).drop first := by
    have hboth := (List.take_append_drop first (steps.take second)).symm
    rwa [List.take_take, Nat.min_eq_left hle] at hboth
  rw [hsplit]
  apply spent.ofHistory_append
  rw [← hsplit]
  exact few_take few second

theorem additions_take_lt (hstep : steps[place]? = some step) (haddition : step.isAddition = true)
    {later : Nat} (hlt : place < later) :
    additions (steps.take place) < additions (steps.take later) := by
  have hsucc : additions (steps.take (place + 1)) = additions (steps.take place) + 1 := by
    rw [take_succ_eq hstep, additions_append_singleton, if_pos haddition]
  have hle : additions (steps.take (place + 1)) ≤ additions (steps.take later) :=
    additions_take_le hlt
  omega

/-- Different additions are given different ids. -/
theorem place_unique_of_addition (few : additions steps < UInt64.size) {first second : Nat}
    {earlier later : Step τ β} (hfirst : steps[first]? = some earlier)
    (hsecond : steps[second]? = some later) (hearlier : earlier.isAddition = true)
    (hlater : later.isAddition = true)
    (same : (ofHistory (steps.take first)).nextId = (ofHistory (steps.take second)).nextId) :
    first = second := by
  have hcount : additions (steps.take first) = additions (steps.take second) := by
    rw [← nextId_ofHistory (few_take few first), same, nextId_ofHistory (few_take few second)]
  rcases Nat.lt_trichotomy first second with hlt | heq | hgt
  · have hless := additions_take_lt hfirst hearlier hlt
    omega
  · exact heq
  · have hless := additions_take_lt hsecond hlater hgt
    omega

/-- Once an id has been removed it is spent. -/
theorem spent_of_removal (few : additions steps < UInt64.size) {name : String} {id : ListenerId}
    (hstep : steps[place]? = some (.off name id))
    (hfound : ((ofHistory (steps.take place)).off name id).1 = true)
    {later : Nat} (hlt : place < later) : Spent (ofHistory (steps.take later)) id := by
  have spent : Spent (ofHistory (steps.take (place + 1))) id := by
    rw [ofHistory_take_succ hstep]
    exact (sound_ofHistory (few_take few place)).spent_of_off hfound
  exact spent.ofHistory_take few hlt

/-- Once an emission has taken out a listener its id is spent. -/
theorem spent_of_emission (few : additions steps < UInt64.size) {name : String} {argument : τ}
    (hstep : steps[place]? = some (.emit name argument)) {listener : Listener β}
    (hmem : listener ∈ listenersIn (ofHistory (steps.take place)).events name)
    (honce : listener.once = true) {later : Nat} (hlt : place < later) :
    Spent (ofHistory (steps.take later)) listener.id := by
  have spent : Spent (ofHistory (steps.take (place + 1))) listener.id := by
    rw [ofHistory_take_succ hstep]
    exact (sound_ofHistory (few_take few place)).spent_of_detachOnce hmem honce
  exact spent.ofHistory_take few hlt

/-- Successful removals of one id are one removal. -/
theorem place_unique_of_removal (few : additions steps < UInt64.size) {first second : Nat}
    {name other : String} {id : ListenerId} (hfirst : steps[first]? = some (.off name id))
    (hsecond : steps[second]? = some (.off other id))
    (hfound : ((ofHistory (steps.take first)).off name id).1 = true)
    (hagain : ((ofHistory (steps.take second)).off other id).1 = true) : first = second := by
  rcases Nat.lt_trichotomy first second with hlt | heq | hgt
  · have hgone := (spent_of_removal few hfirst hfound hlt).off_eq_false other
    rw [hagain] at hgone
    cases hgone
  · exact heq
  · have hgone := (spent_of_removal few hsecond hagain hgt).off_eq_false name
    rw [hfound] at hgone
    cases hgone

end Places

/-- How names and ids tell listeners apart, in an emitter and on the way to it. -/
structure TellsApart (ν σ : Type) (steps : List (Step τ β)) (replies : List Reply)
    (emitter : Emitter β) : Prop where
  /-- Each name is kept once. -/
  names_nodup : emitter.eventNames.Nodup
  /-- A name is kept only with listeners. -/
  names_nonempty : ∀ event ∈ emitter.events, event.2 ≠ []
  /-- Each id is kept once, across all names. -/
  ids_nodup : (storedIds emitter.events).Nodup
  /-- All ids that are kept have been handed out before. -/
  ids_below : ∀ id ∈ storedIds emitter.events, id.number < emitter.nextId
  mem_eventNames_iff_count : ∀ name, name ∈ emitter.eventNames ↔ 0 < emitter.listenerCount name
  /-- The names that are kept are those whose emission finds somebody to call. -/
  mem_eventNames_iff_emit : ∀ name (deliver : β → Recorded ν σ Unit) surroundings recording,
    name ∈ emitter.eventNames ↔
      ((emitter.emit name deliver).1.runFrom surroundings recording).1 ≠ .ok false
  /-- No id is handed out twice. -/
  handed_out_once : ∀ (first second : Nat) id, replies[first]? = some (.added id) →
    replies[second]? = some (.added id) → first = second
  /-- No id is removed twice. -/
  removed_once : ∀ (first second : Nat) name other id, steps[first]? = some (.off name id) →
    steps[second]? = some (.off other id) → replies[first]? = some (.removed true) →
    replies[second]? = some (.removed true) → first = second
  /-- No id is removed after an emission has taken its listener out. -/
  detached_gone : ∀ (place : Nat) name argument, steps[place]? = some (.emit name argument) →
    ∀ listener ∈ ((ofHistory (steps.take place)).listeners? name).getD [],
      listener.once = true →
      ∀ (later : Nat) other, place < later → steps[later]? = some (.off other listener.id) →
        replies[later]? = some (.removed false)

/-- **Names and ids tell listeners apart.** Whatever the listeners do that are called on the
way, a history of fewer than `2 ^ 64` additions leaves an emitter that keeps each name once
and only with listeners, and each id once, all of them handed out before. So the names that
are kept are those with a count, and those whose emission finds somebody to call. On the way
no id is handed out twice, and no id is removed twice or after an emission has taken its
listener out. -/
theorem replay_keeps_identities (call : τ → β → Recorded ν σ Unit) (steps : List (Step τ β))
    (few : additions steps < UInt64.size) (surroundings : Surroundings)
    (recording : Recording ν σ) :
    ∃ replies emitter later,
      (replay call {} steps).runFrom surroundings recording = (.ok (replies, emitter), later) ∧
      emitter = ofHistory steps ∧ TellsApart ν σ steps replies emitter := by
  obtain ⟨replies, later, hrun, hlength, hanswers⟩ :=
    replay_answers call {} steps surroundings recording
  have sound := sound_ofHistory few
  have hstepAt {place : Nat} {reply : Reply} (hreply : replies[place]? = some reply) :
      ∃ step, steps[place]? = some step := by
    have hin := (List.getElem?_eq_some_iff.mp hreply).1
    exact ⟨_, List.getElem?_eq_getElem (hlength ▸ hin)⟩
  have hremoved {place : Nat} {name : String} {id : ListenerId}
      (hstep : steps[place]? = some (.off name id)) :
      replies[place]? = some (.removed ((ofHistory (steps.take place)).off name id).1) := by
    have hin := (List.getElem?_eq_some_iff.mp hstep).1
    have hreply := List.getElem?_eq_getElem (hlength ▸ hin : place < replies.length)
    rw [hreply, (hanswers place _ _ hstep hreply).removed_inv]
    rfl
  refine ⟨replies, ofHistory steps, later, hrun, rfl, sound.orderly.nodup,
    sound.orderly.nonempty, sound.nodup, sound.below, ?counts, ?emissions, ?handedOut,
    ?removedOnce, ?detached⟩
  case counts =>
    intro name
    rw [listenerCount_eq_length, List.length_pos_iff]
    exact sound.orderly.mem_namesIn_iff
  case emissions =>
    intro name deliver surroundings recording
    rw [Ne, emit_eq_false_iff, not_not]
  case handedOut =>
    intro first second id hfirst hsecond
    obtain ⟨earlier, hearlier⟩ := hstepAt hfirst
    obtain ⟨later, hlater⟩ := hstepAt hsecond
    obtain ⟨hadds, hid⟩ := (hanswers first _ _ hearlier hfirst).added_inv
    obtain ⟨haddsToo, hidToo⟩ := (hanswers second _ _ hlater hsecond).added_inv
    exact place_unique_of_addition few hearlier hlater hadds haddsToo (hid.trans hidToo.symm)
  case removedOnce =>
    intro first second name other id hfirst hsecond hfound hagain
    rw [hremoved hfirst] at hfound
    rw [hremoved hsecond] at hagain
    apply place_unique_of_removal few hfirst hsecond
    · exact Reply.removed.inj (Option.some.inj hfound)
    · exact Reply.removed.inj (Option.some.inj hagain)
  case detached =>
    intro place name argument hstep listener hmem honce later other hlt hoff
    have spent := spent_of_emission few hstep hmem honce hlt
    rw [hremoved hoff, spent.off_eq_false other]

/-- An emission that stops has taken its listener out, and no name has it any more. -/
theorem replay_of_spent_id :
    additions ([.add .last true "a" 1, .add .first false "a" 2, .emit "a" (), .off "b" ⟨0⟩,
      .off "a" ⟨0⟩] : List (Step Unit Nat)) < UInt64.size ∧
    ∃ replies emitter later,
      (replay (fun _ _ => (throw (.panicked "stopped") : Recorded Unit Unit Unit)) {}
          [.add .last true "a" 1, .add .first false "a" 2, .emit "a" (), .off "b" ⟨0⟩,
            .off "a" ⟨0⟩]).runFrom
          ⟨.error .notFound, fun _ => none, .error .notFound, fun _ => .ofNanos 0⟩
          { state := () } =
        (.ok (replies, emitter), later) ∧
      emitter.eventNames.Nodup ∧
      replies[3]? = some (.removed false) ∧
      replies[4]? = some (.removed false) := by
  have few : additions ([.add .last true "a" 1, .add .first false "a" 2, .emit "a" (),
      .off "b" ⟨0⟩, .off "a" ⟨0⟩] : List (Step Unit Nat)) < UInt64.size := by decide
  refine ⟨few, ?_⟩
  obtain ⟨replies, emitter, later, hrun, -, tellsApart⟩ :=
    replay_keeps_identities
      (fun _ _ => (throw (.panicked "stopped") : Recorded Unit Unit Unit)) _ few
      ⟨.error .notFound, fun _ => none, .error .notFound, fun _ => .ofNanos 0⟩ { state := () }
  have hmem : (⟨⟨0⟩, 1, true⟩ : Listener Nat) ∈ [⟨⟨1⟩, 2, false⟩, ⟨⟨0⟩, 1, true⟩] :=
    List.mem_cons_of_mem _ List.mem_cons_self
  have hgone := tellsApart.detached_gone 2 "a" () rfl _ hmem rfl
  exact ⟨replies, emitter, later, hrun, tellsApart.names_nodup, hgone 3 "b" (by decide) rfl,
    hgone 4 "a" (by decide) rfl⟩

end CallBench.Emitter
