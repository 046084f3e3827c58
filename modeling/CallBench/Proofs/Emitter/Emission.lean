/-
# What an emission does

An emission works on the listeners that are there when it starts. It calls them in order
up to the first that stops, and what it leaves of the emitter is settled before the first
call, so it is the same however the calls end. Listeners that asked for a single emission
are among what is taken out: over a whole history each of them is called at most once,
because a call and a place in the storage never add up to more than its one addition.
-/

import CallBench.Proofs.Emitter.Refinement
import CallBench.Proofs.Recording.Journal

namespace CallBench.Emitter

open Recorded

variable {τ β σ : Type}

/-- The call of a listener, and how it ended. -/
def called (listener : Listener β) (outcome : Except Stop Unit) : Signal (Call β) :=
  .note ⟨listener.callback, outcome⟩

/-- The signals of calls that all return. -/
def allCalled (listeners : List (Listener β)) : List (Signal (Call β)) :=
  listeners.map (called · (.ok ()))

/-- How an emission to some listeners ends, and the signals it has added by then: a report
and the calls of all listeners, or the calls of a front of them and of the one that stops. -/
inductive Delivers (name : String) (listeners : List (Listener β)) :
    Except Stop Bool → List (Signal (Call β)) → Prop where
  | all : Delivers name listeners (.ok true)
      (.diagnostic (.eventEmitted name listeners.length) :: allCalled listeners)
  | upTo (before : List (Listener β)) (last : Listener β) (rest : List (Listener β))
      (stop : Stop) (split : listeners = before ++ last :: rest) :
      Delivers name listeners (.error stop)
        (.diagnostic (.eventEmitted name listeners.length) :: allCalled before ++
          [called last (.error stop)])

theorem flatMap_called (done : List (Listener β × Unit)) :
    done.flatMap (fun item => [called item.1 (.ok item.2)]) = allCalled (done.map Prod.fst) := by
  induction done with
  | nil => rfl
  | cons item done ih =>
      rw [List.flatMap_cons, ih]
      rfl

theorem writes_delivery (perform : β → Recorded (Call β) σ Unit) {emitter : Emitter β}
    {name : String} {listeners : List (Listener β)}
    (hlisteners : emitter.listeners? name = some listeners) (surroundings : Surroundings)
    (recording : Recording (Call β) σ) :
    ∃ outcome added,
      Writes (emitter.emit name (noting perform)).1 surroundings recording outcome added ∧
        Delivers name listeners outcome added := by
  have hdelivery : (emitter.emit name (noting perform)).1 = (do
      report (.eventEmitted name listeners.length)
      listeners.forM fun listener => noting perform listener.callback
      pure true) := by
    rw [emit, hlisteners]
  rw [hdelivery]
  have each (listener : Listener β) (recording : Recording (Call β) σ) :
      (∃ mark : Unit, Writes (noting perform listener.callback) surroundings recording (.ok mark)
        [called listener (.ok mark)]) ∨
      ∃ stop, Writes (noting perform listener.callback) surroundings recording (.error stop)
        [called listener (.error stop)] := by
    obtain ⟨outcome, hcall⟩ := writes_noting perform listener.callback surroundings recording
    cases outcome with
    | ok mark => exact .inl ⟨mark, hcall⟩
    | error stop => exact .inr ⟨stop, hcall⟩
  let reported := recording.push (.diagnostic (.eventEmitted name listeners.length))
  have hreport : Writes (report (.eventEmitted name listeners.length) : Recorded (Call β) σ Unit)
      surroundings recording (.ok ()) [.diagnostic (.eventEmitted name listeners.length)] :=
    Writes.report _
  have hcalls := writes_forM (fun item : Listener β × Unit => [called item.1 (.ok item.2)])
    (fun listener stop => [called listener (.error stop)]) each listeners reported
  rcases hcalls with ⟨done, hdone, hruns⟩ | ⟨done, last, rest, stop, hsplit, hruns⟩
  · rw [flatMap_called, hdone] at hruns
    have hreturn : Writes (listeners.forM (fun item => noting perform item.callback) >>=
        fun _ => pure true) surroundings reported (.ok true) (allCalled listeners ++ []) :=
      hruns.bind (Writes.pure true)
    rw [List.append_nil] at hreturn
    exact ⟨_, _, hreport.bind hreturn, .all⟩
  · rw [flatMap_called] at hruns
    exact ⟨_, _, hreport.bind (hruns.bind_error _), .upTo _ last rest stop hsplit⟩

/-- An emission is taken as a step, and leaves the emitter without the listeners that asked
for a single one. -/
theorem writes_advance_emit (perform : τ → β → Recorded (Call β) σ Unit) {emitter : Emitter β}
    {name : String} {listeners : List (Listener β)}
    (hlisteners : emitter.listeners? name = some listeners) (argument : τ)
    (surroundings : Surroundings) (recording : Recording (Call β) σ) :
    ∃ outcome added,
      Writes (advance (fun argument => noting (perform argument)) emitter (.emit name argument))
        surroundings recording (.ok (.emitted outcome, emitter.detachOnce name)) added ∧
      Delivers name listeners outcome added := by
  obtain ⟨outcome, added, hwrites, hdelivers⟩ :=
    writes_delivery (perform argument) hlisteners surroundings recording
  refine ⟨outcome, added, ?_, hdelivers⟩
  have hadvance : advance (fun argument => noting (perform argument)) emitter
      (.emit name argument) = (attempt (emitter.emit name (noting (perform argument))).1 >>=
        fun outcome => pure (.emitted outcome, emitter.detachOnce name)) := by
    rw [advance, ← emit_snd emitter name (noting (perform argument))]
  rw [hadvance, ← List.append_nil added]
  exact hwrites.attempt.bind (Writes.pure _)

/-- An emission to nobody does nothing. -/
theorem runFrom_advance_emit_of_none (perform : τ → β → Recorded (Call β) σ Unit)
    {emitter : Emitter β} {name : String} (hnone : emitter.listeners? name = none) (argument : τ)
    (surroundings : Surroundings) (recording : Recording (Call β) σ) :
    (advance (fun argument => noting (perform argument)) emitter
        (.emit name argument)).runFrom surroundings recording =
      (.ok (.emitted (.ok false), emitter), recording) := by
  rw [advance, emit, hnone]
  rfl

/-- How many calls among some signals are of counted callbacks. -/
def callCount (counts : β → Bool) (signals : List (Signal (Call β))) : Nat :=
  (signals.filterMap Signal.note?).countP (counts ·.action)

/-- Whether a step adds a counted callback. -/
def Step.adds (counts : β → Bool) : Step τ β → Bool
  | .add _ _ _ callback => counts callback
  | _ => false

/-- Storage in which every counted callback is to be called once. -/
def OnceOnly (counts : β → Bool) (events : List (String × List (Listener β))) : Prop :=
  ∀ event ∈ events, ∀ listener ∈ event.2, counts listener.callback → listener.once

theorem callCount_append (counts : β → Bool) (first second : List (Signal (Call β))) :
    callCount counts (first ++ second) = callCount counts first + callCount counts second := by
  rw [callCount, List.filterMap_append, List.countP_append]
  rfl

theorem callCount_allCalled (counts : β → Bool) (listeners : List (Listener β)) :
    callCount counts (allCalled listeners) = listeners.countP (counts ·.callback) := by
  induction listeners with
  | nil => rfl
  | cons listener listeners ih =>
      show callCount counts ([called listener (.ok ())] ++ allCalled listeners) = _
      rw [callCount_append, ih, List.countP_cons, Nat.add_comm]
      cases hcounts : counts listener.callback <;> simp [callCount, called, Signal.note?, hcounts]

/-- An emission calls no listener more than once. -/
theorem Delivers.callCount_le {name : String} {listeners : List (Listener β)}
    {outcome : Except Stop Bool} {added : List (Signal (Call β))}
    (delivers : Delivers name listeners outcome added) (counts : β → Bool) :
    callCount counts added ≤ listeners.countP (counts ·.callback) := by
  cases delivers with
  | all =>
      show callCount counts (allCalled listeners) ≤ _
      exact Nat.le_of_eq (callCount_allCalled counts listeners)
  | upTo before last rest stop split =>
      show callCount counts (allCalled before ++ [called last (.error stop)]) ≤ _
      have hlast : callCount counts [called last (.error stop)] ≤
          (last :: rest).countP (counts ·.callback) := by
        rw [List.countP_cons]
        cases hcounts : counts last.callback <;> simp [callCount, called, Signal.note?, hcounts]
      rw [callCount_append, callCount_allCalled, split, List.countP_append]
      exact Nat.add_le_add_left hlast _

theorem countP_place (counts : Listener β → Bool) (placement : Placement)
    (listener : Listener β) (listeners : List (Listener β)) :
    (place placement listener listeners).countP counts =
      listeners.countP counts + if counts listener then 1 else 0 := by
  cases placement with
  | last => rw [place, List.countP_append, List.countP_singleton]
  | first => rw [place, List.countP_cons]

namespace OnceOnly

variable {counts : β → Bool} {emitter : Emitter β}

theorem of_mem_listenersIn {events : List (String × List (Listener β))}
    (onceOnly : OnceOnly counts events) (name : String) :
    ∀ listener ∈ listenersIn events name, counts listener.callback → listener.once := by
  induction events with
  | nil => simp [listenersIn]
  | cons event events ih =>
      obtain ⟨hfirst, hrest⟩ := List.forall_mem_cons.mp onceOnly
      rw [listenersIn_cons]
      by_cases hname : event.1 = name
      · rw [if_pos hname]
        exact hfirst
      · rw [if_neg hname]
        exact ih hrest

/-- No counted listener is kept by an emission. -/
theorem countP_kept (onceOnly : OnceOnly counts emitter.events) (name : String) :
    ((listenersIn emitter.events name).filter (!·.once)).countP
      (counts ·.callback) = 0 := by
  rw [List.countP_eq_zero]
  intro listener hmem hcounts
  obtain ⟨hlistener, hkept⟩ := List.mem_filter.mp hmem
  have honce := onceOnly.of_mem_listenersIn name listener hlistener hcounts
  rw [honce] at hkept
  cases hkept

/-- What an emission takes out pays for its calls. -/
theorem storedCount_detachOnce (onceOnly : OnceOnly counts emitter.events) (name : String) :
    storedCount (counts ·.callback) (emitter.detachOnce name).events +
        (listenersIn emitter.events name).countP (counts ·.callback) =
      storedCount (counts ·.callback) emitter.events := by
  have hstored := storedCount_restrict (counts ·.callback) emitter.events name
    (List.filter (!·.once)) rfl
  rw [onceOnly.countP_kept] at hstored
  exact hstored

theorem after (onceOnly : OnceOnly counts emitter.events) (step : Step τ β)
    (honce : ∀ placement once name callback, step = .add placement once name callback →
      counts callback → once = true) :
    OnceOnly counts (emitter.after step).events := by
  cases step with
  | add placement once name callback =>
      apply forall_extend (fun listeners => ∀ listener ∈ listeners,
        counts listener.callback → listener.once) onceOnly
      intro listeners hlisteners listener hmem hcounts
      have hcases : listener ∈ listeners ∨
          listener = ⟨⟨emitter.nextId⟩, callback, once⟩ := by
        cases placement with
        | last => simpa [place] using hmem
        | first => simpa [place, or_comm] using hmem
      rcases hcases with hold | hnew
      · rcases hlisteners with hnil | hall
        · rw [hnil] at hold
          cases hold
        · exact hall listener hold hcounts
      · subst hnew
        exact honce placement once name callback rfl hcounts
  | off name id =>
      rw [Emitter.after, off]
      cases ((emitter.listeners? name).getD []).any (·.id = id) with
      | false => exact onceOnly
      | true =>
          apply forall_restrict (fun listeners => ∀ listener ∈ listeners,
            counts listener.callback → listener.once) onceOnly
          intro listeners hall _ listener hmem
          exact hall listener (List.mem_of_mem_eraseP hmem)
  | emit name argument =>
      apply forall_restrict (fun listeners => ∀ listener ∈ listeners,
        counts listener.callback → listener.once) onceOnly
      intro listeners hall _ listener hmem
      exact hall listener (List.mem_filter.mp hmem).1

end OnceOnly

/-- In a step, the counted calls and the counted listeners that are left are no more than
those before and the one that is added. -/
theorem advance_balance (perform : τ → β → Recorded (Call β) σ Unit) (emitter : Emitter β)
    (step : Step τ β) (surroundings : Surroundings) (recording : Recording (Call β) σ) :
    ∃ reply added,
      Writes (advance (fun argument => noting (perform argument)) emitter step) surroundings
        recording (.ok (reply, emitter.after step)) added ∧
      ∀ counts : β → Bool, OnceOnly counts emitter.events →
        callCount counts added + storedCount (counts ·.callback) (emitter.after step).events ≤
          storedCount (counts ·.callback) emitter.events + if step.adds counts then 1 else 0 := by
  cases step with
  | add placement once name callback =>
      refine ⟨_, [], Writes.pure _, ?_⟩
      intro counts _
      have hstored := storedCount_extend (counts ·.callback) emitter.events name
        (place placement ⟨⟨emitter.nextId⟩, callback, once⟩)
      rw [countP_place] at hstored
      change _ = _ + (_ + if counts callback then 1 else 0) at hstored
      show 0 + storedCount _ (extend name _ emitter.events) ≤ _ +
        if counts callback then 1 else 0
      omega
  | off name id =>
      refine ⟨_, [], Writes.pure _, ?_⟩
      intro counts _
      show 0 + storedCount _ (emitter.off name id).2.events ≤ _ + 0
      rw [Nat.zero_add]
      exact storedCount_off_le (counts ·.callback) emitter name id
  | emit name argument =>
      cases hlisteners : emitter.listeners? name with
      | none =>
          have hrun := runFrom_advance_emit_of_none perform hlisteners argument surroundings
            recording
          have hsame : emitter.after (.emit name argument) = emitter :=
            detachOnce_of_none hlisteners
          refine ⟨.emitted (.ok false), [], ⟨?_, ?_⟩, ?_⟩
          · rw [hrun, hsame]
          · rw [hrun, List.append_nil]
          · intro counts onceOnly
            rw [hsame]
            show 0 + storedCount _ emitter.events ≤ storedCount _ emitter.events + 0
            omega
      | some listeners =>
          obtain ⟨outcome, added, hwrites, hdelivers⟩ :=
            writes_advance_emit perform hlisteners argument surroundings recording
          refine ⟨_, added, hwrites, ?_⟩
          intro counts onceOnly
          have hcalls := hdelivers.callCount_le counts
          have hbefore : listenersIn emitter.events name = listeners :=
            congrArg (·.getD []) hlisteners
          have hstored := onceOnly.storedCount_detachOnce name
          rw [hbefore] at hstored
          show _ + storedCount _ (emitter.detachOnce name).events ≤ _ + 0
          omega

/-- Over a history, callbacks that are only added for a single emission are called at most
as often as they are added. -/
theorem replay_balance (perform : τ → β → Recorded (Call β) σ Unit) (emitter : Emitter β)
    (steps : List (Step τ β)) (surroundings : Surroundings) (recording : Recording (Call β) σ) :
    ∃ replies added,
      Writes (replay (fun argument => noting (perform argument)) emitter steps) surroundings
        recording (.ok (replies, steps.foldl after emitter)) added ∧
      ∀ counts : β → Bool, OnceOnly counts emitter.events →
        (∀ placement once name callback, .add placement once name callback ∈ steps →
          counts callback → once = true) →
        callCount counts added +
            storedCount (counts ·.callback) (steps.foldl after emitter).events ≤
          storedCount (counts ·.callback) emitter.events + steps.countP (·.adds counts) := by
  induction steps generalizing emitter recording with
  | nil =>
      refine ⟨[], [], Writes.pure _, ?_⟩
      intro counts _ _
      show 0 + storedCount _ emitter.events ≤ storedCount _ emitter.events + 0
      omega
  | cons step steps ih =>
      obtain ⟨reply, first, hfirst, hstep⟩ :=
        advance_balance perform emitter step surroundings recording
      obtain ⟨replies, second, hsecond, hsteps⟩ := ih (emitter.after step)
        ((advance (fun argument => noting (perform argument)) emitter step).runFrom surroundings
          recording).2
      refine ⟨reply :: replies, first ++ (second ++ []), ?_, ?_⟩
      · exact hfirst.bind (hsecond.bind (Writes.pure _))
      · intro counts onceOnly honce
        have onceOnly' : OnceOnly counts (emitter.after step).events := by
          apply onceOnly.after step
          intro placement once name callback heq
          exact honce placement once name callback (heq ▸ List.mem_cons_self)
        have hnow := hstep counts onceOnly
        have hlater := hsteps counts onceOnly' fun placement once name callback hmem =>
          honce placement once name callback (List.mem_cons_of_mem _ hmem)
        rw [List.append_nil, callCount_append, List.countP_cons, List.foldl_cons]
        omega

/-! ## Each addition on its own -/

/-- The history in which each added callback carries the number of its addition. -/
def numberFrom (next : Nat) : List (Step τ β) → List (Step τ (Nat × β))
  | [] => []
  | .add placement once name callback :: later =>
      .add placement once name (next, callback) :: numberFrom (next + 1) later
  | .off name id :: later => .off name id :: numberFrom next later
  | .emit name argument :: later => .emit name argument :: numberFrom next later

theorem numberFrom_append (next : Nat) (earlier later : List (Step τ β)) :
    numberFrom next (earlier ++ later) =
      numberFrom next earlier ++ numberFrom (next + additions earlier) later := by
  induction earlier generalizing next with
  | nil => rfl
  | cons first earlier ih =>
      cases first with
      | add placement once name callback =>
          have hcount : additions (.add placement once name callback :: earlier) =
              additions earlier + 1 := List.countP_cons_of_pos rfl
          rw [List.cons_append, numberFrom, numberFrom, ih, hcount, List.cons_append,
            Nat.add_right_comm, Nat.add_assoc]
      | off name id =>
          rw [List.cons_append, numberFrom, numberFrom, ih]
          rfl
      | emit name argument =>
          rw [List.cons_append, numberFrom, numberFrom, ih]
          rfl

theorem number_bounds {next : Nat} {steps : List (Step τ β)} {placement : Placement}
    {once : Bool} {name : String} {item : Nat × β}
    (hmem : .add placement once name item ∈ numberFrom next steps) :
    next ≤ item.1 ∧ item.1 < next + additions steps := by
  induction steps generalizing next with
  | nil => cases hmem
  | cons first steps ih =>
      cases first with
      | add placement once name callback =>
          have hcount : additions (.add placement once name callback :: steps) =
              additions steps + 1 := List.countP_cons_of_pos rfl
          rw [hcount]
          rcases List.mem_cons.mp hmem with hhead | hlater
          · cases hhead
            omega
          · have hbounds := ih hlater
            omega
      | off name id =>
          rcases List.mem_cons.mp hmem with hhead | hlater
          · cases hhead
          · exact ih hlater
      | emit name argument =>
          rcases List.mem_cons.mp hmem with hhead | hlater
          · cases hhead
          · exact ih hlater

theorem numberFrom_split (before : List (Step τ β)) (placement : Placement) (once : Bool)
    (name : String) (callback : β) (rest : List (Step τ β)) :
    numberFrom 0 (before ++ .add placement once name callback :: rest) =
      numberFrom 0 before ++ .add placement once name (additions before, callback) ::
        numberFrom (additions before + 1) rest := by
  rw [numberFrom_append, numberFrom, Nat.zero_add]

theorem number_ne_of_mem_before {before : List (Step τ β)} {placement : Placement} {once : Bool}
    {name : String} {item : Nat × β}
    (hmem : .add placement once name item ∈ numberFrom 0 before) :
    item.1 ≠ additions before := by
  have hbounds := number_bounds hmem
  omega

theorem number_ne_of_mem_rest {number : Nat} {rest : List (Step τ β)} {placement : Placement}
    {once : Bool} {name : String} {item : Nat × β}
    (hmem : .add placement once name item ∈ numberFrom (number + 1) rest) :
    item.1 ≠ number := by
  have hbounds := number_bounds hmem
  omega

theorem countP_adds_eq_zero {counts : β → Bool} {steps : List (Step τ β)}
    (hnone : ∀ placement once name callback, .add placement once name callback ∈ steps →
      counts callback = false) : steps.countP (·.adds counts) = 0 := by
  rw [List.countP_eq_zero]
  intro step hmem
  cases step with
  | add placement once name callback =>
      rw [Step.adds, hnone placement once name callback hmem]
      exact Bool.false_ne_true
  | off name id => exact Bool.false_ne_true
  | emit name argument => exact Bool.false_ne_true

/-- No two additions have one number. -/
theorem countP_adds_number (before : List (Step τ β)) (placement : Placement) (once : Bool)
    (name : String) (callback : β) (rest : List (Step τ β)) :
    (numberFrom 0 (before ++ .add placement once name callback :: rest)).countP
      (·.adds (·.1 = additions before)) = 1 := by
  have hbefore : (numberFrom 0 before).countP (·.adds (·.1 = additions before)) = 0 := by
    apply countP_adds_eq_zero
    intro placement once name item hmem
    exact decide_eq_false (number_ne_of_mem_before hmem)
  have hrest : (numberFrom (additions before + 1) rest).countP
      (·.adds (·.1 = additions before)) = 0 := by
    apply countP_adds_eq_zero
    intro placement once name item hmem
    exact decide_eq_false (number_ne_of_mem_rest hmem)
  rw [numberFrom_split, List.countP_append, List.countP_cons, hbefore, hrest, Step.adds,
    if_pos (decide_eq_true rfl)]

/-- **An emission follows the listeners it finds, and its effect on the emitter does not
depend on what they do.** From the emitter that any history leads to, an emission to nobody
does nothing. Any other one calls the listeners in order up to the first that stops, after
one report of how many there are, and ends as that one does. Whatever the calls do, it
leaves one and the same emitter: the name keeps the listeners that did not ask for a single
emission, or goes if there are none, and nothing else changes. So over a whole history a
listener that asked for a single emission is called at most once. -/
theorem emission_follows_listeners (steps : List (Step τ β)) (name : String) :
    ((ofHistory steps).listeners? name = none →
      ∀ {σ : Type} (perform : τ → β → Recorded (Call β) σ Unit) argument surroundings recording,
        (advance (fun argument => noting (perform argument)) (ofHistory steps)
            (.emit name argument)).runFrom surroundings recording =
          (.ok (.emitted (.ok false), ofHistory steps), recording)) ∧
    (∀ listeners, (ofHistory steps).listeners? name = some listeners →
      ∃ left : Emitter β,
        (∀ {σ : Type} (perform : τ → β → Recorded (Call β) σ Unit) argument surroundings
            recording, ∃ outcome added,
          Writes (advance (fun argument => noting (perform argument)) (ofHistory steps)
            (.emit name argument)) surroundings recording (.ok (.emitted outcome, left)) added ∧
          Delivers name listeners outcome added) ∧
        (∀ other, left.listeners? other =
          if other = name then
            if listeners.filter (!·.once) = [] then none else some (listeners.filter (!·.once))
          else (ofHistory steps).listeners? other) ∧
        left.eventNames =
          (if listeners.filter (!·.once) = [] then (ofHistory steps).eventNames.filter (· ≠ name)
          else (ofHistory steps).eventNames) ∧
        left.nextId = (ofHistory steps).nextId) ∧
    ∀ {σ : Type} (perform : τ → Nat × β → Recorded (Call (Nat × β)) σ Unit) surroundings
        recording, ∃ replies added,
      Writes (replay (fun argument => noting (perform argument)) {} (numberFrom 0 steps))
        surroundings recording (.ok (replies, ofHistory (numberFrom 0 steps))) added ∧
      ∀ before placement event callback rest,
        steps = before ++ .add placement true event callback :: rest →
          callCount (·.1 = additions before) added ≤ 1 := by
  have orderly := orderly_ofHistory steps
  refine ⟨fun hnone σ perform => runFrom_advance_emit_of_none perform hnone, ?_, ?_⟩
  · intro listeners hlisteners
    have hbefore : listenersIn (ofHistory steps).events name = listeners :=
      congrArg (·.getD []) hlisteners
    refine ⟨(ofHistory steps).detachOnce name, fun perform =>
      writes_advance_emit perform hlisteners, ?_, ?_, rfl⟩
    · intro other
      rw [orderly.listeners?_detachOnce, hbefore]
    · rw [← hbefore]
      exact namesIn_restrict orderly name _
  · intro σ perform surroundings recording
    obtain ⟨replies, added, hwrites, hbalance⟩ :=
      replay_balance perform {} (numberFrom 0 steps) surroundings recording
    refine ⟨replies, added, hwrites, ?_⟩
    intro before placement event callback rest hsplit
    have hcalls := hbalance (·.1 = additions before) (fun event hmem => by cases hmem) ?_
    · rw [hsplit, countP_adds_number] at hcalls
      change _ ≤ 0 + 1 at hcalls
      omega
    · -- The other additions have other numbers, so only this one has to be for one emission.
      intro placement once event item hmem hnumber
      have hnumber : item.1 = additions before := of_decide_eq_true hnumber
      rw [hsplit, numberFrom_split, List.mem_append, List.mem_cons] at hmem
      rcases hmem with hearlier | hthis | hlater
      · exact absurd hnumber (number_ne_of_mem_before hearlier)
      · cases hthis
        rfl
      · exact absurd hnumber (number_ne_of_mem_rest hlater)

/-- A listener that asked for a single emission goes, and the one behind it stays. -/
theorem emission_leaves_second :
    (ofHistory ([.add .last true "a" 1, .add .last false "a" 2] : List (Step Unit Nat))).listeners?
      "a" = some [⟨⟨0⟩, 1, true⟩, ⟨⟨1⟩, 2, false⟩] ∧
    ∃ left : Emitter Nat,
      left.listeners? "a" = some [⟨⟨1⟩, 2, false⟩] ∧ left.eventNames = ["a"] ∧
        left.nextId = 2 := by
  obtain ⟨-, hsome, -⟩ := emission_follows_listeners
    ([.add .last true "a" 1, .add .last false "a" 2] : List (Step Unit Nat)) "a"
  obtain ⟨left, -, hlisteners, hnames, hnext⟩ := hsome _ rfl
  refine ⟨rfl, left, ?_, ?_, ?_⟩
  · rw [hlisteners]
    rfl
  · rw [hnames]
    rfl
  · rw [hnext]
    rfl

end CallBench.Emitter
