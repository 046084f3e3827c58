/-
# Event emitters

An emitter keeps listeners by the name of the event they listen to. Names keep the
order in which they first received a listener, and listeners the order in which
they were added unless they were put in front. An emission works on the listeners
that are there when it starts: listeners that asked for a single emission are
taken out before the first of them is called, so what the listeners do has no
influence on the emitter that is left.
-/

import CallBench.Host

namespace CallBench

/-- Names a listener of one emitter. Ids are handed out in increasing order. -/
structure ListenerId where
  number : UInt64
  deriving DecidableEq

/-- Something that is called when its event is emitted. -/
structure Listener (β : Type) where
  id : ListenerId
  callback : β
  /-- Whether the listener is taken out by the next emission. -/
  once : Bool

/-- Where a new listener goes. -/
inductive Placement where
  | last
  | first
  deriving DecidableEq

/-- Listeners by the name of their event. -/
structure Emitter (β : Type) where
  /-- The names that have listeners, and the listeners of each. -/
  events : List (String × List (Listener β)) := []
  /-- The number of the next id. -/
  nextId : UInt64 := 0

namespace Emitter

variable {β : Type}

/-- Changes the listeners of a name; a new name goes to the end. -/
def extend (name : String) (change : List (Listener β) → List (Listener β)) :
    List (String × List (Listener β)) → List (String × List (Listener β))
  | [] => [(name, change [])]
  | (other, listeners) :: rest =>
      if other = name then (other, change listeners) :: rest
      else (other, listeners) :: extend name change rest

/-- Changes the listeners of a name; a name without listeners is removed. -/
def restrict (name : String) (change : List (Listener β) → List (Listener β)) :
    List (String × List (Listener β)) → List (String × List (Listener β))
  | [] => []
  | (other, listeners) :: rest =>
      if other = name then
        match change listeners with
        | [] => rest
        | kept => (other, kept) :: rest
      else (other, listeners) :: restrict name change rest

/-- The listeners of a name, in the order they are called; none if the name is
not kept. -/
def listeners? (emitter : Emitter β) (name : String) : Option (List (Listener β)) :=
  (emitter.events.find? (·.1 = name)).map (·.2)

/-- Puts a listener among others. -/
def place (placement : Placement) (listener : Listener β) (listeners : List (Listener β)) :
    List (Listener β) :=
  match placement with
  | .last => listeners ++ [listener]
  | .first => listener :: listeners

/-- Adds a listener to a name. -/
def add (emitter : Emitter β) (placement : Placement) (once : Bool) (name : String)
    (callback : β) : ListenerId × Emitter β :=
  let id : ListenerId := ⟨emitter.nextId⟩
  (id, { events := extend name (place placement ⟨id, callback, once⟩) emitter.events
         nextId := emitter.nextId + 1 })

/-- Adds a listener that is called after the others, at every emission. -/
def on (emitter : Emitter β) : (name : String) → β → ListenerId × Emitter β :=
  emitter.add .last false

/-- Adds a listener that is called after the others, at the next emission only. -/
def once (emitter : Emitter β) : (name : String) → β → ListenerId × Emitter β :=
  emitter.add .last true

/-- Adds a listener that is called before the others, at every emission. -/
def prependListener (emitter : Emitter β) : (name : String) → β → ListenerId × Emitter β :=
  emitter.add .first false

/-- Adds a listener that is called before the others, at the next emission only. -/
def prependOnceListener (emitter : Emitter β) : (name : String) → β → ListenerId × Emitter β :=
  emitter.add .first true

/-- Removes one listener of a name, and tells whether the name had it. -/
def off (emitter : Emitter β) (name : String) (id : ListenerId) : Bool × Emitter β :=
  if ((emitter.listeners? name).getD []).any (·.id = id) then
    (true, { emitter with
      events := restrict name (List.eraseP (·.id = id)) emitter.events })
  else (false, emitter)

/-- The emitter after an emission has taken out the listeners that asked for a single
one. -/
def detachOnce (emitter : Emitter β) (name : String) : Emitter β :=
  { emitter with events := restrict name (List.filter (!·.once)) emitter.events }

/-- Emits an event. The first component calls the listeners in order, up to the first
that stops, and tells whether there were any; the second is the emitter that is
left, which does not depend on the calls. -/
def emit {m : Type → Type} [Monad m] [MonadDiagnostics m] (emitter : Emitter β) (name : String)
    (call : β → m Unit) : m Bool × Emitter β :=
  match emitter.listeners? name with
  | none => (pure false, emitter)
  | some listeners =>
      let delivery := do
        report (.eventEmitted name listeners.length)
        listeners.forM fun listener => call listener.callback
        pure true
      (delivery, emitter.detachOnce name)

/-- The names that have listeners. -/
def eventNames (emitter : Emitter β) : List String :=
  emitter.events.map (·.1)

/-- How many listeners a name has. -/
def listenerCount (emitter : Emitter β) (name : String) : Nat :=
  ((emitter.listeners? name).map List.length).getD 0

/-- The names and how many listeners each has. -/
def counts (emitter : Emitter β) : List (String × Nat) :=
  emitter.events.map fun (name, listeners) => (name, listeners.length)

/-- A name without listeners is not touched by a restriction. -/
theorem restrict_of_notMem {name : String} {events : List (String × List (Listener β))}
    (change : List (Listener β) → List (Listener β)) (h : name ∉ events.map (·.1)) :
    restrict name change events = events := by
  induction events with
  | nil => rfl
  | cons event rest ih =>
      obtain ⟨other, listeners⟩ := event
      simp only [List.map_cons, List.mem_cons, not_or] at h
      rw [restrict, if_neg (Ne.symm h.1), ih h.2]

theorem listeners?_eq_none_iff {emitter : Emitter β} {name : String} :
    emitter.listeners? name = none ↔ name ∉ emitter.eventNames := by
  simp only [listeners?, eventNames, Option.map_eq_none_iff, List.find?_eq_none, List.mem_map,
    decide_eq_true_eq]
  exact ⟨fun h ⟨event, member, same⟩ => h event member same, fun h event member same =>
    h ⟨event, member, same⟩⟩

theorem detachOnce_of_none {emitter : Emitter β} {name : String}
    (hnone : emitter.listeners? name = none) : emitter.detachOnce name = emitter := by
  rw [detachOnce, restrict_of_notMem _ (listeners?_eq_none_iff.mp hnone)]

/-- The emitter that an emission leaves depends on its listeners, not on what they do. -/
theorem emit_snd {m : Type → Type} [Monad m] [MonadDiagnostics m] (emitter : Emitter β)
    (name : String) (call : β → m Unit) :
    (emitter.emit name call).2 = emitter.detachOnce name := by
  unfold emit
  split
  next h => rw [detachOnce_of_none h]
  next => rfl

/-- The emitter as it is shown to a reader. -/
def layout (emitter : Emitter β) : Text.Layout :=
  .record "EventEmitter"
    [("events", .list (emitter.counts.map fun (name, count) =>
      .tuple "" [.text name, .number count]))] false

end Emitter

/-- An id as it is shown to a reader. -/
def ListenerId.layout (id : ListenerId) : Text.Layout :=
  .tuple "ListenerId" [.number id.number.toNat]

end CallBench
