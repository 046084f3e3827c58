/-
# Histories of an emitter

An emitter is changed by additions, removals and emissions. A history is a list of
such steps, and the emitter it leads to can be told from the history alone: what
counts is which listeners are still live and how they were added.
-/

import CallBench.Recording

namespace CallBench.Emitter

/-- One step in the life of an emitter. -/
inductive Step (τ β : Type) where
  /-- A listener is added. -/
  | add (placement : Placement) (once : Bool) (name : String) (callback : β)
  /-- A listener is asked to be removed from a name. -/
  | off (name : String) (id : ListenerId)
  /-- An event is emitted. What its listeners do with the argument is not part of the
  step, because the emitter that is left does not depend on it. -/
  | emit (name : String) (argument : τ)

variable {τ β ν σ : Type}

/-- The emitter after a step. -/
def after (emitter : Emitter β) : Step τ β → Emitter β
  | .add placement once name callback => (emitter.add placement once name callback).2
  | .off name id => (emitter.off name id).2
  | .emit name _ => emitter.detachOnce name

/-- The emitter that a history leads to, from a new one. -/
def ofHistory (steps : List (Step τ β)) : Emitter β :=
  steps.foldl after {}

/-- What a step answers. -/
inductive Reply where
  /-- The id of the listener that was added. -/
  | added (id : ListenerId)
  /-- Whether the listener was there to be removed. -/
  | removed (found : Bool)
  /-- How the emission ended. -/
  | emitted (outcome : Except Stop Bool)

/-- Takes a step, with what it answers and the emitter it leaves. `call` performs a
callback with the argument of an emission. An emission that stops is over, and the
history goes on with the emitter it has left. -/
def advance (call : τ → β → Recorded ν σ Unit) (emitter : Emitter β) :
    Step τ β → Recorded ν σ (Reply × Emitter β)
  | .add placement once name callback =>
      let (id, left) := emitter.add placement once name callback
      pure (.added id, left)
  | .off name id =>
      let (found, left) := emitter.off name id
      pure (.removed found, left)
  | .emit name argument => do
      let (delivery, left) := emitter.emit name (call argument)
      let outcome ← attempt delivery
      pure (.emitted outcome, left)

/-- Takes the steps of a history in order, from an emitter. -/
def replay (call : τ → β → Recorded ν σ Unit) (emitter : Emitter β) :
    List (Step τ β) → Recorded ν σ (List Reply × Emitter β)
  | [] => pure ([], emitter)
  | step :: later => do
      let (reply, left) ← advance call emitter step
      let (replies, last) ← replay call left later
      pure (reply :: replies, last)

/-- Whether a step adds a listener. -/
def Step.isAddition : Step τ β → Bool
  | .add .. => true
  | _ => false

/-- How many listeners a history adds. -/
def additions (steps : List (Step τ β)) : Nat :=
  steps.countP Step.isAddition

/-- A listener with how it was added. -/
structure Addition (β : Type) where
  name : String
  placement : Placement
  listener : Listener β

/-- Whether a later step leaves a listener where it is. A removal takes it out by its
name and id, and an emission of its event if it asked for a single one. -/
def Step.spares (addition : Addition β) : Step τ β → Bool
  | .add .. => true
  | .off name id => !(name = addition.name && id = addition.listener.id)
  | .emit name _ => !(name = addition.name && addition.listener.once)

/-- The additions of a history that are live at its end, in the order they were
made. The first of them gets the id with the number `next`. -/
def liveFrom (next : UInt64) : List (Step τ β) → List (Addition β)
  | [] => []
  | .add placement once name callback :: later =>
      let addition : Addition β := ⟨name, placement, ⟨⟨next⟩, callback, once⟩⟩
      let rest := liveFrom (next + 1) later
      if later.all (·.spares addition) then addition :: rest else rest
  | _ :: later => liveFrom next later

/-- The additions that are live at the end of a new emitter's history. -/
def live (steps : List (Step τ β)) : List (Addition β) :=
  liveFrom 0 steps

/-- The live additions to a name. -/
def liveAt (steps : List (Step τ β)) (name : String) : List (Addition β) :=
  (live steps).filter (·.name = name)

/-- The live listeners of a name in the order they are called: those put in front, the
newest first, then the others, the oldest first. -/
def liveListeners (steps : List (Step τ β)) (name : String) : List (Listener β) :=
  let first := (liveAt steps name).filter (·.placement = .first)
  let last := (liveAt steps name).filter (·.placement = .last)
  first.reverse.map (·.listener) ++ last.map (·.listener)

/-- Whether a name has had a live listener ever since so many steps had been taken. -/
def HasHeld (steps : List (Step τ β)) (name : String) (since : Nat) : Prop :=
  ∀ taken, since ≤ taken → taken ≤ steps.length → liveAt (steps.take taken) name ≠ []

/-- Whether a name's present unbroken period of having live listeners began when so
many steps had been taken. -/
def BeganAt (steps : List (Step τ β)) (name : String) (start : Nat) : Prop :=
  start ≤ steps.length ∧ HasHeld steps name start ∧
    ∀ earlier < start, ¬ HasHeld steps name earlier

end CallBench.Emitter
