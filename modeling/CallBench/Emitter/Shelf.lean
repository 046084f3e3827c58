/-
# Shared emitters

Several actions can work on one emitter. Such emitters stand on a shelf, where each
keeps its place, and the actions know the place.
-/

import CallBench.Emitter.Basic

namespace CallBench

/-- Emitters by their place. -/
structure Shelf (β : Type) where
  emitters : List (Emitter β) := []

namespace Shelf

variable {β : Type}

/-- Puts one more emitter on the shelf, at the next free place. -/
def add (shelf : Shelf β) (emitter : Emitter β) : Nat × Shelf β :=
  (shelf.emitters.length, ⟨shelf.emitters ++ [emitter]⟩)

/-- The emitter at a place; an empty one where none stands. -/
def look (shelf : Shelf β) (place : Nat) : Emitter β :=
  shelf.emitters[place]?.getD {}

/-- Puts an emitter in the place of another. -/
def set (shelf : Shelf β) (place : Nat) (emitter : Emitter β) : Shelf β :=
  ⟨shelf.emitters.set place emitter⟩

theorem look_add (shelf : Shelf β) (emitter : Emitter β) :
    (shelf.add emitter).2.look (shelf.add emitter).1 = emitter := by
  simp [look, add]

theorem look_set_self {shelf : Shelf β} {place : Nat} (h : place < shelf.emitters.length)
    (emitter : Emitter β) : (shelf.set place emitter).look place = emitter := by
  simp [look, set, h]

theorem look_set_of_ne {shelf : Shelf β} {place other : Nat} (h : place ≠ other)
    (emitter : Emitter β) : (shelf.set place emitter).look other = shelf.look other := by
  simp [look, set, h]

end Shelf

/-- Emits an event at the emitter in a place. The emitter that is left is put back
before its listeners are called. -/
def emitAt {β : Type} {m : Type → Type} [Monad m] [MonadDiagnostics m] [MonadStateOf (Shelf β) m]
    (call : β → m Unit) (place : Nat) (name : String) : m Bool := do
  let shelf ← getThe (Shelf β)
  let (delivery, left) := (shelf.look place).emit name call
  set (shelf.set place left)
  delivery

end CallBench
