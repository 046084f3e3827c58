/-
# Emitters on loan

A benchmark that emits at a shared emitter has the emitter on loan until it ends, however it
ends, and an emitter that is on loan is not lent a second time: who asks for it panics. The
jobs of a registry keep no list of loans. Here they do, beside what their actions keep, so
that a loan that is refused shows as a panic.
-/

import CallBench.Library.Suite
import CallBench.Recording

namespace CallBench

/-- What actions keep, and which emitters are on loan. -/
structure Loans (σ : Type) where
  /-- The places of the emitters that are on loan. -/
  lent : List Nat := []
  /-- What the actions keep of their own. -/
  own : σ

namespace Loans

variable {σ : Type}

/-- The emitter in a place is lent. -/
def lend (loans : Loans σ) (place : Nat) : Loans σ :=
  { loans with lent := place :: loans.lent }

/-- The emitter in a place is given back. -/
def giveBack (loans : Loans σ) (place : Nat) : Loans σ :=
  { loans with lent := loans.lent.erase place }

end Loans

variable {ν σ α : Type}

/-- Works with the emitter in a place on loan. -/
def Recorded.lending (place : Nat) (work : Recorded ν (Loans σ) Unit) :
    Recorded ν (Loans σ) Unit := do
  if place ∈ (← getThe (Recording ν (Loans σ))).state.lent then
    throw (.panicked "already borrowed")
  updateState fun loans => ((), loans.lend place)
  let outcome ← attempt work
  updateState fun loans => ((), loans.giveBack place)
  conclude outcome

/-- Performs the job of a benchmark. One that emits has its emitter on loan. -/
def Job.performLending (custom : α → Recorded ν (Loans σ) Unit) :
    Job α → Recorded ν (Loans σ) Unit
  | .library (.emit place event times) => Recorded.lending place (emitTimes place event times)
  | .library call => discard call.perform
  | .custom action => custom action

end CallBench
