/-
# Registries changed in place

Work on a registry may stop. It leaves how it ended and, beside that, the registry as it is
by then: nothing is put back, so a registry is as it was only if the work has not changed it.
-/

import CallBench.Host
import CallBench.Registry.Basic

namespace CallBench.Registry

/-- Work that changes a registry in place. -/
abbrev InPlace (α : Type) (m : Type → Type) : Type → Type :=
  ExceptT Stop (StateT (Registry α) m)

namespace InPlace

variable {α β : Type} {m : Type → Type}

/-- Does the work on a registry: how it ends, and the registry it leaves. -/
def on (work : InPlace α m β) (registry : Registry α) : m (Except Stop β × Registry α) :=
  work.run.run registry

variable [Monad m] [MonadExceptOf Stop m]

/-- Does something that has nothing to do with the registry. -/
def beside (action : m β) : InPlace α m β :=
  ExceptT.mk (StateT.lift (attempt action))

/-- Changes the registry. -/
def update (change : Registry α → m (Registry α)) : InPlace α m Unit := do
  set (← beside (change (← getThe (Registry α))))

/-- Does the work on a registry of one's own, which is dropped if the work stops. -/
def orDrop (work : InPlace α m Unit) (registry : Registry α) : m (Registry α) := do
  let (outcome, left) ← work.on registry
  conclude outcome
  pure left

instance [MonadDiagnostics m] : MonadDiagnostics (InPlace α m) where
  report diagnostic := beside (report diagnostic)

end InPlace

end CallBench.Registry
