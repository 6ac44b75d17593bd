import Workloads.Registry.Basic

/-!
# The registry behind its lock

One lock guards the whole registry and every operation is one critical
section.  A section that breaks off leaves the lock marked as poisoned; later
sections take the guarded registry all the same and find it as the broken
section left it.
-/

namespace Workloads.Registry

/-- What asking for the lock gives: the registry, with or without the warning
that a section has broken off. -/
inductive Acquired where
  | clean (tasks : Registry)
  | poisoned (tasks : Registry)

/-- The registry itself, whatever the warning. -/
def Acquired.recover : Acquired → Registry
  | clean tasks | poisoned tasks => tasks

/-- A registry behind a lock, and whether a section has broken off. -/
structure Guarded where
  tasks : Registry := ∅
  poisoned : Bool := false

namespace Guarded

/-- Asks for the lock. -/
def acquire (guarded : Guarded) : Acquired :=
  if guarded.poisoned then .poisoned guarded.tasks
  else .clean guarded.tasks

@[simp]
theorem recover_acquire (guarded : Guarded) :
    guarded.acquire.recover = guarded.tasks := by
  unfold acquire
  split <;> rfl

/-- What a critical section answers, leaves behind, and reports. -/
structure Outcome where
  reply : Reply
  guarded : Guarded
  events : List Event

/-- Carries out one operation as one critical section. -/
def perform (guarded : Guarded) (action : Action) : Outcome :=
  let outcome := guarded.acquire.recover.perform action
  { reply := outcome.reply
    guarded :=
      { tasks := outcome.registry
        poisoned := guarded.poisoned || outcome.reply == .broken }
    events := outcome.events }

end Guarded

end Workloads.Registry
