import Workloads.Failure
import Workloads.Task.Basic

/-!
# Calls to the container runtime

An operation that needs the container runtime suspends until its call is
answered, and the registry is free meanwhile.  A suspension keeps exactly what
the operation still needs to know; the call it waits for is read off it, and
the type of the answer is read off the call.
-/

namespace Workloads

/-- A call to the container runtime. -/
inductive RuntimeCall where
  | run (task : Task)
  | stop (container : String) (seconds : Nat)
  | remove (container : String)
  deriving DecidableEq

/-- What a call answers when it succeeds: a run names the new container. -/
abbrev RuntimeCall.Value : RuntimeCall → Type
  | .run _ => String
  | .stop _ _ => Unit
  | .remove _ => Unit

/-- The answer to a call. -/
abbrev RuntimeCall.Reply (call : RuntimeCall) : Type :=
  Except RuntimeFailure call.Value

/-- An operation waiting for the answer to its call. -/
inductive Suspension where
  /-- A launch waits for the container of the task it has read. -/
  | running (id : String) (task : Task)
  /-- A launch whose task was removed drops the container it started. -/
  | dropping (id container : String)
  /-- A launch whose task was terminated stops the container it started. -/
  | quelling (task : Task) (container : String) (seconds : Nat)
  /-- A termination stops the container it found before it ends the task. -/
  | stopping (id : String) (request : StopRequest)
      (container : String) (seconds : Nat)
  /-- A termination stops a container recorded since it first looked. -/
  | stoppingLate (task : Task) (container : String) (seconds : Nat)
  /-- A removal deletes the container before it forgets the task. -/
  | removing (task : Task) (container : String)
  deriving DecidableEq

/-- The call that a suspended operation waits for. -/
abbrev Suspension.call : Suspension → RuntimeCall
  | running _ task => .run task
  | dropping _ container => .remove container
  | quelling _ container seconds => .stop container seconds
  | stopping _ _ container seconds => .stop container seconds
  | stoppingLate _ container seconds => .stop container seconds
  | removing _ container => .remove container

/-- How many calls an operation suspended here can still make, counting the
one it waits for. -/
def Suspension.depth : Suspension → Nat
  | running _ _ | stopping _ _ _ _ => 2
  | _ => 1

end Workloads
