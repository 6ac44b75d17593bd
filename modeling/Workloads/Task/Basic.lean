import Workloads.KeyMap
import Workloads.Task.ContainerName
import Workloads.Task.Status

/-!
# Tasks

A task is one workload container to run on this host: what to launch, the name
its container gets, and how far it has come.  The container name is derived
once, when the task is made, and no later change recomputes it.
-/

namespace Workloads

/-- What to launch, as a client asks for it. -/
structure LaunchSpec where
  id : String := ""
  label : String := ""
  image : String := ""
  command : List String := []
  environment : KeyMap String := ∅
  ports : List UInt16 := []
  deriving DecidableEq, Inhabited

/-- A task as it is registered. -/
structure Task where
  id : String := ""
  status : Status := .pending
  containerId : Option String := none
  reason : Option String := none
  message : Option String := none
  containerName : String := ""
  spec : LaunchSpec := {}
  deriving DecidableEq, Inhabited

namespace Task

/-- The pending task of a launch specification. -/
def ofSpec (spec : LaunchSpec) : Task where
  id := spec.id
  containerName := ContainerName.derive spec.label spec.id
  spec := spec

/-- The task ended for this reason, with this message. -/
def terminate (task : Task) (reason message : String) : Task :=
  { task with
    status := .terminated
    reason := some reason
    message := some message }

/-- The task ended for this reason unless it has ended already. -/
def settle (task : Task) (reason message : String) : Task :=
  if task.status.isFinal then task else task.terminate reason message

/-- The task with the container that its launch started: it runs from now on
unless it has ended meanwhile. -/
def started (task : Task) (container : String) : Task :=
  if task.status.isFinal then
    { task with containerId := some container }
  else
    { task with containerId := some container, status := .running }

end Task

/-- What clients are shown of a task. -/
structure Summary where
  id : String
  status : Status
  containerName : String
  containerId : Option String
  reason : Option String
  message : Option String
  deriving DecidableEq, Repr

/-- The summary of a task leaves out its launch specification. -/
def Task.summary (task : Task) : Summary where
  id := task.id
  status := task.status
  containerName := task.containerName
  containerId := task.containerId
  reason := task.reason
  message := task.message

/-- The ids of the registered tasks, as clients are shown them. -/
structure Listing where
  ids : List String
  deriving DecidableEq, Repr

/-- How a client wants a task ended; what is absent takes its default. -/
structure StopRequest where
  timeout : Option Nat := none
  reason : Option String := none
  message : Option String := none
  deriving DecidableEq, Repr, Inhabited

/-! ## Edits -/

/-- One change to a record, or the failure of the code that changes it. -/
inductive Edit where
  | setId (id : String)
  | setStatus (status : Status)
  | setContainerId (container : Option String)
  | setReason (reason : Option String)
  | setMessage (message : Option String)
  | terminate (reason message : String)
  | panic
  deriving DecidableEq, Repr

/-- A record after a series of changes, and whether they broke off. -/
structure Edited where
  task : Task
  panicked : Bool
  deriving DecidableEq

/-- The record after one change; a failure leaves no change. -/
def Edit.apply : Edit → Task → Task
  | setId id, task => { task with id := id }
  | setStatus status, task => { task with status := status }
  | setContainerId container, task => { task with containerId := container }
  | setReason reason, task => { task with reason := reason }
  | setMessage message, task => { task with message := message }
  | terminate reason message, task => task.terminate reason message
  | panic, task => task

/-- The record after the changes up to the first failure. -/
def Task.edit (task : Task) : List Edit → Edited
  | [] => { task := task, panicked := false }
  | Edit.panic :: _ => { task := task, panicked := true }
  | change :: rest => (change.apply task).edit rest

end Workloads
