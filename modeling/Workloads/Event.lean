import Workloads.Failure
import Workloads.Task.Status

/-!
# Log events

Everything that is worth a line in the log, as a value.  An event knows its
level, its wording and its fields; whether a line is written is decided by
whoever collects the events.
-/

namespace Workloads

/-- How important an event is. -/
inductive Level where
  | trace
  | debug
  | info
  | warn
  | error
  deriving DecidableEq, Repr

/-- The word for a level in a log line. -/
def Level.word : Level → String
  | trace => "TRACE"
  | debug => "DEBUG"
  | info => "INFO"
  | warn => "WARN"
  | error => "ERROR"

/-- Importance as a number. -/
def Level.weight : Level → Nat
  | trace => 0
  | debug => 1
  | info => 2
  | warn => 3
  | error => 4

/-- The value of a field of an event; a log line shows a text as it is or in
quotes. -/
inductive FieldValue where
  | text (value : String)
  | quoted (value : String)
  | number (value : Nat)
  deriving DecidableEq, Repr

/-- What happened. -/
inductive Event where
  | keyTaken (id : String)
  | keyMissing (id : String)
  | submitted (id containerName : String)
  | launchFailed (id error : String)
  | outOfOrder (id : String) (source target : Status)
  | removedWhileLaunching (id container : String)
  | terminatedWhileLaunching (id container : String)
  | running (id container : String)
  | alreadyTerminated (id : String)
  | terminated (id : String)
  | removed (id : String)
  | backgroundLaunchFailed (id error : String)
  | summaryRequested (id : String)
  | pulling (image : String)
  | pullProgress (image status : String)
  | pulled (image : String)
  | created (containerName container : String)
  | started (containerName container : String)
  | stopping (container : String) (seconds : Nat)
  | removing (container : String)
  | starting (version : String)
  | listening (address : String)
  deriving DecidableEq, Repr

namespace Event

/-- The level of an event. -/
def level : Event → Level
  | keyTaken _ | keyMissing _ => .trace
  | alreadyTerminated _ | backgroundLaunchFailed _ _
  | summaryRequested _ | pullProgress _ _ => .debug
  | outOfOrder _ _ _ | removedWhileLaunching _ _ => .warn
  | launchFailed _ _ => .error
  | _ => .info

/-- The wording of an event. -/
def wording : Event → String
  | keyTaken _ => "task already exists"
  | keyMissing _ => "task does not exist"
  | submitted _ _ => "task submitted"
  | launchFailed _ _ => "failed to launch task"
  | outOfOrder _ _ _ => "out-of-order status transition"
  | removedWhileLaunching _ _ =>
    "task removed while launching, dropping container"
  | terminatedWhileLaunching _ _ =>
    "task terminated while launching, stopping container"
  | running _ _ => "task running"
  | alreadyTerminated _ => "task already terminated"
  | terminated _ => "task terminated"
  | removed _ => "task removed"
  | backgroundLaunchFailed _ _ => "background launch finished with error"
  | summaryRequested _ => "task info requested"
  | pulling _ => "pulling image"
  | pullProgress _ _ => "pull progress"
  | pulled _ => "image pulled"
  | created _ _ => "container created"
  | started _ _ => "container started"
  | stopping _ _ => "stopping container"
  | removing _ => "removing container"
  | starting _ => "starting task shim"
  | listening _ => "task server listening"

/-- A status as a log line names it. -/
def statusName : Status → String
  | .pending => "Pending"
  | .running => "Running"
  | .terminated => "Terminated"

/-- The fields of an event by name. -/
def fields : Event → List (String × FieldValue)
  | keyTaken id | keyMissing id | alreadyTerminated id
  | terminated id | removed id | summaryRequested id =>
    [("task_id", .text id)]
  | submitted id containerName =>
    [("task_id", .text id), ("container_name", .quoted containerName)]
  | launchFailed id error | backgroundLaunchFailed id error =>
    [("task_id", .text id), ("error", .text error)]
  | outOfOrder id source target =>
    [("task_id", .text id), ("from", .text (statusName source)),
      ("to", .text (statusName target))]
  | removedWhileLaunching id container
  | terminatedWhileLaunching id container | running id container =>
    [("task_id", .text id), ("container_id", .text container)]
  | pulling image | pulled image => [("image", .quoted image)]
  | pullProgress image status =>
    [("image", .quoted image), ("status", .text status)]
  | created containerName container | started containerName container =>
    [("container_name", .quoted containerName),
      ("container_id", .text container)]
  | stopping container seconds =>
    [("container_id", .quoted container), ("timeout_secs", .number seconds)]
  | removing container => [("container_id", .quoted container)]
  | starting version => [("version", .quoted version)]
  | listening address => [("address", .text address)]

end Event

end Workloads
