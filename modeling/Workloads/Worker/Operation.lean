import Workloads.Registry.Basic
import Workloads.Worker.Call

/-!
# Operations on tasks

The operations by which tasks live: submit, get, list, launch, terminate and
remove.  Each is cut at its runtime calls into segments.  A segment reads and
writes the registry without interruption, reports events, and either finishes
the operation or suspends it at its next call.  Whatever changed while an
operation was suspended is seen by its next segment, which looks at the stored
record again before it writes.
-/

namespace Workloads

/-- An operation as it is asked for. -/
inductive Operation where
  | submit (spec : LaunchSpec)
  | get (id : String)
  | list
  | launch (id : String)
  | terminate (id : String) (request : StopRequest)
  | remove (id : String)
  deriving DecidableEq

/-- What an operation answers when it succeeds. -/
inductive Answer where
  | task (task : Task)
  | ids (ids : List String)
  | removed
  deriving DecidableEq

/-- The outcome of an operation. -/
abbrev Result := Except TaskError Answer

/-- How a segment ends. -/
inductive Next where
  | finished (result : Result)
  | waiting (suspension : Suspension)

/-- One uninterrupted stretch of an operation. -/
structure Segment where
  registry : Registry
  events : List Event := []
  next : Next

/-- The reason recorded when a container could not be started. -/
def launchFailureReason : String :=
  "creating_container_error"

/-- The reason recorded when a termination gives none. -/
def defaultReason : String :=
  "terminated_by_user"

/-- The seconds a termination gives its container to stop. -/
def StopRequest.seconds (request : StopRequest) (defaultSeconds : Nat) : Nat :=
  request.timeout.getD defaultSeconds

/-- The record after a termination, unless it had ended before. -/
def StopRequest.settle (request : StopRequest) (task : Task) : Task :=
  task.settle (request.reason.getD defaultReason) (request.message.getD "")

namespace Segment

/-- Ends an operation with an answer. -/
def succeed (registry : Registry) (answer : Answer)
    (events : List Event := []) : Segment :=
  { registry, events, next := .finished (.ok answer) }

/-- Ends an operation with an error. -/
def fail (registry : Registry) (error : TaskError)
    (events : List Event := []) : Segment :=
  { registry, events, next := .finished (.error error) }

/-- Suspends an operation at a call. -/
def await (registry : Registry) (suspension : Suspension)
    (events : List Event := []) : Segment :=
  { registry, events, next := .waiting suspension }

end Segment

/-! ## Termination -/

/-- Ends the stored task; a container recorded since the first look is
stopped as well. -/
def endTask (registry : Registry) (id : String) (request : StopRequest)
    (seen : Option String) (seconds : Nat) : Segment :=
  match registry.modify id request.settle with
  | (none, registry) => .fail registry (.notFound id)
  | (some task, registry) =>
    match task.containerId with
    | none => .succeed registry (.task task) [.terminated task.id]
    | some container =>
      if seen = some container then
        .succeed registry (.task task) [.terminated task.id]
      else
        .await registry (.stoppingLate task container seconds)

/-! ## Launch -/

/-- The warning that a status would not move forward. -/
def startWarnings (stored : Option Task) : List Event :=
  match stored with
  | some task =>
    if task.status.isFinal || task.status.mayBecome .running then []
    else [.outOfOrder task.id task.status .running]
  | none => []

/-- Records the container that a launch started in the record as it is now. -/
def recordStart (registry : Registry) (id container : String)
    (defaultSeconds : Nat) : Segment :=
  let warnings := startWarnings (registry.find? id)
  match registry.modify id (fun stored => stored.started container) with
  | (none, registry) =>
    .await registry (.dropping id container)
      [.removedWhileLaunching id container]
  | (some task, registry) =>
    if task.status.isFinal then
      .await registry (.quelling task container defaultSeconds)
        [.terminatedWhileLaunching task.id container]
    else
      .succeed registry (.task task)
        (warnings ++ [.running task.id container])

/-- Ends the stored task after its container failed to start. -/
def recordFailure (registry : Registry) (id : String) (task : Task)
    (failure : RuntimeFailure) : Segment :=
  let report := Event.launchFailed task.id failure.text
  match registry.modify id
      (fun stored => stored.settle launchFailureReason failure.text) with
  | (none, registry) => .fail registry (.notFound id) [report]
  | (some _, registry) => .fail registry (.runtime failure) [report]

/-! ## Segments -/

/-- The first segment of an operation. -/
def Operation.start (defaultSeconds : Nat) (registry : Registry) :
    Operation → Segment
  | submit spec =>
    let task := Task.ofSpec spec
    match registry.add task with
    | (false, registry) =>
      .fail registry (.alreadyExists task.id) [.keyTaken task.id]
    | (true, registry) =>
      .succeed registry (.task task)
        [.submitted task.id task.containerName]
  | get id =>
    match registry.find? id with
    | none => .fail registry (.notFound id)
    | some task => .succeed registry (.task task)
  | list => .succeed registry (.ids registry.ids)
  | launch id =>
    match registry.find? id with
    | none => .fail registry (.notFound id)
    | some task => .await registry (.running id task)
  | terminate id request =>
    match registry.find? id with
    | none => .fail registry (.notFound id)
    | some task =>
      if task.status.isFinal then
        .succeed registry (.task task) [.alreadyTerminated task.id]
      else
        let seconds := request.seconds defaultSeconds
        match task.containerId with
        | none => endTask registry id request none seconds
        | some container =>
          .await registry (.stopping id request container seconds)
  | remove id =>
    match registry.find? id with
    | none => .fail registry (.notFound id)
    | some task =>
      if task.status.isFinal then
        match task.containerId with
        | none =>
          .succeed (registry.delete task.id) .removed [.removed task.id]
        | some container => .await registry (.removing task container)
      else
        .fail registry (.notTerminated task.id)

/-- The segment that follows the answer to a call. -/
def Suspension.resume (defaultSeconds : Nat) (registry : Registry) :
    (suspension : Suspension) → suspension.call.Reply → Segment
  | running id _, .ok container =>
    recordStart registry id container defaultSeconds
  | running id task, .error failure =>
    recordFailure registry id task failure
  | dropping id _, .ok _ => .fail registry (.notFound id)
  | dropping _ _, .error failure => .fail registry (.runtime failure)
  | quelling task _ _, .ok _ => .succeed registry (.task task)
  | quelling _ _ _, .error failure => .fail registry (.runtime failure)
  | stopping id request container seconds, .ok _ =>
    endTask registry id request (some container) seconds
  | stopping _ _ _ _, .error failure => .fail registry (.runtime failure)
  | stoppingLate task _ _, .ok _ =>
    .succeed registry (.task task) [.terminated task.id]
  | stoppingLate _ _ _, .error failure => .fail registry (.runtime failure)
  | removing task _, .ok _ =>
    .succeed (registry.delete task.id) .removed [.removed task.id]
  | removing _ _, .error failure => .fail registry (.runtime failure)

/-! ## Progress -/

/-- How many calls can follow the end of a segment. -/
def Next.depth : Next → Nat
  | finished _ => 0
  | waiting suspension => suspension.depth

theorem endTask_depth_le
    (registry : Registry) (id : String) (request : StopRequest)
    (seen : Option String) (seconds : Nat) :
    (endTask registry id request seen seconds).next.depth ≤ 1 := by
  unfold endTask
  repeat' split
  all_goals simp [Segment.fail, Segment.succeed, Segment.await,
    Next.depth, Suspension.depth]

theorem recordStart_depth_le
    (registry : Registry) (id container : String) (seconds : Nat) :
    (recordStart registry id container seconds).next.depth ≤ 1 := by
  unfold recordStart
  dsimp only
  repeat' split
  all_goals simp [Segment.succeed, Segment.await,
    Next.depth, Suspension.depth]

theorem recordFailure_depth
    (registry : Registry) (id : String) (task : Task)
    (failure : RuntimeFailure) :
    (recordFailure registry id task failure).next.depth = 0 := by
  unfold recordFailure
  dsimp only
  split <;> rfl

/-- Each answered call leaves fewer calls to make, so operations end. -/
theorem resume_depth_lt
    (defaultSeconds : Nat) (registry : Registry)
    (suspension : Suspension) (reply : suspension.call.Reply) :
    (suspension.resume defaultSeconds registry reply).next.depth <
      suspension.depth := by
  cases suspension <;> cases reply
  case running.ok id task container =>
    exact Nat.lt_succ_of_le (recordStart_depth_le ..)
  case running.error id task failure =>
    exact Nat.lt_of_le_of_lt
      (Nat.le_of_eq (recordFailure_depth ..)) (Nat.zero_lt_succ _)
  case stopping.ok id request container seconds done =>
    exact Nat.lt_succ_of_le (endTask_depth_le ..)
  all_goals exact Nat.zero_lt_succ _

end Workloads
