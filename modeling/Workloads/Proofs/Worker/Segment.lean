import Workloads.Proofs.Registry
import Workloads.Worker.Operation

/-!
# What a segment does

A segment of an operation is set going by the operation's beginning or by the
answer to its call.  What it does is listed here once, case by case, with what
it has found in the registry.  Later modules argue by these cases and never
look into the segments again; where only the registry matters, they argue by
the fewer cases of what a segment writes.
-/

namespace Workloads

/-- What sets a segment going. -/
inductive Cause where
  | begun (operation : Operation)
  | answered (suspension : Suspension) (reply : suspension.call.Reply)

/-- The segment that a cause sets going. -/
def Cause.segment
    (seconds : Nat) (registry : Registry) : Cause → Segment
  | begun operation => operation.start seconds registry
  | answered suspension reply =>
      suspension.resume seconds registry reply

/-- The call that an operation waits for after a segment. -/
def Next.suspension? : Next → Option Suspension
  | finished _ => none
  | waiting suspension => some suspension

/-- The outcome of an operation that ends with a segment. -/
def Next.result? : Next → Option Result
  | finished result => some result
  | waiting _ => none

@[simp]
theorem Next.suspension?_eq_some
    {next : Next} {suspension : Suspension} :
    next.suspension? = some suspension ↔ next = .waiting suspension := by
  cases next <;> simp [suspension?]

@[simp]
theorem Next.result?_eq_some {next : Next} {result : Result} :
    next.result? = some result ↔ next = .finished result := by
  cases next <;> simp [result?]

/-! ## The shared ends of segments -/

section

variable {registry : Registry} {id container : String} {task : Task}
  {request : StopRequest} {seconds : Nat}

theorem endTask_of_absent
    (absent : registry.find? id = none) (seen : Option String) :
    endTask registry id request seen seconds =
      .fail registry (.notFound id) := by
  simp [endTask, Registry.modify_of_absent absent]

theorem endTask_of_bare
    (found : registry.find? id = some task)
    (bare : task.containerId = none) (seen : Option String) :
    endTask registry id request seen seconds =
      .succeed (registry.insert id (request.settle task))
        (.task (request.settle task)) [.terminated task.id] := by
  simp [endTask, Registry.modify_of_present found, StopRequest.settle, bare]

theorem endTask_of_seen
    (found : registry.find? id = some task)
    (held : task.containerId = some container) :
    endTask registry id request (some container) seconds =
      .succeed (registry.insert id (request.settle task))
        (.task (request.settle task)) [.terminated task.id] := by
  simp [endTask, Registry.modify_of_present found, StopRequest.settle, held]

theorem endTask_of_other
    (found : registry.find? id = some task)
    (held : task.containerId = some container)
    {seen : Option String} (other : seen ≠ some container) :
    endTask registry id request seen seconds =
      .await (registry.insert id (request.settle task))
        (.stoppingLate (request.settle task) container seconds) := by
  simp [endTask, Registry.modify_of_present found, StopRequest.settle,
    held, other]

theorem recordStart_of_absent (absent : registry.find? id = none) :
    recordStart registry id container seconds =
      .await registry (.dropping id container)
        [.removedWhileLaunching id container] := by
  simp [recordStart, Registry.modify_of_absent absent]

theorem recordStart_of_ended
    (found : registry.find? id = some task)
    (ended : task.status = .terminated) :
    recordStart registry id container seconds =
      .await (registry.insert id (task.started container))
        (.quelling (task.started container) container seconds)
        [.terminatedWhileLaunching task.id container] := by
  simp [recordStart, Registry.modify_of_present found,
    Task.started_of_ended ended, ended]

/-- A launch never warns: a task that has not ended may become running. -/
theorem recordStart_of_live
    (found : registry.find? id = some task)
    (live : task.status ≠ .terminated) :
    recordStart registry id container seconds =
      .succeed (registry.insert id (task.started container))
        (.task (task.started container)) [.running task.id container] := by
  have quiet : startWarnings (registry.find? id) = [] := by
    simp [startWarnings, found, Status.mayBecome_running]
  simp [recordStart, Registry.modify_of_present found, quiet,
    Task.started_of_live live]

theorem recordFailure_of_absent
    (absent : registry.find? id = none) (seen : Task)
    (failure : RuntimeFailure) :
    recordFailure registry id seen failure =
      .fail registry (.notFound id)
        [.launchFailed seen.id failure.text] := by
  simp [recordFailure, Registry.modify_of_absent absent]

theorem recordFailure_of_present
    (found : registry.find? id = some task) (seen : Task)
    (failure : RuntimeFailure) :
    recordFailure registry id seen failure =
      .fail
        (registry.insert id (task.settle launchFailureReason failure.text))
        (.runtime failure) [.launchFailed seen.id failure.text] := by
  simp [recordFailure, Registry.modify_of_present found]

end

/-! ## The cases of a segment -/

/-- The id that an operation on one registered task is about. -/
def Operation.target? : Operation → Option String
  | get id | launch id | terminate id _ | remove id => some id
  | submit _ | list => none

namespace Cause

/-- Where a cause leads, case by case of what its segment finds. -/
inductive Leads (seconds : Nat) (registry : Registry) :
    Cause → Segment → Prop where
  | submitted {spec : LaunchSpec}
      (absent : registry.find? spec.id = none) :
      Leads seconds registry (.begun (.submit spec))
        (.succeed (registry.insert spec.id (Task.ofSpec spec))
          (.task (Task.ofSpec spec))
          [.submitted spec.id (Task.ofSpec spec).containerName])
  | taken {spec : LaunchSpec} {task : Task}
      (found : registry.find? spec.id = some task) :
      Leads seconds registry (.begun (.submit spec))
        (.fail registry (.alreadyExists spec.id) [.keyTaken spec.id])
  | unknown {operation : Operation} {id : String}
      (target : operation.target? = some id)
      (absent : registry.find? id = none) :
      Leads seconds registry (.begun operation)
        (.fail registry (.notFound id))
  | listed :
      Leads seconds registry (.begun .list)
        (.succeed registry (.ids registry.ids))
  | got {id : String} {task : Task}
      (found : registry.find? id = some task) :
      Leads seconds registry (.begun (.get id))
        (.succeed registry (.task task))
  | launching {id : String} {task : Task}
      (found : registry.find? id = some task) :
      Leads seconds registry (.begun (.launch id))
        (.await registry (.running id task))
  | endedBefore {id : String} {request : StopRequest} {task : Task}
      (found : registry.find? id = some task)
      (ended : task.status = .terminated) :
      Leads seconds registry (.begun (.terminate id request))
        (.succeed registry (.task task) [.alreadyTerminated task.id])
  | endedBare {id : String} {request : StopRequest} {task : Task}
      (found : registry.find? id = some task)
      (live : task.status ≠ .terminated)
      (bare : task.containerId = none) :
      Leads seconds registry (.begun (.terminate id request))
        (.succeed (registry.insert id (request.settle task))
          (.task (request.settle task)) [.terminated task.id])
  | stopping {id container : String} {request : StopRequest} {task : Task}
      (found : registry.find? id = some task)
      (live : task.status ≠ .terminated)
      (held : task.containerId = some container) :
      Leads seconds registry (.begun (.terminate id request))
        (.await registry
          (.stopping id request container (request.seconds seconds)))
  | removedBare {id : String} {task : Task}
      (found : registry.find? id = some task)
      (ended : task.status = .terminated)
      (bare : task.containerId = none) :
      Leads seconds registry (.begun (.remove id))
        (.succeed (registry.delete task.id) .removed [.removed task.id])
  | removing {id container : String} {task : Task}
      (found : registry.find? id = some task)
      (ended : task.status = .terminated)
      (held : task.containerId = some container) :
      Leads seconds registry (.begun (.remove id))
        (.await registry (.removing task container))
  | refused {id : String} {task : Task}
      (found : registry.find? id = some task)
      (live : task.status ≠ .terminated) :
      Leads seconds registry (.begun (.remove id))
        (.fail registry (.notTerminated task.id))
  | recorded {id container : String} {seen task : Task}
      (found : registry.find? id = some task)
      (live : task.status ≠ .terminated) :
      Leads seconds registry (.answered (.running id seen) (.ok container))
        (.succeed (registry.insert id (task.started container))
          (.task (task.started container)) [.running task.id container])
  | quelling {id container : String} {seen task : Task}
      (found : registry.find? id = some task)
      (ended : task.status = .terminated) :
      Leads seconds registry (.answered (.running id seen) (.ok container))
        (.await (registry.insert id (task.started container))
          (.quelling (task.started container) container seconds)
          [.terminatedWhileLaunching task.id container])
  | dropping {id container : String} {seen : Task}
      (absent : registry.find? id = none) :
      Leads seconds registry (.answered (.running id seen) (.ok container))
        (.await registry (.dropping id container)
          [.removedWhileLaunching id container])
  | failed {id : String} {seen task : Task} {failure : RuntimeFailure}
      (found : registry.find? id = some task) :
      Leads seconds registry
        (.answered (.running id seen) (.error failure))
        (.fail
          (registry.insert id
            (task.settle launchFailureReason failure.text))
          (.runtime failure) [.launchFailed seen.id failure.text])
  | failedUnknown {id : String} {seen : Task} {failure : RuntimeFailure}
      (absent : registry.find? id = none) :
      Leads seconds registry
        (.answered (.running id seen) (.error failure))
        (.fail registry (.notFound id)
          [.launchFailed seen.id failure.text])
  | stoppedUnknown {id seen : String} {request : StopRequest}
      {limit : Nat} {reply : Unit}
      (absent : registry.find? id = none) :
      Leads seconds registry
        (.answered (.stopping id request seen limit) (.ok reply))
        (.fail registry (.notFound id))
  | stopped {id seen : String} {request : StopRequest} {limit : Nat}
      {reply : Unit} {task : Task}
      (found : registry.find? id = some task)
      (accounted :
        ∀ container, task.containerId = some container → container = seen) :
      Leads seconds registry
        (.answered (.stopping id request seen limit) (.ok reply))
        (.succeed (registry.insert id (request.settle task))
          (.task (request.settle task)) [.terminated task.id])
  | stoppingLate {id seen container : String} {request : StopRequest}
      {limit : Nat} {reply : Unit} {task : Task}
      (found : registry.find? id = some task)
      (held : task.containerId = some container)
      (other : container ≠ seen) :
      Leads seconds registry
        (.answered (.stopping id request seen limit) (.ok reply))
        (.await (registry.insert id (request.settle task))
          (.stoppingLate (request.settle task) container limit))
  | stoppedLate {task : Task} {container : String} {limit : Nat}
      {reply : Unit} :
      Leads seconds registry
        (.answered (.stoppingLate task container limit) (.ok reply))
        (.succeed registry (.task task) [.terminated task.id])
  | quelled {task : Task} {container : String} {limit : Nat}
      {reply : Unit} :
      Leads seconds registry
        (.answered (.quelling task container limit) (.ok reply))
        (.succeed registry (.task task))
  | dropped {id container : String} {reply : Unit} :
      Leads seconds registry
        (.answered (.dropping id container) (.ok reply))
        (.fail registry (.notFound id))
  | removed {task : Task} {container : String} {reply : Unit} :
      Leads seconds registry
        (.answered (.removing task container) (.ok reply))
        (.succeed (registry.delete task.id) .removed [.removed task.id])
  | broken {suspension : Suspension} {failure : RuntimeFailure}
      (later : ∀ id task, suspension ≠ .running id task) :
      Leads seconds registry (.answered suspension (.error failure))
        (.fail registry (.runtime failure))

variable {seconds : Nat} {registry : Registry}

theorem begun_leads (operation : Operation) :
    Leads seconds registry (.begun operation)
      (operation.start seconds registry) := by
  cases operation with
  | submit spec =>
      cases found : registry.find? spec.id with
      | none =>
          have added :
              registry.add (Task.ofSpec spec) =
                (true, registry.insert spec.id (Task.ofSpec spec)) :=
            Registry.add_of_absent found
          simp only [Operation.start, added]
          exact .submitted found
      | some task =>
          have refused :
              registry.add (Task.ofSpec spec) = (false, registry) :=
            Registry.add_of_present found
          simp only [Operation.start, refused]
          exact .taken found
  | list => exact .listed
  | get id =>
      cases found : registry.find? id with
      | none => simpa [Operation.start, found] using Leads.unknown rfl found
      | some task => simpa [Operation.start, found] using Leads.got found
  | launch id =>
      cases found : registry.find? id with
      | none => simpa [Operation.start, found] using Leads.unknown rfl found
      | some task =>
          simpa [Operation.start, found] using Leads.launching found
  | terminate id request =>
      cases found : registry.find? id with
      | none => simpa [Operation.start, found] using Leads.unknown rfl found
      | some task =>
          by_cases ended : task.status = .terminated
          · simpa [Operation.start, found, ended] using
              Leads.endedBefore found ended
          · cases held : task.containerId with
            | none =>
                simpa [Operation.start, found, ended, held,
                  endTask_of_bare found held] using
                    Leads.endedBare found ended held
            | some container =>
                simpa [Operation.start, found, ended, held] using
                  Leads.stopping found ended held
  | remove id =>
      cases found : registry.find? id with
      | none => simpa [Operation.start, found] using Leads.unknown rfl found
      | some task =>
          by_cases ended : task.status = .terminated
          · cases held : task.containerId with
            | none =>
                simpa [Operation.start, found, ended, held] using
                  Leads.removedBare found ended held
            | some container =>
                simpa [Operation.start, found, ended, held] using
                  Leads.removing found ended held
          · simpa [Operation.start, found, ended] using
              Leads.refused found ended

/-- A launch goes on after its run. -/
theorem run_answered_leads
    (id : String) (seen : Task) (reply : Except RuntimeFailure String) :
    Leads seconds registry (.answered (.running id seen) reply)
      (Suspension.resume seconds registry (.running id seen) reply) := by
  cases found : registry.find? id with
  | none =>
      cases reply with
      | ok container =>
          simpa [Suspension.resume, recordStart_of_absent found] using
            Leads.dropping found
      | error failure =>
          simpa [Suspension.resume, recordFailure_of_absent found] using
            Leads.failedUnknown found
  | some task =>
      cases reply with
      | ok container =>
          by_cases ended : task.status = .terminated
          · simpa [Suspension.resume, recordStart_of_ended found ended] using
              Leads.quelling found ended
          · simpa [Suspension.resume, recordStart_of_live found ended] using
              Leads.recorded found ended
      | error failure =>
          simpa [Suspension.resume, recordFailure_of_present found] using
            Leads.failed found

/-- A termination goes on after its first stop. -/
theorem stop_answered_leads
    (id seen : String) (request : StopRequest) (limit : Nat)
    (reply : Unit) :
    Leads seconds registry
      (.answered (.stopping id request seen limit) (.ok reply))
      (endTask registry id request (some seen) limit) := by
  cases found : registry.find? id with
  | none =>
      simpa [endTask_of_absent found] using Leads.stoppedUnknown found
  | some task =>
      cases held : task.containerId with
      | none =>
          rw [endTask_of_bare found held]
          exact .stopped found (by simp [held])
      | some container =>
          by_cases same : container = seen
          · subst container
            rw [endTask_of_seen found held]
            exact .stopped found (by simp [held])
          · rw [endTask_of_other found held (by simpa using Ne.symm same)]
            exact .stoppingLate found held same

/-- These are all the cases. -/
theorem leads_segment
    (seconds : Nat) (registry : Registry) (cause : Cause) :
    Leads seconds registry cause (cause.segment seconds registry) := by
  rcases cause with operation | ⟨suspension, reply⟩
  · exact begun_leads operation
  · cases suspension with
    | running id seen => exact run_answered_leads id seen reply
    | stopping id request seen limit =>
        cases reply with
        | ok reply => exact stop_answered_leads id seen request limit reply
        | error failure => exact .broken (by simp)
    | dropping id container =>
        cases reply with
        | ok reply => exact .dropped
        | error failure => exact .broken (by simp)
    | quelling task container limit =>
        cases reply with
        | ok reply => exact .quelled
        | error failure => exact .broken (by simp)
    | stoppingLate task container limit =>
        cases reply with
        | ok reply => exact .stoppedLate
        | error failure => exact .broken (by simp)
    | removing task container =>
        cases reply with
        | ok reply => exact .removed
        | error failure => exact .broken (by simp)

/-! ## Writing -/

/-- What a segment can write, with what it has found. -/
inductive Writes (registry : Registry) : Cause → Segment → Prop where
  | nothing {cause : Cause} {segment : Segment}
      (same : segment.registry = registry) :
      Writes registry cause segment
  /-- A submission enters its task. -/
  | entered {spec : LaunchSpec} {segment : Segment}
      (absent : registry.find? spec.id = none)
      (stored :
        segment.registry = registry.insert spec.id (Task.ofSpec spec)) :
      Writes registry (.begun (.submit spec)) segment
  /-- A termination ends a task without a container. -/
  | ended {id : String} {request : StopRequest} {task : Task}
      {segment : Segment}
      (found : registry.find? id = some task)
      (bare : task.containerId = none)
      (stored :
        segment.registry = registry.insert id (request.settle task)) :
      Writes registry (.begun (.terminate id request)) segment
  /-- A termination goes on after its stop; a container other than the one it
  has stopped is stopped as well. -/
  | stopped {id seen : String} {request : StopRequest} {limit : Nat}
      {reply : Unit} {task : Task} {segment : Segment}
      (found : registry.find? id = some task)
      (stored :
        segment.registry = registry.insert id (request.settle task))
      (late :
        ∀ container, task.containerId = some container →
          container ≠ seen →
            segment.next =
              .waiting
                (.stoppingLate (request.settle task) container limit)) :
      Writes registry
        (.answered (.stopping id request seen limit) (.ok reply)) segment
  /-- A launch records its container; it stops the container of a task that
  has ended meanwhile. -/
  | recorded {id container : String} {seen task : Task}
      {segment : Segment}
      (found : registry.find? id = some task)
      (stored :
        segment.registry = registry.insert id (task.started container))
      (quelled :
        task.status = .terminated →
          ∃ limit,
            segment.next =
              .waiting
                (.quelling (task.started container) container limit)) :
      Writes registry
        (.answered (.running id seen) (.ok container)) segment
  /-- A launch whose container did not start ends its task. -/
  | failed {id : String} {seen task : Task} {failure : RuntimeFailure}
      {segment : Segment}
      (found : registry.find? id = some task)
      (stored :
        segment.registry =
          registry.insert id
            (task.settle launchFailureReason failure.text)) :
      Writes registry
        (.answered (.running id seen) (.error failure)) segment
  /-- A removal forgets an ended task without a container. -/
  | removedBare {id : String} {task : Task} {segment : Segment}
      (found : registry.find? id = some task)
      (ended : task.status = .terminated)
      (bare : task.containerId = none)
      (stored : segment.registry = registry.delete task.id) :
      Writes registry (.begun (.remove id)) segment
  /-- A removal forgets the task whose container it has removed. -/
  | removed {task : Task} {container : String} {reply : Unit}
      {segment : Segment}
      (stored : segment.registry = registry.delete task.id) :
      Writes registry
        (.answered (.removing task container) (.ok reply)) segment

theorem Leads.writes {cause : Cause} {segment : Segment}
    (leads : Leads seconds registry cause segment) :
    Writes registry cause segment := by
  cases leads with
  | submitted absent => exact .entered absent rfl
  | endedBare found live bare => exact .ended found bare rfl
  | removedBare found ended bare => exact .removedBare found ended bare rfl
  | removed => exact .removed rfl
  | recorded found live =>
      exact .recorded found rfl (fun ended => absurd ended live)
  | quelling found ended => exact .recorded found rfl (fun _ => ⟨_, rfl⟩)
  | failed found => exact .failed found rfl
  | stopped found accounted =>
      exact .stopped found rfl
        (fun container held other =>
          absurd (accounted container held) other)
  | stoppingLate found held other =>
      refine .stopped found rfl ?_
      intro container held' other'
      rw [held] at held'
      cases held'
      rfl
  | _ => exact .nothing rfl

end Cause

end Workloads
