import Workloads.Docker.Daemon
import Workloads.Docker.Engine
import Workloads.Http.Endpoint
import Workloads.Registry.Guarded
import Workloads.Rehearsal.Plan

/-!
# Rehearsals

A host on which operations, requests and registry actions are carried out one
step after another, against a container runtime that is planned or backed by a
daemon.  An operation whose call is held back at a gate waits; the registry is
free meanwhile, and the operation goes on when its gate is opened.  Within a
step everything runs until nothing can proceed: what a gate held back goes on
in the order in which it began, wherever else it waited since, and launches in
the background come last.
-/

namespace Workloads.Rehearsal

/-- The container runtime of a rehearsal. -/
inductive Backend where
  | planned (plans : RuntimePlan)
  | driven (daemon : Docker.Daemon)

/-- A call as it is seen from outside. -/
inductive Sighting where
  | call (call : RuntimeCall)
  | request (request : Docker.Request)

/-- A call that is made. -/
structure Placed (call : RuntimeCall) where
  backend : Backend
  gate : Option String := none
  reply : call.Reply
  sightings : List Sighting
  events : List Event := []

/-- Makes a call. -/
def Backend.place (backend : Backend) (call : RuntimeCall) : Placed call :=
  match backend with
  | .planned plans =>
    let (plan, rest) := plans.take call
    { backend := .planned rest
      gate := plan.gate
      reply := plan.reply call
      sightings := [.call call] }
  | .driven daemon =>
    let exchange := Docker.perform daemon call
    { backend := .driven exchange.daemon
      reply := exchange.outcome
      sightings := exchange.requests.map .request
      events := exchange.events }

/-- Who waits for the result of an operation. -/
inductive Owner where
  /-- A step that shows the result itself. -/
  | step (number : Nat)
  /-- A step that answers a request. -/
  | request (number : Nat) (request : Http.Request)
      (endpoint : Http.Endpoint)
  /-- Nobody: the operation is a launch in the background that a step
  left. -/
  | background (number : Nat) (id : String)

/-- The number of the step that waits. -/
def Owner.number? : Owner → Option Nat
  | step number => some number
  | request number _ _ => some number
  | background _ _ => none

/-- The number of the step in which the operation began. -/
def Owner.turn : Owner → Nat
  | step number | request number _ _ | background number _ => number

/-- An operation held back at a gate, with the answer to its call. -/
structure Waiting where
  gate : String
  owner : Owner
  suspension : Suspension
  reply : suspension.call.Reply

/-- Puts an operation among others that wait, behind all that began before
it. -/
def Waiting.queue (entry : Waiting) : List Waiting → List Waiting
  | [] => [entry]
  | first :: rest =>
    if first.owner.turn ≤ entry.owner.turn then
      first :: entry.queue rest
    else
      entry :: first :: rest

/-- What a step shows. -/
inductive Shown where
  | result (result : Result)
  | registry (reply : Registry.Reply)
  | counted (number : Nat) (isEmpty : Bool)
  | response (response : Http.Response)
  | released

/-- What happened since the step began. -/
structure Journal where
  shown : List (Nat × Shown) := []
  sightings : List Sighting := []
  events : List Event := []
  launches : List (Nat × String) := []

/-- The host of a rehearsal. -/
structure Host where
  registry : Registry.Guarded := {}
  backend : Backend
  stopTimeout : Nat := 10
  openGates : List String := []
  waiting : List Waiting := []
  journal : Journal := {}

namespace Host

/-! ## Running operations -/

/-- Adds events to the journal. -/
def report (host : Host) (events : List Event) : Host :=
  { host with
    journal := { host.journal with events := host.journal.events ++ events } }

/-- Shows what a step came to. -/
def display (host : Host) (number : Nat) (shown : Shown) : Host :=
  { host with
    journal :=
      { host.journal with shown := host.journal.shown ++ [(number, shown)] } }

/-- Hands the result of an operation to whoever waits for it. -/
def conclude (host : Host) (result : Result) : Owner → Host
  | .step number => host.display number (.result result)
  | .request number request endpoint =>
    let host :=
      host.display number
        (.response (request.deliver (Http.respond result)))
    match endpoint.followUp result with
    | none => host
    | some id =>
      { host with
        journal :=
          { host.journal with
            launches := host.journal.launches ++ [(number, id)] } }
  | .background _ id =>
    match result with
    | .ok _ => host
    | .error error =>
      host.report [.backgroundLaunchFailed id error.text]

/-- Takes over what a segment leaves behind. -/
def absorb (host : Host) (segment : Segment) : Host :=
  { host.report segment.events with
    registry := { host.registry with tasks := segment.registry } }

/-- Makes the call of a suspended operation. -/
def place (host : Host) {call : RuntimeCall} (placed : Placed call) : Host :=
  { host with
    backend := placed.backend
    journal :=
      { host.journal with
        sightings := host.journal.sightings ++ placed.sightings
        events := host.journal.events ++ placed.events } }

/-- Whether a gate still holds calls back. -/
def holds (host : Host) (gate : Option String) : Option String :=
  gate.filter (fun name => !host.openGates.contains name)

/-- Goes on from a segment until the operation finishes or waits. -/
def proceed (host : Host) (owner : Owner) (segment : Segment) : Host :=
  let host := host.absorb segment
  match _next : segment.next with
  | .finished result => host.conclude result owner
  | .waiting suspension =>
    let placed := host.backend.place suspension.call
    let host := host.place placed
    match host.holds placed.gate with
    | some gate =>
      let entry : Waiting :=
        { gate, owner, suspension, reply := placed.reply }
      { host with waiting := entry.queue host.waiting }
    | none =>
      host.proceed owner
        (suspension.resume host.stopTimeout host.registry.tasks placed.reply)
termination_by segment.next.depth
decreasing_by
  rw [_next]
  exact resume_depth_lt ..

/-- Starts an operation. -/
def begin (host : Host) (owner : Owner) (operation : Operation) : Host :=
  host.proceed owner
    (operation.start host.stopTimeout host.registry.tasks)

/-- Goes on with an operation whose gate was opened. -/
def awaken (host : Host) (entry : Waiting) : Host :=
  host.proceed entry.owner
    (entry.suspension.resume host.stopTimeout host.registry.tasks
      entry.reply)

/-- Runs the launches that requests have left for the background. -/
def runLaunches (host : Host) : Host :=
  let launches := host.journal.launches
  let host :=
    { host with journal := { host.journal with launches := [] } }
  launches.foldl
    (fun host (number, id) =>
      host.begin (.background number id) (.launch id)) host

/-! ## Steps -/

/-- Opens a gate for good and lets go on what waited there. -/
def release (host : Host) (gate : String) : Host :=
  let (awake, asleep) :=
    host.waiting.partition (fun entry => entry.gate = gate)
  awake.foldl awaken
    { host with
      openGates := gate :: host.openGates
      waiting := asleep }

/-- Answers a request. -/
def serve (host : Host) (number : Nat) (request : Http.Request) : Host :=
  match request.endpoint with
  | .error response =>
    host.display number (.response (request.deliver response))
  | .ok endpoint =>
    let host := host.report endpoint.announcements
    match endpoint.operation? with
    | none =>
      host.display number
        (.response (request.deliver Http.Endpoint.healthResponse))
    | some operation =>
      host.begin (.request number request endpoint) operation

/-- Carries out an action on the registry. -/
def act (host : Host) (action : Registry.Action) :
    Registry.Reply × Host :=
  let outcome := host.registry.perform action
  (outcome.reply,
    { host with registry := outcome.guarded }.report outcome.events)

end Host

/-- A step of a rehearsal. -/
inductive Step where
  | operation (operation : Operation)
  | registry (action : Registry.Action)
  | count
  | request (request : Http.Request)
  | release (gate : String)

namespace Host

/-- Carries out a step until nothing can proceed. -/
def perform (host : Host) (number : Nat) (step : Step) : Host :=
  let host := { host with journal := {} }
  let host :=
    match step with
    | .operation operation => host.begin (.step number) operation
    | .registry action =>
      let (reply, host) := host.act action
      host.display number (.registry reply)
    | .count =>
      let (size, host) := host.act .count
      let (blank, host) := host.act .isEmpty
      match size, blank with
      | .number size, .truth blank =>
        host.display number (.counted size blank)
      | other, _ => host.display number (.registry other)
    | .request request => host.serve number request
    | .release gate => (host.release gate).display number .released
  host.runLaunches

/-- The numbers of the steps that still wait, in increasing order. -/
def pending (host : Host) : List Nat :=
  (host.waiting.filterMap (fun entry => entry.owner.number?)).mergeSort
    (fun left right => left ≤ right)

end Host

/-- Carries out steps in order; answers the host after each of them. -/
def rehearse (host : Host) (number : Nat) : List Step → List Host
  | [] => []
  | step :: rest =>
    let host := host.perform number step
    host :: rehearse host (number + 1) rest

end Workloads.Rehearsal
