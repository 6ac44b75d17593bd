import Workloads.Docker.Client
import Workloads.Event
import Workloads.Worker.Call

/-!
# The container engine

How calls to the container runtime are carried out by a daemon.  Running a
task is a pipeline of three stages: pull the image, create the container,
start it; a stage is entered only when the one before it has fully succeeded.
-/

namespace Workloads.Docker

variable {State : Type}

/-- What came of talking to a daemon. -/
structure Exchange (State Value : Type) where
  requests : List Request
  events : List Event
  outcome : Except RuntimeFailure Value
  daemon : State

/-- Goes on after a success; a failure ends the exchange. -/
def Exchange.andThen {Value Other : Type} (exchange : Exchange State Value)
    (next : Value → State → Exchange State Other) :
    Exchange State Other :=
  match exchange.outcome with
  | .error failure =>
    { exchange with outcome := .error failure }
  | .ok value =>
    let later := next value exchange.daemon
    { requests := exchange.requests ++ later.requests
      events := exchange.events ++ later.events
      outcome := later.outcome
      daemon := later.daemon }

/-! ## Stages -/

/-- The events of a pull and its first error. -/
def followPull (image : String) :
    List PullItem → List Event × Except String Unit
  | [] => ([], .ok ())
  | .failed reason :: _ => ([], .error reason)
  | .progress status :: rest =>
    let (events, outcome) := followPull image rest
    match status with
    | none => (events, outcome)
    | some status => (.pullProgress image status :: events, outcome)

variable [Client State]

/-- Pulls an image. -/
def pull (image : String) (daemon : State) : Exchange State Unit :=
  let (items, daemon) := Client.ask (.pull image) daemon
  let (progress, outcome) := followPull image items
  match outcome with
  | .ok _ =>
    { requests := [.pull image]
      events := .pulling image :: (progress ++ [.pulled image])
      outcome := .ok ()
      daemon }
  | .error reason =>
    { requests := [.pull image]
      events := .pulling image :: progress
      outcome := .error (.pullImage image reason)
      daemon }

/-- Creates a container under a name. -/
def create (name : String) (blueprint : Blueprint) (daemon : State) :
    Exchange State String :=
  let (created, daemon) := Client.ask (.create name blueprint) daemon
  match created with
  | .ok container =>
    { requests := [.create name blueprint]
      events := [.created name container]
      outcome := .ok container
      daemon }
  | .error reason =>
    { requests := [.create name blueprint]
      events := []
      outcome := .error (.createContainer name reason)
      daemon }

/-- Starts a container of a name. -/
def start (name container : String) (daemon : State) :
    Exchange State String :=
  let (started, daemon) := Client.ask (.start container) daemon
  match started with
  | .ok _ =>
    { requests := [.start container]
      events := [.started name container]
      outcome := .ok container
      daemon }
  | .error reason =>
    { requests := [.start container]
      events := []
      outcome := .error (.startContainer container reason)
      daemon }

/-! ## Calls -/

/-- Runs a task's container. -/
def run (task : Task) (daemon : State) : Exchange State String :=
  (pull task.spec.image daemon).andThen fun _ daemon =>
    (create task.containerName (.ofTask task) daemon).andThen
      fun container daemon => start task.containerName container daemon

/-- Stops a container. -/
def stop (container : String) (seconds : Nat) (daemon : State) :
    Exchange State Unit :=
  let request := Request.stop container (grace seconds)
  let (stopped, daemon) := Client.ask request daemon
  { requests := [request]
    events := [.stopping container seconds]
    outcome := stopped.mapError (.stopContainer container)
    daemon }

/-- Removes a container. -/
def remove (container : String) (daemon : State) : Exchange State Unit :=
  let request := Request.remove container
  let (removed, daemon) := Client.ask request daemon
  { requests := [request]
    events := [.removing container]
    outcome := removed.mapError (.removeContainer container)
    daemon }

/-- Carries out a call to the container runtime. -/
def perform (daemon : State) :
    (call : RuntimeCall) → Exchange State call.Value
  | .run task => run task daemon
  | .stop container seconds => stop container seconds daemon
  | .remove container => remove container daemon

end Workloads.Docker
