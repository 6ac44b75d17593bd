import Workloads.Json.Writer
import Workloads.Task.Basic

/-!
# Container blueprints

What the daemon is told about a container: image, command, environment and
ports.  A blueprint depends on the launch specification alone, and within it
neither on the order of environment entries nor on order or repetition of
ports.  An empty command leaves the image's own command in force.
-/

namespace Workloads.Docker

/-- An environment entry as one assignment. -/
def assignment (entry : String × String) : String :=
  entry.1 ++ "=" ++ entry.2

/-- Environment entries as assignments in increasing order. -/
def assignments (entries : List (String × String)) : List String :=
  (entries.map assignment).mergeSort (fun left right => left ≤ right)

/-- The name under which a port is exposed. -/
def portName (port : UInt16) : String :=
  toString port.toNat ++ "/tcp"

/-- What the daemon is told about a container. -/
structure Blueprint where
  image : String
  command : Option (List String)
  environment : List String
  exposedPorts : KeyMap Unit
  publishAllPorts : Bool
  deriving DecidableEq

namespace Blueprint

/-- The blueprint of a launch specification, with its environment in the
given order. -/
def inOrder (spec : LaunchSpec) (environment : List (String × String)) :
    Blueprint where
  image := spec.image
  command := if spec.command.isEmpty then none else some spec.command
  environment := assignments environment
  exposedPorts :=
    KeyMap.ofList (spec.ports.map (fun port => (portName port, ())))
  publishAllPorts := !spec.ports.isEmpty

/-- The blueprint of a task. -/
def ofTask (task : Task) : Blueprint :=
  inOrder task.spec task.spec.environment.entries

/-- A written truth value. -/
def writeTruth (value : Bool) : Bytes :=
  if value then 116 :: Json.restOfTrue else 102 :: Json.restOfFalse

/-- The members of a written blueprint. -/
def members (blueprint : Blueprint) : List (String × Bytes) :=
  (match blueprint.command with
    | none => []
    | some command =>
      [("Cmd", Json.writeList (command.map Json.writeText))]) ++ [
  ("Env", Json.writeList (blueprint.environment.map Json.writeText)),
  ("ExposedPorts", Json.writeObject
    (blueprint.exposedPorts.keys.map
      (fun name => (name, Json.writeObject [])))),
  ("HostConfig", Json.writeObject [
    ("PublishAllPorts", writeTruth blueprint.publishAllPorts),
    ("RestartPolicy",
      Json.writeObject [("Name", Json.writeText "no")])]),
  ("Image", Json.writeText blueprint.image)]

/-- The written form of a blueprint. -/
def write (blueprint : Blueprint) : Bytes :=
  Json.writeObject blueprint.members

end Blueprint

end Workloads.Docker
