import Workloads.Json.Record
import Workloads.Json.Writer
import Workloads.Task.Basic

/-!
# Messages about tasks

The JSON forms of what clients send and are sent: launch specifications,
statuses, summaries, listings and stop requests.  The member names are those
of the service's interface.
-/

namespace Workloads

open Json

/-! ## Statuses -/

/-- Statuses are written by their words. -/
def Status.enumeration : Enumeration Status where
  values := Status.all
  word := Status.word

/-- The reader of statuses. -/
def Status.reader : Reader Status :=
  Status.enumeration.reader

/-- The written form of a status. -/
def Status.write (status : Status) : Bytes :=
  writeText status.word

/-! ## Launch specifications -/

namespace LaunchSpec

/-- A launch specification while its members are read. -/
structure Draft where
  id : Option String := none
  label : Option String := none
  image : Option String := none
  command : Option (List String) := none
  environment : Option (KeyMap String) := none
  ports : Option (List UInt16) := none

/-- The id and the label are required, all else may be missing. -/
def record : Record Draft LaunchSpec where
  name := "TaskConfig"
  blank := {}
  fields := [
    { name := "id"
      filled := fun draft => draft.id.isSome
      value := Reader.text.map
        (fun value draft => { draft with id := some value }) },
    { name := "name"
      filled := fun draft => draft.label.isSome
      value := Reader.text.map
        (fun value draft => { draft with label := some value }) },
    { name := "image_name"
      mayBeLeftOut := true
      filled := fun draft => draft.image.isSome
      value := Reader.text.map
        (fun value draft => { draft with image := some value }) },
    { name := "commands"
      mayBeLeftOut := true
      filled := fun draft => draft.command.isSome
      value := Reader.text.list.map
        (fun value draft => { draft with command := some value }) },
    { name := "env"
      mayBeLeftOut := true
      filled := fun draft => draft.environment.isSome
      value := Reader.text.keyMap.map
        (fun value draft => { draft with environment := some value }) },
    { name := "ports"
      mayBeLeftOut := true
      filled := fun draft => draft.ports.isSome
      value := Reader.port.list.map
        (fun value draft => { draft with ports := some value }) }]
  build draft :=
    match draft.id, draft.label with
    | none, _ => .error (.missingField "id")
    | some _, none => .error (.missingField "name")
    | some id, some label =>
      .ok {
        id := id
        label := label
        image := draft.image.getD ""
        command := draft.command.getD []
        environment := draft.environment.getD ∅
        ports := draft.ports.getD [] }

/-- The reader of launch specifications. -/
def reader : Reader LaunchSpec :=
  record.reader

/-- The members of a written launch specification, with the environment in
the given order. -/
def membersInOrder (spec : LaunchSpec)
    (environment : List (String × String)) : List (String × Bytes) := [
  ("id", writeText spec.id),
  ("name", writeText spec.label),
  ("image_name", writeText spec.image),
  ("commands", writeList (spec.command.map writeText)),
  ("env", writeObject
    (environment.map (fun entry => (entry.1, writeText entry.2)))),
  ("ports", writeList
    (spec.ports.map (fun port => writeNat port.toNat)))]

/-- The written form of a launch specification, with the environment in the
given order. -/
def writeInOrder (spec : LaunchSpec)
    (environment : List (String × String)) : Bytes :=
  writeObject (spec.membersInOrder environment)

/-- The written form of a launch specification. -/
def write (spec : LaunchSpec) : Bytes :=
  spec.writeInOrder spec.environment.entries

end LaunchSpec

/-! ## Summaries -/

namespace Summary

/-- A summary while its members are read. -/
structure Draft where
  id : Option String := none
  status : Option Status := none
  containerName : Option String := none
  containerId : Option (Option String) := none
  reason : Option (Option String) := none
  message : Option (Option String) := none

/-- The first three fields are required; in a list, all six are. -/
def record : Record Draft Summary where
  name := "TaskInfo"
  blank := {}
  fields := [
    { name := "id"
      filled := fun draft => draft.id.isSome
      value := Reader.text.map
        (fun value draft => { draft with id := some value }) },
    { name := "status"
      filled := fun draft => draft.status.isSome
      value := Status.reader.map
        (fun value draft => { draft with status := some value }) },
    { name := "container_name"
      filled := fun draft => draft.containerName.isSome
      value := Reader.text.map
        (fun value draft => { draft with containerName := some value }) },
    { name := "container_id"
      filled := fun draft => draft.containerId.isSome
      value := Reader.text.nullable.map
        (fun value draft => { draft with containerId := some value }) },
    { name := "termination_reason"
      filled := fun draft => draft.reason.isSome
      value := Reader.text.nullable.map
        (fun value draft => { draft with reason := some value }) },
    { name := "termination_message"
      filled := fun draft => draft.message.isSome
      value := Reader.text.nullable.map
        (fun value draft => { draft with message := some value }) }]
  build draft :=
    match draft.id, draft.status, draft.containerName with
    | none, _, _ => .error (.missingField "id")
    | some _, none, _ => .error (.missingField "status")
    | some _, some _, none => .error (.missingField "container_name")
    | some id, some status, some containerName =>
      .ok {
        id := id
        status := status
        containerName := containerName
        containerId := draft.containerId.getD none
        reason := draft.reason.getD none
        message := draft.message.getD none }

/-- The reader of summaries. -/
def reader : Reader Summary :=
  record.reader

/-- The members of a written summary. -/
def members (summary : Summary) : List (String × Bytes) := [
  ("id", writeText summary.id),
  ("status", summary.status.write),
  ("container_name", writeText summary.containerName),
  ("container_id", writeOptional summary.containerId),
  ("termination_reason", writeOptional summary.reason),
  ("termination_message", writeOptional summary.message)]

/-- The written form of a summary. -/
def write (summary : Summary) : Bytes :=
  writeObject summary.members

end Summary

/-! ## Listings -/

namespace Listing

/-- The only field of a listing is required. -/
def record : Record (Option (List String)) Listing where
  name := "TaskList"
  blank := none
  fields := [
    { name := "ids"
      filled := fun draft => draft.isSome
      value := Reader.text.list.map (fun value _ => some value) }]
  build draft :=
    match draft with
    | none => .error (.missingField "ids")
    | some ids => .ok { ids := ids }

/-- The reader of listings. -/
def reader : Reader Listing :=
  record.reader

/-- The written form of a listing. -/
def write (listing : Listing) : Bytes :=
  writeObject [("ids", writeList (listing.ids.map writeText))]

end Listing

/-! ## Stop requests -/

namespace StopRequest

/-- A stop request while its members are read. -/
structure Draft where
  timeout : Option (Option Nat) := none
  reason : Option (Option String) := none
  message : Option (Option String) := none

/-- All fields may be missing; in a list, all three must be there. -/
def record : Record Draft StopRequest where
  name := "TerminateRequest"
  blank := {}
  fields := [
    { name := "timeout"
      filled := fun draft => draft.timeout.isSome
      value := Reader.word.nullable.map
        (fun value draft => { draft with timeout := some value }) },
    { name := "reason"
      filled := fun draft => draft.reason.isSome
      value := Reader.text.nullable.map
        (fun value draft => { draft with reason := some value }) },
    { name := "message"
      filled := fun draft => draft.message.isSome
      value := Reader.text.nullable.map
        (fun value draft => { draft with message := some value }) }]
  build draft :=
    .ok {
      timeout := draft.timeout.getD none
      reason := draft.reason.getD none
      message := draft.message.getD none }

/-- The reader of stop requests. -/
def reader : Reader StopRequest :=
  record.reader

/-- White space in the widest ASCII sense: space, tab, line feed, form feed
and carriage return. -/
def isSpace (octet : UInt8) : Bool :=
  octet = 32 || octet = 9 || octet = 10 || octet = 12 || octet = 13

/-- Reads the body of a stop request; a body of white space alone asks for the
defaults. -/
def ofBody (body : Bytes) : Except Fault StopRequest :=
  if body.all isSpace then .ok {}
  else reader.readAll body

end StopRequest

end Workloads
