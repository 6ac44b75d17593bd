import Workloads.Json.Record

/-!
# Replies of the daemon

A reply succeeds with a status of the two hundreds, with 101 or with 304; any
other carries the daemon's own message, as JSON or as it stands.  Creating
answers the new container's id.
-/

namespace Workloads.Docker

open Json

/-- A reply of the daemon. -/
structure Reply where
  status : Nat
  body : Bytes := []
  deriving DecidableEq, Repr

/-- Why a request to the daemon failed. -/
inductive DaemonFault where
  | refused (status : Nat) (message : String)
  /-- The reply is not what it should be. -/
  | undecoded (problem : Problem)
  /-- The reply is no JSON, or not all of it. -/
  | unparsed (problem : Problem)
  | pullError
  | unfinishedLine
  deriving DecidableEq, Repr

/-- The wording of a daemon fault. -/
def DaemonFault.text : DaemonFault → String
  | refused status message =>
    "Docker responded with status code " ++ toString status ++ ": " ++
      message
  | undecoded problem => "Failed to deserialize JSON: " ++ problem.text
  | unparsed problem => problem.text
  | pullError => "Docker stream error"
  | unfinishedLine => "bytes remaining on stream"

/-! ## Success and refusal -/

namespace Reply

/-- Whether a reply succeeds. -/
def succeeds (reply : Reply) : Bool :=
  (200 ≤ reply.status && reply.status ≤ 299) ||
    [101, 304].contains reply.status

/-- The content of a reply; three statuses never have one. -/
def content (reply : Reply) : Bytes :=
  if [101, 204, 304].contains reply.status then [] else reply.body

end Reply

/-- The shape of the daemon's own messages. -/
def errorRecord : Record (Option String) String where
  name := "DockerServerErrorMessage"
  blank := none
  fields := [
    { name := "message"
      filled := fun draft => draft.isSome
      value := Reader.text.map (fun value _ => some value) }]
  build draft :=
    match draft with
    | none => .error (.missingField "message")
    | some message => .ok message

/-- Why the daemon refused: its message, or the whole body if that is none.
The body is read as the text that can be made of it. -/
def Reply.refusal (reply : Reply) : DaemonFault :=
  let text := Bytes.readable reply.content
  if text.isEmpty then .refused reply.status ""
  else
    match errorRecord.reader.readAll (Bytes.ofText text) with
    | .ok message => .refused reply.status message
    | .error fault =>
      match fault.problem.category with
      | .truncated => .unparsed fault.problem
      | _ => .refused reply.status text

/-- Whether a reply without expected content succeeds. -/
def Reply.acknowledgement (reply : Reply) : Except DaemonFault Unit :=
  if reply.succeeds then .ok () else .error reply.refusal

/-! ## Creation -/

/-- A created container while its members are read. -/
structure CreatedDraft where
  id : Option String := none
  warned : Bool := false

/-- The shape of a reply to a creation; its warnings may be null. -/
def createdRecord : Record CreatedDraft String where
  name := "ContainerCreateResponse"
  blank := {}
  fields := [
    { name := "Id"
      filled := fun draft => draft.id.isSome
      value := Reader.text.map
        (fun value draft => { draft with id := some value }) },
    { name := "Warnings"
      filled := fun draft => draft.warned
      value := Reader.text.list.nullable.map
        (fun _ draft => { draft with warned := true }) }]
  build draft :=
    match draft.id, draft.warned with
    | none, _ => .error (.missingField "Id")
    | some _, false => .error (.missingField "Warnings")
    | some id, true => .ok id

/-- The id of a created container. -/
def Reply.created (reply : Reply) : Except DaemonFault String :=
  if reply.succeeds then
    match createdRecord.reader.readAll reply.content with
    | .ok id => .ok id
    | .error fault =>
      match fault.problem.category with
      | .truncated => .error (.unparsed fault.problem)
      | _ => .error (.undecoded fault.problem)
  else
    .error reply.refusal

end Workloads.Docker
