import Workloads.Docker.Client
import Workloads.Docker.Intake
import Workloads.Docker.Reply

/-!
# Pulls

The reply to a pull is a stream with a line of JSON for every step of its
progress; the first error ends it.  A step that needs more than a line is
joined with the next line once another portion has arrived, or the end.
-/

namespace Workloads.Docker

open Json

/-! ## Steps -/

/-- One step of a pull. -/
structure Progress where
  status : Option String
  error : Option String
  deriving DecidableEq, Repr

/-- A step of a pull while its members are read. -/
structure ProgressDraft where
  id : Bool := false
  error : Option (Option String) := none
  errorDetail : Bool := false
  status : Option (Option String) := none
  progress : Bool := false
  progressDetail : Bool := false

/-- The shape of two optional numbers or texts that nobody looks at. -/
def detailRecord {First Second : Type} (name first second : String)
    (firstReader : Reader First) (secondReader : Reader Second) :
    Record (Bool × Bool) Unit where
  name := name
  blank := (false, false)
  fields := [
    { name := first
      filled := fun draft => draft.1
      value := firstReader.nullable.map
        (fun _ draft => (true, draft.2)) },
    { name := second
      filled := fun draft => draft.2
      value := secondReader.nullable.map
        (fun _ draft => (draft.1, true)) }]
  build _ := .ok ()

/-- Signed words of sixty-four bits. -/
def signedWord : Reader Int :=
  Reader.integer .signed64

/-- The shape of a step of a pull; all its fields may be missing. -/
def progressRecord : Record ProgressDraft Progress where
  name := "CreateImageInfo"
  blank := {}
  fields := [
    { name := "id"
      filled := fun draft => draft.id
      value := Reader.text.nullable.map
        (fun _ draft => { draft with id := true }) },
    { name := "error"
      filled := fun draft => draft.error.isSome
      value := Reader.text.nullable.map
        (fun value draft => { draft with error := some value }) },
    { name := "errorDetail"
      filled := fun draft => draft.errorDetail
      value :=
        (detailRecord "ErrorDetail" "code" "message"
          signedWord Reader.text).reader.nullable.map
          (fun _ draft => { draft with errorDetail := true }) },
    { name := "status"
      filled := fun draft => draft.status.isSome
      value := Reader.text.nullable.map
        (fun value draft => { draft with status := some value }) },
    { name := "progress"
      filled := fun draft => draft.progress
      value := Reader.text.nullable.map
        (fun _ draft => { draft with progress := true }) },
    { name := "progressDetail"
      filled := fun draft => draft.progressDetail
      value :=
        (detailRecord "ProgressDetail" "current" "total"
          signedWord signedWord).reader.nullable.map
          (fun _ draft => { draft with progressDetail := true }) }]
  build draft :=
    .ok {
      status := draft.status.getD none
      error := draft.error.getD none }

/-- What a piece of a pull amounts to. -/
inductive PullPiece where
  | item (progress : Progress)
  | unfinished
  | faulty (fault : DaemonFault)
  deriving DecidableEq, Repr

/-- Reads a piece of a pull.  One that ends too early is unfinished, and so is
null. -/
def readPullPiece (piece : Bytes) : PullPiece :=
  match progressRecord.reader.nullable.readAll piece with
  | .ok (some progress) => .item progress
  | .ok none => .unfinished
  | .error fault =>
    match fault.problem.category with
    | .truncated => .unfinished
    | .mismatched => .faulty (.undecoded fault.problem)
    | .malformed => .faulty (.unparsed fault.problem)

/-- The item that a step of a pull makes. -/
def Progress.item (progress : Progress) : PullItem :=
  match progress.error with
  | some _ => .failed DaemonFault.pullError.text
  | none => .progress progress.status

/-! ## Portions -/

/-- The length of what stands in front of the content of a reply.  It tells
where the first portion ends, and no more. -/
def headLength : Nat :=
  80

/-- The most octets of a reply that are read at first. -/
def firstReading : Nat :=
  8192

/-- The most octets that are ever read at once. -/
def largestReading : Nat :=
  417792

/-- The portions in which content arrives, given how much is read at first;
after each reading twice as much is read.  The fuel is the length of the
content. -/
def portions : Nat → Nat → Nat → Bytes → List Bytes
  | 0, _, _, _ => []
  | fuel + 1, first, following, content =>
    if content.isEmpty then []
    else
      content.take first ::
        portions fuel following (min (2 * following) largestReading)
          (content.drop first)

/-- The portions in which the content of a reply arrives. -/
def Reply.portions (reply : Reply) : List Bytes :=
  Docker.portions reply.content.length (firstReading - headLength)
    (2 * firstReading) reply.content

/-! ## Items -/

/-- What a look at an intake finds. -/
inductive Finding where
  | step (progress : Progress) (left : Intake)
  | nothing (left : Intake)
  | faulty (fault : DaemonFault)

/-- Looks for a step at the start of an intake: in its first line, or in all
of it if no line has an end. -/
def Intake.look (intake : Intake) : Finding :=
  match intake.line? with
  | some line =>
    match readPullPiece line with
    | .item progress => .step progress (intake.behind line.length)
    | .unfinished => .nothing (intake.joinLine line)
    | .faulty fault => .faulty fault
  | none =>
    match readPullPiece intake.octets with
    | .item progress => .step progress intake.clear
    | .unfinished => .nothing intake
    | .faulty fault => .faulty fault

/-- The items of what is left when all has arrived; each step takes fuel. -/
def lastItems : Nat → Intake → List PullItem
  | 0, _ => []
  | fuel + 1, intake =>
    match intake.look with
    | .step progress left => progress.item :: lastItems fuel left
    | .faulty fault => [.failed fault.text]
    | .nothing left =>
      if left.octets.isEmpty then []
      else [.failed DaemonFault.unfinishedLine.text]

/-- The items of an intake and of the portions that are still to arrive; each
step and each taking in takes fuel. -/
def pullItems : Nat → Intake → List Bytes → List PullItem
  | 0, _, _ => []
  | fuel + 1, intake, incoming =>
    match intake.look with
    | .step progress left => progress.item :: pullItems fuel left incoming
    | .faulty fault => [.failed fault.text]
    | .nothing left =>
      match incoming with
      | [] => lastItems (left.octets.length + 1) left
      | portion :: rest =>
        let (fuller, waiting) := left.takeIn portion
        pullItems fuel fuller
          (if waiting.isEmpty then rest else waiting :: rest)

/-- The items of the reply to a pull. -/
def Reply.pullItems (reply : Reply) : List PullItem :=
  if reply.succeeds then
    Docker.pullItems (2 * reply.content.length + 1) (.ofOctets [])
      reply.portions
  else
    [.failed reply.refusal.text]

end Workloads.Docker
