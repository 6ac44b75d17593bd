import Workloads.Http.MediaType
import Workloads.Http.Message
import Workloads.Http.Percent
import Workloads.Http.Resource
import Workloads.Service
import Workloads.Worker.Operation

/-!
# Endpoints

A request is understood first: its path, its method, then what its path and
its body say.  A request that cannot be understood is answered at once and
touches no task.  An understood request asks for at most one operation; the
response is a function of the operation's outcome, and an accepted submission
is followed by one launch in the background.
-/

namespace Workloads.Http

/-- A request that is understood. -/
inductive Endpoint where
  | health
  | list
  | submit (spec : LaunchSpec)
  | lookUp (id : String)
  | terminate (id : String) (request : StopRequest)
  | remove (id : String)
  deriving DecidableEq

/-- The largest body that is read. -/
def bodyLimit : Nat :=
  2097152

/-! ## Understanding requests -/

/-- The value of the first header of a name, in any letter case. -/
def Request.header? (request : Request) (name : String) : Option String :=
  (request.headers.find? (fun header => header.1.toLower = name)).map
    (fun header => header.2)

/-- The id that a path segment names. -/
def idOf (segment : Bytes) : Except Response String :=
  match Bytes.text? (Percent.decode segment) with
  | some id => .ok id
  | none =>
    .error (.text 400 "Invalid URL: Invalid UTF-8 in \x60id\x60")

/-- The body, unless it is too large. -/
def Request.boundedBody (request : Request) : Except Response Bytes :=
  if request.body.length ≤ bodyLimit then .ok request.body
  else
    .error (.text 413
      "Failed to buffer the request body: length limit exceeded")

/-- The response to a body that is no launch specification. -/
def specFault (fault : Json.Fault) : Response :=
  match fault.problem.category with
  | .mismatched =>
    .text 422
      ("Failed to deserialize the JSON body into the target type: " ++
        fault.located)
  | _ =>
    .text 400
      ("Failed to parse the request body as JSON: " ++ fault.located)

/-- The launch specification in a request. -/
def Request.spec (request : Request) : Except Response LaunchSpec :=
  match request.header? "content-type" with
  | none => notJson
  | some header =>
    if MediaType.announcesJson header then
      match request.boundedBody with
      | .error response => .error response
      | .ok body =>
        match LaunchSpec.reader.readAll body with
        | .error fault => .error (specFault fault)
        | .ok spec => .ok spec
    else
      notJson
where
  notJson : Except Response LaunchSpec :=
    .error (.text 415
      "Expected request with \x60Content-Type: application/json\x60")

/-- The stop request in a request for a termination. -/
def Request.stopRequest (request : Request) :
    Except Response StopRequest :=
  match request.boundedBody with
  | .error response => .error response
  | .ok body =>
    match StopRequest.ofBody body with
    | .error fault =>
      .error (ServiceError.badRequest fault.problem.text).response
    | .ok stop => .ok stop

/-- What a request asks of a resource that has its method. -/
def Request.ask (request : Request) : Resource → Except Response Endpoint
  | .health => .ok .health
  | .tasks =>
    if request.method = "POST" then
      match request.spec with
      | .error response => .error response
      | .ok spec => .ok (.submit spec)
    else
      .ok .list
  | .task segment =>
    match idOf segment with
    | .error response => .error response
    | .ok id => .ok (.lookUp id)
  | .termination segment =>
    match idOf segment with
    | .error response => .error response
    | .ok id =>
      match request.stopRequest with
      | .error response => .error response
      | .ok stop => .ok (.terminate id stop)
  | .removal segment =>
    match idOf segment with
    | .error response => .error response
    | .ok id => .ok (.remove id)

/-- Understands a request, or answers why it cannot. -/
def Request.endpoint (request : Request) : Except Response Endpoint :=
  match Resource.ofPath? request.path with
  | none => .error (.empty 404)
  | some resource =>
    if request.method ∈ resource.methods then request.ask resource
    else .error (.methodNotAllowed resource.methods)

/-- The response as its request wants it: without a body for a head
request. -/
def Request.deliver (request : Request) (response : Response) : Response :=
  if request.method = "HEAD" then response.headOnly else response

/-! ## Answering requests -/

namespace Endpoint

/-- The operation that an endpoint asks for. -/
def operation? : Endpoint → Option Operation
  | health => none
  | list => some .list
  | submit spec => some (.submit spec)
  | lookUp id => some (.get id)
  | terminate id request => some (.terminate id request)
  | remove id => some (.remove id)

/-- What is reported before the operation. -/
def announcements : Endpoint → List Event
  | lookUp id => [.summaryRequested id]
  | _ => []

/-- The report on the service itself. -/
def healthResponse : Response :=
  .json 200
    (Json.writeObject [
      ("service", Json.writeText Service.name),
      ("version", Json.writeText Service.version)])

end Endpoint

/-- The response to the outcome of an operation. -/
def respond : Result → Response
  | .ok (.task task) => .json 200 task.summary.write
  | .ok (.ids ids) => .json 200 (Listing.write { ids := ids })
  | .ok .removed => .empty 200
  | .error error => (ServiceError.task error).response

/-- The launch that follows the outcome of an operation, by its id. -/
def Endpoint.followUp : Endpoint → Result → Option String
  | submit _, .ok (.task task) => some task.id
  | _, _ => none

end Workloads.Http
