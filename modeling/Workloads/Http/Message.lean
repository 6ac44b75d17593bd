import Workloads.Failure
import Workloads.Json.Writer
import Workloads.Message.Task

/-!
# Requests and responses

What arrives over HTTP and what is sent back.  Errors of tasks are answered by
an object whose one member holds the wording; errors of the request itself
that are found before its task is looked at are answered by plain text.
-/

namespace Workloads.Http

/-- A request as a connection hands it over.  Its path may have any length here;
connections turn down an address of more than 65534 octets by themselves. -/
structure Request where
  method : String
  path : String
  headers : List (String × String) := []
  body : Bytes := []

/-- A response. -/
structure Response where
  status : Nat
  contentType : Option String := none
  allow : Option String := none
  body : Bytes := []
  deriving DecidableEq, Repr

namespace Response

/-- A response without a body. -/
def empty (status : Nat) : Response where
  status := status

/-- A response whose body is a written JSON value. -/
def json (status : Nat) (body : Bytes) : Response where
  status := status
  contentType := some "application/json"
  body := body

/-- A response whose body is plain text. -/
def text (status : Nat) (wording : String) : Response where
  status := status
  contentType := some "text/plain; charset=utf-8"
  body := Bytes.ofText wording

/-- The response to a method that a resource does not have. -/
def methodNotAllowed (methods : List String) : Response where
  status := 405
  allow := some (String.intercalate "," methods)

/-- The response with its body left out. -/
def headOnly (response : Response) : Response :=
  { response with body := [] }

end Response

/-- An error that is answered by an object. -/
inductive ServiceError where
  | badRequest (wording : String)
  | task (error : TaskError)
  deriving DecidableEq, Repr

namespace ServiceError

/-- The status that answers an error. -/
def status : ServiceError → Nat
  | badRequest _ => 400
  | task (.alreadyExists _) | task (.notTerminated _) => 409
  | task (.notFound _) => 404
  | task (.runtime _) => 500

/-- The wording of an error. -/
def text : ServiceError → String
  | badRequest wording => wording
  | task error => error.text

/-- The response to an error. -/
def response (error : ServiceError) : Response :=
  .json error.status
    (Json.writeObject [("error", Json.writeText error.text)])

end ServiceError

end Workloads.Http
