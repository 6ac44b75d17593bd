import Workloads.Docker.Request

/-!
# Clients of a daemon

What is heard of a daemon.  A pull yields a stream of items, each of them a
step of its progress or an error; any other request succeeds or fails.  An
error is known by its wording, which may be any text.  How items and wordings
come about is a matter of the client: what an engine does with them is the same
for every client and every daemon.
-/

namespace Workloads.Docker

/-- An item of a pull: a step with a status to report, perhaps, or an error. -/
inductive PullItem where
  | progress (status : Option String)
  | failed (reason : String)
  deriving DecidableEq, Repr

/-- What is heard of a request; of a creation, the id of the new container. -/
abbrev Request.Answer : Request → Type
  | .pull _ => List PullItem
  | .create _ _ => Except String String
  | .start _ => Except String Unit
  | .stop _ _ => Except String Unit
  | .remove _ => Except String Unit

/-- A client of daemons, each of which is in some state: what is heard of a
request, and the daemon after it. -/
class Client (State : Type) where
  ask (request : Request) (daemon : State) : request.Answer × State

end Workloads.Docker
